/-!
Why a text is no JSON document, and where: line and column count from one, the offset from zero, in characters.
-/

namespace ReportPress.Json

inductive Fault where
  | value
  | name
  | colon
  | comma
  | extra
  | unterminated
  | control
  | escape
  | unicodeEscape
  | byteOrderMark
deriving DecidableEq, Repr

def Fault.message : Fault → String
  | .value => "Expecting value"
  | .name => "Expecting property name enclosed in double quotes"
  | .colon => "Expecting ':' delimiter"
  | .comma => "Expecting ',' delimiter"
  | .extra => "Extra data"
  | .unterminated => "Unterminated string starting at"
  | .control => "Invalid control character at"
  | .escape => "Invalid \\escape"
  | .unicodeEscape => "Invalid \\uXXXX escape"
  | .byteOrderMark => "Unexpected UTF-8 BOM (decode using utf-8-sig)"

/-- a place in a text -/
structure Place where
  line : Nat
  column : Nat
  offset : Nat
deriving DecidableEq, Repr

/-- the place after the characters `before` -/
def Place.after (before : List Char) : Place :=
  { line := before.count '\n' + 1
    column := (before.reverse.takeWhile (· != '\n')).length + 1
    offset := before.length }

inductive Error where
  | malformed (fault : Fault) (place : Place)
  /-- an integer with more digits than are converted -/
  | tooLong (digits : Nat)
deriving DecidableEq, Repr

def Place.message (p : Place) : String :=
  "line " ++ Nat.repr p.line ++ " column " ++ Nat.repr p.column ++ " (char " ++ Nat.repr p.offset ++ ")"

end ReportPress.Json
