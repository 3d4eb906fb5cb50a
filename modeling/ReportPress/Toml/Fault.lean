import ReportPress.Value.Text
/-!
Why a text is no TOML document, and where.
-/

namespace ReportPress.Toml

inductive Fault where
  | statement
  | statementEnd
  | declaredTwice (key : List String)
  | immutable (key : List String)
  | redefined (key : List String)
  | overwritten
  | tableEnd
  | arrayEnd
  | equalsSign
  | keyStart
  | unclosedArray
  | unclosedInline
  | duplicateInline (key : String)
  | escape
  | hexValue
  | notScalar
  | unterminated
  | illegal (c : Char)
  | invalidCharacter (c : Char)
  | expected (text : String)
  | date
  | value
deriving DecidableEq, Repr

/-- a place in the document, or its end -/
inductive Place where
  | at (line column : Nat)
  | documentEnd
deriving DecidableEq, Repr

inductive Error where
  | malformed (fault : Fault) (place : Place)
  /-- an integer with more digits than are converted -/
  | tooLong (digits : Nat)
deriving DecidableEq, Repr

/-- a dotted key as messages write it -/
def keyText (key : List String) : String := Value.listText .template (key.map Text.quoted)

def Fault.message : Fault → String
  | .statement => "Invalid statement"
  | .statementEnd => "Expected newline or end of document after a statement"
  | .declaredTwice key => "Cannot declare " ++ keyText key ++ " twice"
  | .immutable key => "Cannot mutate immutable namespace " ++ keyText key
  | .redefined key => "Cannot redefine namespace " ++ keyText key
  | .overwritten => "Cannot overwrite a value"
  | .tableEnd => "Expected ']' at the end of a table declaration"
  | .arrayEnd => "Expected ']]' at the end of an array declaration"
  | .equalsSign => "Expected '=' after a key in a key/value pair"
  | .keyStart => "Invalid initial character for a key part"
  | .unclosedArray => "Unclosed array"
  | .unclosedInline => "Unclosed inline table"
  | .duplicateInline key => "Duplicate inline table key " ++ Text.quoted key
  | .escape => "Unescaped '\\' in a string"
  | .hexValue => "Invalid hex value"
  | .notScalar => "Escaped character is not a Unicode scalar value"
  | .unterminated => "Unterminated string"
  | .illegal c => "Illegal character " ++ Text.quoted (String.singleton c)
  | .invalidCharacter c => "Found invalid character " ++ Text.quoted (String.singleton c)
  | .expected text => "Expected " ++ Text.quoted text
  | .date => "Invalid date or datetime"
  | .value => "Invalid value"

def Place.message : Place → String
  | .at line column => "line " ++ Nat.repr line ++ ", column " ++ Nat.repr column
  | .documentEnd => "end of document"

def Error.message : Error → String
  | .malformed fault place => fault.message ++ " (at " ++ place.message ++ ")"
  | .tooLong digits => Numeral.tooLongMessage digits

end ReportPress.Toml
