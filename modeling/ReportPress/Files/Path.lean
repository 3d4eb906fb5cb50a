import ReportPress.Text.Split
/-!
Paths of files. A path is absolute or relative and a list of names; empty names and the name of the current directory
are dropped, the name of the parent directory is kept until the path is looked up. Two slashes at the start, and no
third, are kept apart from one.

A path that comes from a record may be more than a text: a record can hold halves of the pairs that stand for some
characters in other codings. A name with such halves is the name of a file if each of them stands for an octet.
-/

namespace ReportPress

structure Path where
  /-- slashes at the start: none, one or two -/
  slashes : Nat
  parts : List String
deriving DecidableEq, Repr

namespace Path

def relative (parts : List String) : Path := ⟨0, parts⟩

def partsOf (cs : List Char) : List String :=
  ((Text.split '/' cs).map String.ofList).filter fun p => p != "" && p != "."

def ofString (s : String) : Path :=
  let cs := s.toList
  let slashes := (cs.takeWhile (· == '/')).length
  ⟨if slashes = 0 then 0 else if slashes = 2 then 2 else 1, partsOf cs⟩

def isAbsolute (p : Path) : Bool := p.slashes != 0

def text (p : Path) : String :=
  if p.slashes = 0 && p.parts.isEmpty then "."
  else String.ofList (List.replicate p.slashes '/') ++ "/".intercalate p.parts

/-- `q` seen from `p`; an absolute `q` stands by itself -/
def join (p q : Path) : Path := if q.isAbsolute then q else ⟨p.slashes, p.parts ++ q.parts⟩

/-- the directory that holds the path -/
def parent (p : Path) : Path := ⟨p.slashes, p.parts.dropLast⟩

def name (p : Path) : String := p.parts.getLast?.getD ""

/-- names from the top down, each step back undone -/
def climb {α : Type} [DecidableEq α] (back : α) : List α → List α → List α
  | done, [] => done.reverse
  | done, p :: rest => if p = back then climb back done.tail rest else climb back (p :: done) rest

/-- the absolute path without steps back and with one slash at its start, relative paths counting from `here` -/
def resolve (here p : Path) : Path :=
  let q := join here p
  ⟨min q.slashes 1, climb ".." [] q.parts⟩

/-- a name's ending from its last point on; a name that starts with its only points has none -/
def ending (name : List Char) : List Char :=
  let body := name.dropWhile (· == '.')
  if body.contains '.' then '.' :: (body.reverse.takeWhile (· != '.')).reverse else []

/-- the ending of the last name of the path -/
def extension (s : String) : String :=
  String.ofList (ending ((Text.split '/' s.toList).getLast?.getD []))

end Path

/-! ## Any text as a path -/

/-- a part of a text in a record: a character, or half of a pair by itself, counted from U+D800 -/
inductive CodePoint where
  | char (c : Char)
  | half (n : Fin 2048)
deriving DecidableEq

/-- the octets of a part in the name of a file; the halves from U+DC80 to U+DCFF stand for the octets from 128 to 255 -/
def CodePoint.octets? : CodePoint → Option (List UInt8)
  | .char c => some (String.utf8EncodeChar c)
  | .half n => if 0x480 ≤ n.val && n.val < 0x500 then some [UInt8.ofNat (n.val - 0x400)] else none

/-- a text as a record can hold it -/
abbrev RawText := List CodePoint

namespace RawText

def ofString (s : String) : RawText := s.toList.map .char

instance : Coe String RawText := ⟨ofString⟩

/-- a text in words, in which halves cannot be shown -/
def text (t : RawText) : String :=
  String.ofList (t.map fun
    | .char c => c
    | .half _ => '\uFFFD')

/-- the octets of a name -/
def octets (t : RawText) : List UInt8 := t.flatMap fun p => p.octets?.getD []

/-- the names of a path -/
def names (path : RawText) : List RawText := (Text.split (.char '/') path).filter fun p => p != [] && p != ofString "."

end RawText

end ReportPress
