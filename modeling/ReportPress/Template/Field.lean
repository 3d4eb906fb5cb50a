import ReportPress.Failure
import ReportPress.Text.Blank
import ReportPress.Text.LetterCase
import ReportPress.Value.Equality
/-!
Fields of stored templates. A missing field and one that is null are the same. Numbers and truth values may also be
written as texts; any value may stand for a text.
-/

namespace ReportPress.Template

def fail {α : Type} (field : String) (need : Need) : Except Failure α := .error (.template (.must field need))

/-- a text that is not blank, without the blanks around it -/
def requiredText (v : Value) (field : String) : Except Failure String :=
  match v with
  | .string s =>
    let t := Text.trim s
    if t = "" then fail field .text else .ok t
  | _ => fail field .text

/-- the text of a value without the blanks around it; nothing if there is none left -/
def optionalText (v : Value) : Option String :=
  match v with
  | .null => none
  | v =>
    let t := Text.trim v.bare
    if t = "" then none else some t

/-- one of the named choices, in whatever case; nothing for a missing or empty field -/
def choice? {α : Type} (all : List α) (name : α → String) (v : Value) (field : String) :
    Except Failure (Option α) :=
  match v with
  | .null => .ok none
  | .string s =>
    if s = "" then .ok none
    else
      let key := Text.lower (Text.trim s)
      match all.find? fun a => Text.lower (name a) == key with
      | some a => .ok (some a)
      | none => fail field (.oneOf (all.map name))
  | _ => fail field (.oneOf (all.map name))

/-- an integer as a double, unless it is beyond them -/
def ofInteger (n : Int) : Except Failure Float := Failure.integerTooLarge.unlessFinite (Binary64.ofInt n)

/-- a number; the default for a missing one -/
def number (v : Value) (field : String) (default : Float) : Except Failure Float :=
  match v with
  | .null => .ok default
  | .int n => ofInteger n
  | .float x => .ok x
  | .string s =>
    match Numeral.readFloat s with
    | some x => .ok x
    | none => fail field .number
  | _ => fail field .number

/-- a number, if there is one -/
def number? (v : Value) (field : String) : Except Failure (Option Float) :=
  match v with
  | .null => .ok none
  | v => (number v field 0.0).map some

/-- words for true and false -/
def trueWords : List String := ["1", "true", "yes", "on"]

def falseWords : List String := ["0", "false", "no", "off"]

def boolWord? (s : String) : Option Bool :=
  let word := Text.lower (Text.trim s)
  if trueWords.contains word then some true else if falseWords.contains word then some false else none

def boolean (v : Value) (field : String) (default : Bool) : Except Failure Bool :=
  match v with
  | .null => .ok default
  | .bool b => .ok b
  | .string s =>
    match boolWord? s with
    | some b => .ok b
    | none => fail field .boolean
  | _ => fail field .boolean

/-- the items of a list; any unfilled value counts as an empty list -/
def items (v : Value) (field : String) : Except Failure (List Value) :=
  if !v.filled then .ok []
  else
    match v with
    | .list _ xs => .ok xs
    | _ => fail field .list

/-- every field's value by its key -/
def mapFields {α : Type} (f : String → Value → Except Failure α) : Fields → Except Failure (List (String × α))
  | [] => .ok []
  | (k, v) :: rest => do
    let a ← f k v
    return (k, a) :: (← mapFields f rest)

/-- every item's value by its place -/
def mapItems {α : Type} (f : Nat → Value → Except Failure α) : Nat → List Value → Except Failure (List α)
  | _, [] => .ok []
  | i, v :: rest => do
    let a ← f i v
    return a :: (← mapItems f (i + 1) rest)

def indexed (field : String) (i : Nat) : String := field ++ "[" ++ Nat.repr i ++ "]"

end ReportPress.Template
