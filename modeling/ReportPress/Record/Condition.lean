import ReportPress.Note
import ReportPress.Record.Path
import ReportPress.Value.Equality
/-!
Conditions on records. A condition tests the field at a path; where the record at hand does not have it, the record
behind it is asked if there is one. A test of an unknown name holds, with a note.
-/

namespace ReportPress

/-- what a condition tests -/
inductive Test where
  | equals
  | differs
  | present
  | absent
  | contains
  | unknown (name : String)
deriving DecidableEq, Repr

namespace Test

def known : List (String × Test) :=
  [("equals", .equals), ("not_equals", .differs), ("exists", .present), ("not_exists", .absent),
   ("contains", .contains)]

def ofName (name : String) : Test := (known.lookup name).getD (.unknown name)

def name : Test → String
  | .equals => "equals"
  | .differs => "not_equals"
  | .present => "exists"
  | .absent => "not_exists"
  | .contains => "contains"
  | .unknown name => name

end Test

structure Condition where
  field : String
  test : Test
  value : Value

namespace Condition

/-- a part of a text that starts anywhere in it -/
def occursIn (part : List Char) : List Char → Bool
  | [] => part.isEmpty
  | c :: rest => part.isPrefixOf (c :: rest) || occursIn part rest

/-- the field's value as the conditions see it -/
def fieldValue (field : String) (scope : Value) (behind : Option Value) : Except Failure (Option Value) :=
  match Record.resolve scope field, behind with
  | .ok none, some root => Record.resolve root field
  | r, _ => r

def isEqual (found : Option Value) (v : Value) : Bool :=
  match found with
  | none => false
  | some w => Value.strictEq w v

def isPresent : Option Value → Bool
  | none => false
  | some v => !v.isNull

/-- a text contains a part, a list an item -/
def isContained (found : Option Value) (v : Value) : Bool :=
  match found, v with
  | some (.string s), .string part => occursIn part.toList s.toList
  | some (.string _), _ => false
  | some (.list _ items), v => items.any fun item => Value.strictEq item v
  | _, _ => false

def holds (c : Condition) (scope : Value) (behind : Option Value) : Noting Bool := do
  let found ← Noting.ofExcept (fieldValue c.field scope behind)
  match c.test with
  | .equals => return isEqual found c.value
  | .differs => return !isEqual found c.value
  | .present => return isPresent found
  | .absent => return !isPresent found
  | .contains => return isContained found c.value
  | .unknown name =>
    Noting.warn .records ("Unknown condition operator " ++ Text.quoted name ++ " on field " ++
      Text.quoted c.field ++ "; treating as true")
    return true

/-- all conditions hold; the first that does not is the last that is looked at -/
def allHold (scope : Value) (behind : Option Value) : List Condition → Noting Bool
  | [] => return true
  | c :: rest => do
    if ← c.holds scope behind then allHold scope behind rest else return false

end Condition

end ReportPress
