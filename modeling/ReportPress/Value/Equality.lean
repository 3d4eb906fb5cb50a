import ReportPress.Value.Text
/-!
Equality of values.

Numbers are compared by what they are worth, exactly, so an integer may equal a double. `Value.same` compares the
contents of containers: there a truth value is the number it stands for, and what is no number equals itself.
`Value.strictEq` compares two values as such: truth values only with truth values, and values of different kinds never.
`Value.looseEq` also takes two values for equal whose texts agree, unless one is null.
-/

namespace ReportPress.Value

/-- what a number is worth, in units of 2 ^ -1074 if it is finite -/
inductive Worth where
  | nan
  | infinite (negative : Bool)
  | finite (units : Int)
deriving DecidableEq, Repr

namespace Worth

def ofInt (n : Int) : Worth := .finite (n * Binary64.unitsPerOne)

def ofFloat (x : Float) : Worth :=
  match Binary64.read x with
  | .nan => .nan
  | .infinite negative => .infinite negative
  | .finite b => .finite b.units

/-- equality of numbers: what is no number equals nothing -/
def equal : Worth → Worth → Bool
  | .nan, _ => false
  | _, .nan => false
  | a, b => a == b

end Worth

/-- the worth of a number, truth values aside -/
def number? : Value → Option Worth
  | .int n => some (.ofInt n)
  | .float x => some (.ofFloat x)
  | _ => none

/-- the worth of a number or a truth value -/
def numeric? : Value → Option Worth
  | .bool b => some (.ofInt (if b then 1 else 0))
  | v => v.number?

mutual
/-- equality of the contents of containers -/
def same : Value → Value → Bool
  | .null, .null => true
  | .string s, .string t => s == t
  | .list o xs, .list p ys => o == p && sameAll xs ys
  | .object o fs, .object p gs => o == p && fs.length == gs.length && sameFields fs gs
  | v, w =>
    match v.numeric?, w.numeric? with
    | some a, some b => a == b
    | _, _ => false

def sameAll : List Value → List Value → Bool
  | [], [] => true
  | v :: vs, w :: ws => same v w && sameAll vs ws
  | _, _ => false

/-- every field is found among the others -/
def sameFields : List (String × Value) → List (String × Value) → Bool
  | [], _ => true
  | (k, v) :: rest, gs =>
    (match Fields.get? gs k with
     | some w => same v w
     | none => false) && sameFields rest gs
end

def strictEq : Value → Value → Bool
  | .bool a, .bool b => a == b
  | .bool _, _ => false
  | _, .bool _ => false
  | v, w =>
    match v.number?, w.number? with
    | some a, some b => a.equal b
    | _, _ => same v w

def isNull : Value → Bool
  | .null => true
  | _ => false

def looseEq (v w : Value) : Bool :=
  strictEq v w || (!v.isNull && !w.isNull && v.bare == w.bare)

/-- a value holds as a condition unless it is null, false, zero or an empty string; containers always hold -/
def truthy : Value → Bool
  | .null => false
  | .bool b => b
  | .int n => n != 0
  | .float x => Worth.ofFloat x != .finite 0
  | .string s => s != ""
  | _ => true

/-- a value fills its place unless it is null, false, zero, or an empty string or container -/
def filled : Value → Bool
  | .list _ items => !items.isEmpty
  | .object _ fields => !fields.isEmpty
  | v => v.truthy

end ReportPress.Value
