/-!
The values that records, template contents and style bags are made of: what a JSON text can write, with integers of any
size beside doubles, and objects that keep the order in which their keys first appeared.

A container belongs to a record or to a template. Template containers are set once and for all when the template is
read (`Value.settle`); the two kinds are written differently and are never equal to one another.
Main statement: `get?_put`, what is put under a key is what is found there, and no other key is touched.
-/

namespace ReportPress

/-- whose a container is -/
inductive Owner where
  | record
  | template
deriving DecidableEq, Repr

inductive Value where
  | null
  | bool (b : Bool)
  | int (n : Int)
  | float (x : Float)
  | string (s : String)
  | list (owner : Owner) (items : List Value)
  | object (owner : Owner) (fields : List (String × Value))
deriving Inhabited

/-- what an object holds, in the order of first appearance of its keys -/
abbrev Fields := List (String × Value)

namespace Fields

def get? : List (String × α) → String → Option α
  | [], _ => none
  | (k', v) :: rest, k => if k = k' then some v else get? rest k

/-- the value of a key; a missing key counts as null -/
def getD (fs : Fields) (k : String) : Value := (get? fs k).getD .null

def contains (fs : List (String × α)) (k : String) : Bool := (get? fs k).isSome

/-- a new key goes to the end; a known key keeps its place -/
def put (k : String) (v : α) : List (String × α) → List (String × α)
  | [] => [(k, v)]
  | (k', v') :: rest => if k = k' then (k', v) :: rest else (k', v') :: put k v rest

/-- fields in the order written: the last value of a repeated key, in the place of the first -/
def ofList (fs : List (String × α)) : List (String × α) :=
  fs.foldl (fun acc f => put f.1 f.2 acc) []

theorem get?_put (k k' : String) (v : α) (fs : List (String × α)) :
    get? (put k v fs) k' = if k' = k then some v else get? fs k' := by
  induction fs with
  | nil => rfl
  | cons f r ih =>
    obtain ⟨a, b⟩ := f
    by_cases h : k = a
    · subst h
      by_cases h' : k' = k <;> simp [put, get?, h']
    · by_cases h' : k' = a
      · subst h'
        simp [put, get?, h, Ne.symm h]
      · simp [put, get?, h, h', ih]

end Fields

namespace Value

mutual
/-- the value as a template holds it: every record container in it becomes the template's own -/
def settle : Value → Value
  | .list .record items => .list .template (settleAll items)
  | .object _ fields => .object .template (settleFields fields)
  | v => v

def settleAll : List Value → List Value
  | [] => []
  | v :: rest => settle v :: settleAll rest

def settleFields : List (String × Value) → List (String × Value)
  | [] => []
  | (k, v) :: rest => (k, settle v) :: settleFields rest
end

/-- the fields of an object; none of anything else -/
def fields : Value → Fields
  | .object _ fs => fs
  | _ => []

def isObject : Value → Bool
  | .object .. => true
  | _ => false

def items? : Value → Option (List Value)
  | .list _ items => some items
  | _ => none

/-- the object under a key, or an empty one -/
def section? (fs : Fields) (k : String) : Fields := (Fields.getD fs k).fields

end Value

end ReportPress
