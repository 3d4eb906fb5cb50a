import ReportPress.Template.Basic
/-!
What a section contributes for a record: its instances, one after the other, with the notes made on the way, up to the
end or to a failure.

A section that does not repeat has one instance if its conditions hold on the record; a repeatable one has an instance
for each item of the list it is bound to on which its conditions hold, the record standing behind the item.
-/

namespace ReportPress

structure Instance where
  /-- the value that the components see -/
  scope : Value
  /-- the item's place in the list that the section repeats over; none for a section that does not repeat -/
  index : Option Nat

/-- an instance without a place in a list stays where its section is declared -/
def Instance.isAnchored (i : Instance) : Bool := i.index.isNone

/-- a step in the expansion of a section -/
inductive Event where
  | note (n : Note)
  | place (i : Instance)
  | stop (f : Failure)

def Event.instance? : Event → Option Instance
  | .place i => some i
  | _ => none

namespace Section

/-- the value that an instance sees which does not repeat: the object that the section is bound to, else the record -/
def boundScope (s : Section) (root : Value) : Except Failure Value :=
  if s.dataBinding = "" then .ok root
  else
    match Record.resolve root s.dataBinding with
    | .error f => .error f
    | .ok (some (.object owner fields)) => .ok (.object owner fields)
    | .ok _ => .ok root

def expandOnce (s : Section) (root : Value) : List Event :=
  let (admitted, notes) := (Condition.allHold root none s.conditions).outcome
  notes.map .note ++
    match admitted with
    | .error f => [.stop f]
    | .ok false => []
    | .ok true =>
      match s.boundScope root with
      | .error f => [.stop f]
      | .ok scope => [.place ⟨scope, none⟩]

/-- the instances for the items from place `i` on -/
def expandItems (s : Section) (root : Value) : Nat → List Value → List Event
  | _, [] => []
  | i, item :: rest =>
    let (admitted, notes) := (Condition.allHold item (some root) s.conditions).outcome
    notes.map .note ++
      match admitted with
      | .error f => [.stop f]
      | .ok false => expandItems s root (i + 1) rest
      | .ok true => .place ⟨item, some i⟩ :: expandItems s root (i + 1) rest

def expand (s : Section) (root : Value) : List Event :=
  if !s.isRepeatable then s.expandOnce root
  else
    match Record.resolve root s.dataBinding with
    | .error f => [.stop f]
    | .ok (some (.list _ items)) => s.expandItems root 0 items
    | .ok _ => []

end Section

end ReportPress
