import ReportPress.Failure
/-!
Notes: what a run tells beside its result. A computation with notes keeps those made before a failure.
-/

namespace ReportPress

inductive Level where
  | info
  | warning
deriving DecidableEq, Repr

/-- the part of the program that a note comes from -/
inductive Topic where
  | records
  | templates
  | painting
  | documents
  | assets
deriving DecidableEq, Repr

structure Note where
  level : Level
  topic : Topic
  text : String
deriving DecidableEq, Repr

/-- a computation that makes notes and may fail -/
abbrev Noting (α : Type) := ExceptT Failure (StateM (List Note)) α

namespace Noting

def note (n : Note) : Noting Unit := modify (· ++ [n])

def warn (topic : Topic) (text : String) : Noting Unit := note ⟨.warning, topic, text⟩

def ofExcept (r : Except Failure α) : Noting α := fun notes => (r, notes)

/-- the outcome, and the notes made on the way -/
def outcome (x : Noting α) : Except Failure α × List Note := x.run.run []

end Noting

end ReportPress
