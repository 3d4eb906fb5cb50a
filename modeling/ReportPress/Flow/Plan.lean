import ReportPress.Flow.Cursor
/-!
Where flowing instances come to stand, worked out from lengths alone: each section that repeats is a run of instances of
one height, and the cursor takes the runs one after the other. The layout of a document moves its cursor by the same
steps.
Main statements: `plan_length`, every instance has its slot; `slots_append`, a run may be cut in two.
-/

namespace ReportPress

/-- the instances of one repeating section: where it is declared, how high each instance is, and how many there are -/
structure Run (α : Type) where
  declared : α
  height : α
  count : Nat

/-- where an instance stands -/
structure Slot (α : Type) where
  page : Nat
  y : α
deriving Repr

namespace Run

variable {α : Type} [Length α]

/-- the slots of `n` instances from the cursor on, and the cursor after them -/
def slots (f : Frame α) (height : α) : Nat → Cursor α → List (Slot α) × Cursor α
  | 0, c => ([], c)
  | n + 1, c =>
    let here := c.ready f
    let (rest, last) := slots f height n (here.advance f height)
    (⟨here.page, here.y⟩ :: rest, last)

/-- the slots of a run; a run of no instances leaves the cursor alone -/
def place (f : Frame α) (r : Run α) (c : Cursor α) : List (Slot α) × Cursor α :=
  slots f r.height r.count (if r.count = 0 then c else c.enter f r.declared)

/-- the slots of several runs -/
def plan (f : Frame α) : List (Run α) → Cursor α → List (Slot α)
  | [], _ => []
  | r :: rest, c =>
    let (here, next) := r.place f c
    here ++ plan f rest next

/-- the number of instances of several runs -/
def total : List (Run α) → Nat
  | [] => 0
  | r :: rest => r.count + total rest

theorem slots_length (f : Frame α) (height : α) (n : Nat) (c : Cursor α) :
    (slots f height n c).1.length = n := by
  induction n generalizing c with
  | zero => rfl
  | succ n ih => simp [slots, ih]

theorem slots_append (f : Frame α) (height : α) (m n : Nat) (c : Cursor α) :
    slots f height (m + n) c =
      ((slots f height m c).1 ++ (slots f height n (slots f height m c).2).1,
        (slots f height n (slots f height m c).2).2) := by
  induction m generalizing c with
  | zero => simp [slots]
  | succ m ih => rw [Nat.succ_add]; simp [slots, ih]

theorem plan_length (f : Frame α) (rs : List (Run α)) (c : Cursor α) : (plan f rs c).length = total rs := by
  induction rs generalizing c with
  | nil => rfl
  | cons r rest ih => rw [plan, List.length_append, place, slots_length, ih, total]

end Run

end ReportPress
