import ReportPress.Proofs.Number.Numeral
import ReportPress.Record.Path
/-!
Paths that cannot be followed. A path that leads nowhere resolves to nothing; there is just one way to fail: on the way
a list is met with a segment that looks like digits, so that it is tried as a place, but that is no number that can be
read.

- `misleads`: such segments.
- `Strays`: a path strays if it meets a list with such a segment.
- `resolve_isOk`, `resolve_error`: a path fails to resolve just if it strays, and with a failure of its segment.
- `resolve_field`: a path of one segment, in an object.
-/

namespace ReportPress

/-- a failure of a segment of a path -/
inductive Failure.IsOfPath : Failure → Prop
  | badIndex (text : String) : IsOfPath (.badIndex text)
  | tooManyDigits (digits : ℕ) : IsOfPath (.tooManyDigits digits)

namespace Record

/-- the segment looks like digits, but not all of it is digits, or there are too many of them -/
def misleads (segment : List Char) : Bool :=
  !segment.isEmpty && segment.all Text.isDigitLike &&
    !(segment.all Text.isDigit && segment.length ≤ Numeral.digitLimit)

/-- following the segments from a value leads to a list that is asked for a misleading one -/
inductive Strays : List (List Char) → Value → Prop
  | here {segment : List Char} {rest : List (List Char)} {owner : Owner} {items : List Value}
      (h : misleads segment = true) : Strays (segment :: rest) (.list owner items)
  | later {segment : List Char} {rest : List (List Char)} {v w : Value} (hstep : step v segment = .ok (some w))
      (h : Strays rest w) : Strays (segment :: rest) v

/-- following a path from a record -/
def PathStrays (path : String) (record : Value) : Prop := Strays (Text.split '.' path.toList) record

theorem misleads_iff {segment : List Char} : misleads segment = true ↔
    (segment ≠ [] ∧ segment.all Text.isDigitLike = true) ∧
      ¬ (segment.all Text.isDigit = true ∧ segment.length ≤ Numeral.digitLimit) := by
  simp only [misleads, Bool.and_eq_true, Bool.not_eq_true', Bool.and_eq_false_iff, decide_eq_false_iff_not,
    List.isEmpty_eq_false_iff, not_and_or, Bool.not_eq_true]

theorem step_isOk (v : Value) (segment : List Char) :
    (step v segment).isOk = true ↔ ¬ (misleads segment = true ∧ ∃ owner items, v = .list owner items) := by
  cases v with
  | list owner items =>
    have hlist : ∃ o is, Value.list owner items = .list o is := ⟨owner, items, rfl⟩
    rw [and_iff_left hlist, misleads_iff]
    unfold step
    dsimp only
    by_cases hlike : segment ≠ [] ∧ segment.all Text.isDigitLike = true
    · have hread := Numeral.readInt_isOk hlike.1 (List.all_eq_true.1 hlike.2)
      rw [if_pos hlike, and_iff_right hlike, not_not, ← hread]
      rcases Numeral.readInt (String.ofList segment) with (_ | _) | n <;> rfl
    · rw [if_neg hlike]
      exact iff_of_true rfl fun h => hlike h.1
  | _ => exact iff_of_true rfl (by rintro ⟨-, owner, items, ⟨⟩⟩)

theorem step_error {v : Value} {segment : List Char} {f : Failure} (h : step v segment = .error f) : f.IsOfPath := by
  unfold step at h
  split at h
  · cases h
  · split at h
    · split at h
      · cases h
      · cases h; exact .badIndex _
      · cases h; exact .tooManyDigits _
    · cases h
  · cases h

theorem follow_isOk (segments : List (List Char)) (v : Value) :
    (follow segments v).isOk = true ↔ ¬ Strays segments v := by
  induction segments generalizing v with
  | nil => exact iff_of_true rfl (by rintro ⟨⟩)
  | cons segment rest ih =>
    have hhere := step_isOk v segment
    unfold follow
    cases hstep : step v segment with
    | error f =>
      rw [hstep] at hhere
      refine iff_of_false Bool.false_ne_true fun hno => Bool.false_ne_true (hhere.2 ?_)
      rintro ⟨hmisleads, owner, items, rfl⟩
      exact hno (.here hmisleads)
    | ok found =>
      have hnot := hhere.1 (by rw [hstep]; rfl)
      have hstrays : Strays (segment :: rest) v ↔ ∃ w, found = some w ∧ Strays rest w := by
        constructor
        · intro h
          cases h with
          | here hm => exact absurd ⟨hm, _, _, rfl⟩ hnot
          | later hw h =>
            rw [hstep] at hw
            cases hw
            exact ⟨_, rfl, h⟩
        · rintro ⟨w, rfl, h⟩
          exact .later hstep h
      rw [hstrays]
      cases found with
      | none => exact iff_of_true rfl (by rintro ⟨w, ⟨⟩, -⟩)
      | some w =>
        refine (ih w).trans (not_congr ⟨fun h => ⟨w, rfl, h⟩, ?_⟩)
        rintro ⟨w', hw, h⟩
        cases hw
        exact h

theorem follow_error {segments : List (List Char)} {v : Value} {f : Failure} (h : follow segments v = .error f) :
    f.IsOfPath := by
  induction segments generalizing v with
  | nil => cases h
  | cons segment rest ih =>
    unfold follow at h
    split at h
    · exact ih h
    · exact step_error h

/-- **A path** resolves, to a value or to nothing, just if it does not stray -/
theorem resolve_isOk (record : Value) (path : String) :
    (resolve record path).isOk = true ↔ ¬ PathStrays path record := by
  unfold resolve
  split
  · next hempty =>
    refine iff_of_true rfl fun h => ?_
    rw [hempty] at h
    rcases h with ⟨hmisleads⟩ | ⟨-, h⟩
    · exact absurd hmisleads (by decide)
    · cases h
  · exact follow_isOk _ _

theorem resolve_error {record : Value} {path : String} {f : Failure} (h : resolve record path = .error f) :
    f.IsOfPath := by
  unfold resolve at h
  split at h
  · cases h
  · exact follow_error h

theorem split_of_notMem {sep : Char} {cs : List Char} (h : sep ∉ cs) : Text.split sep cs = [cs] := by
  induction cs with
  | nil => rfl
  | cons x rest ih =>
    unfold Text.split
    rw [if_neg (List.ne_of_not_mem_cons h).symm, ih (List.not_mem_of_not_mem_cons h)]

/-- a field of an object is there or not, but is looked up without failure -/
theorem resolve_field {owner : Owner} {fields : Fields} {field : String} (hempty : field ≠ "")
    (hplain : '.' ∉ field.toList) :
    resolve (.object owner fields) field = .ok (Fields.get? fields field) := by
  have hstep : step (.object owner fields) field.toList = .ok (Fields.get? fields field) := by
    unfold step
    dsimp only
    rw [String.ofList_toList]
  unfold resolve
  rw [if_neg hempty, split_of_notMem hplain, follow, hstep]
  cases Fields.get? fields field <;> rfl

end Record

end ReportPress
