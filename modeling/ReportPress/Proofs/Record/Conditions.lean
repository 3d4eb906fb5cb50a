import ReportPress.Proofs.Record.Path
import ReportPress.Proofs.Effect
import ReportPress.Record.Condition
/-!
Deciding conditions. A decision makes notes, but does not look at those that were made before; so what it comes to is a
fact about the condition and the values alone. Conditions hold together just if each is decided and holds.

- `Noting.Appends`: a computation that only adds to the notes.
- `allHold_cons`: the conditions are decided one after the other, up to the first that does not hold.
- `allHold_eq_true`: all hold just if each one passes.
- `Undecided`: conditions that come to one whose field cannot be looked up.
- `allHold_isOk`, `allHold_error`: this is the one way in which deciding them fails.
-/

namespace ReportPress

namespace Noting

variable {α β : Type}

/-- notes made before do not matter; those made are added behind them -/
def Appends (x : Noting α) : Prop := ∀ notes, x.run.run notes = (x.outcome.1, notes ++ x.outcome.2)

theorem Appends.pure (a : α) : Appends (pure a : Noting α) := fun notes =>
  congrArg (Except.ok a, ·) (List.append_nil notes).symm

theorem appends_ofExcept (r : Except Failure α) : Appends (ofExcept r) := fun notes =>
  congrArg (r, ·) (List.append_nil notes).symm

theorem appends_warn (topic : Topic) (text : String) : Appends (warn topic text) := fun _ => rfl

/-- the outcome of a sequence of which the first part only adds to the notes, and the second does too -/
theorem outcome_bind {x : Noting α} {k : α → Noting β} (hk : ∀ a, Appends (k a)) :
    (x >>= k).outcome = match x.outcome with
      | (.ok a, notes) => ((k a).outcome.1, notes ++ (k a).outcome.2)
      | (.error f, notes) => (.error f, notes) := by
  unfold outcome
  rw [Effect.run_bind]
  rcases x.run.run [] with ⟨_ | a, notes⟩
  · rfl
  · exact hk a notes

theorem Appends.bind {x : Noting α} {k : α → Noting β} (hx : Appends x) (hk : ∀ a, Appends (k a)) :
    Appends (x >>= k) := by
  intro notes
  rw [Effect.run_bind, hx notes, outcome_bind hk]
  rcases x.outcome with ⟨_ | a, made⟩
  · rfl
  · show (k a).run.run (notes ++ made) = _
    rw [hk a (notes ++ made), List.append_assoc]

end Noting

namespace Condition

/-- the condition is decided, and holds -/
def passes (c : Condition) (scope : Value) (behind : Option Value) : Bool :=
  match (c.holds scope behind).outcome.1 with
  | .ok b => b
  | .error _ => false

theorem appends_holds (c : Condition) (scope : Value) (behind : Option Value) : (c.holds scope behind).Appends := by
  refine (Noting.appends_ofExcept _).bind fun found => ?_
  split
  case h_6 => exact (Noting.appends_warn _ _).bind fun _ => .pure true
  all_goals exact .pure _

theorem appends_allHold (scope : Value) (behind : Option Value) (cs : List Condition) :
    (allHold scope behind cs).Appends := by
  induction cs with
  | nil => exact .pure true
  | cons c rest ih =>
    refine (appends_holds c scope behind).bind fun holds => ?_
    split
    · exact ih
    · exact .pure false

/-- the conditions are decided one after the other, up to the first that does not hold -/
theorem allHold_cons (scope : Value) (behind : Option Value) (c : Condition) (rest : List Condition) :
    (allHold scope behind (c :: rest)).outcome.1 = match (c.holds scope behind).outcome.1 with
      | .ok true => (allHold scope behind rest).outcome.1
      | r => r := by
  have hrest : ∀ b : Bool, (if b = true then allHold scope behind rest else pure false : Noting Bool).Appends := by
    intro b
    split
    · exact appends_allHold scope behind rest
    · exact .pure false
  have hbind : (allHold scope behind (c :: rest)).outcome = _ := Noting.outcome_bind hrest
  rw [hbind]
  rcases (c.holds scope behind).outcome with ⟨_ | _ | _, notes⟩ <;> rfl

/-- **All conditions hold** just if each one passes -/
theorem allHold_eq_true (scope : Value) (behind : Option Value) (cs : List Condition) :
    (allHold scope behind cs).outcome.1 = .ok true ↔ cs.all (·.passes scope behind) = true := by
  induction cs with
  | nil => exact iff_of_true rfl rfl
  | cons c rest ih =>
    rw [allHold_cons, List.all_cons, passes]
    rcases (c.holds scope behind).outcome.1 with _ | _ | _
    · exact iff_of_false nofun nofun
    · exact iff_of_false nofun nofun
    · exact ih

/-! ## Conditions that cannot be decided -/

/-- the field cannot be looked up in the value at hand, or, if that does not have it, in the one behind -/
def Strays (c : Condition) (scope : Value) (behind : Option Value) : Prop :=
  Record.PathStrays c.field scope ∨
    Record.resolve scope c.field = .ok none ∧ ∃ root, behind = some root ∧ Record.PathStrays c.field root

/-- the conditions come to one that strays: those before it pass -/
inductive Undecided (scope : Value) (behind : Option Value) : List Condition → Prop
  | here {c : Condition} {rest : List Condition} (h : c.Strays scope behind) : Undecided scope behind (c :: rest)
  | later {c : Condition} {rest : List Condition} (hc : c.passes scope behind = true)
      (h : Undecided scope behind rest) : Undecided scope behind (c :: rest)

theorem fieldValue_isOk (c : Condition) (scope : Value) (behind : Option Value) :
    (fieldValue c.field scope behind).isOk = true ↔ ¬ c.Strays scope behind := by
  have hscope := Record.resolve_isOk scope c.field
  unfold fieldValue Strays
  cases hfound : Record.resolve scope c.field with
  | error f =>
    rw [hfound] at hscope
    exact iff_of_false nofun fun h => Bool.false_ne_true (hscope.2 fun hs => h (.inl hs))
  | ok found =>
    have hno := hscope.1 (by rw [hfound]; rfl)
    rw [or_iff_right hno]
    cases found with
    | some v => exact iff_of_true rfl fun h => nomatch h.1
    | none =>
      rw [and_iff_right rfl]
      cases behind with
      | none => exact iff_of_true rfl fun h => nomatch h
      | some root =>
        refine (Record.resolve_isOk root c.field).trans (not_congr ?_)
        exact ⟨fun h => ⟨root, rfl, h⟩, fun ⟨_, hr, h⟩ => Option.some.inj hr ▸ h⟩

theorem fieldValue_error {field : String} {scope : Value} {behind : Option Value} {f : Failure}
    (h : fieldValue field scope behind = .error f) : f.IsOfPath := by
  unfold fieldValue at h
  split at h
  · exact Record.resolve_error h
  · exact Record.resolve_error h

/-- what a condition says of a field -/
def verdict (c : Condition) (found : Option Value) : Bool :=
  match c.test with
  | .equals => isEqual found c.value
  | .differs => !isEqual found c.value
  | .present => isPresent found
  | .absent => !isPresent found
  | .contains => isContained found c.value
  | .unknown _ => true

/-- looking up the field is all that can fail when a condition is decided -/
theorem holds_outcome (c : Condition) (scope : Value) (behind : Option Value) :
    (c.holds scope behind).outcome.1 = (fieldValue c.field scope behind).map c.verdict := by
  have hfound : (Noting.ofExcept (fieldValue c.field scope behind)).run.run [] =
    (fieldValue c.field scope behind, []) := rfl
  unfold holds verdict Noting.outcome
  rw [Effect.run_bind, hfound]
  cases fieldValue c.field scope behind with
  | error f => rfl
  | ok found => cases c.test <;> rfl

theorem holds_isOk (c : Condition) (scope : Value) (behind : Option Value) :
    (c.holds scope behind).outcome.1.isOk = true ↔ ¬ c.Strays scope behind := by
  rw [holds_outcome, ← fieldValue_isOk]
  cases fieldValue c.field scope behind <;> rfl

/-- **Conditions** are decided just if they do not come to one that strays -/
theorem allHold_isOk (scope : Value) (behind : Option Value) (cs : List Condition) :
    (allHold scope behind cs).outcome.1.isOk = true ↔ ¬ Undecided scope behind cs := by
  induction cs with
  | nil => exact iff_of_true rfl nofun
  | cons c rest ih =>
    have hhere := holds_isOk c scope behind
    rw [allHold_cons]
    cases hout : (c.holds scope behind).outcome.1 with
    | error f =>
      rw [hout] at hhere
      exact iff_of_false nofun fun h => Bool.false_ne_true (hhere.2 fun hs => h (.here hs))
    | ok b =>
      have hno := hhere.1 (by rw [hout]; rfl)
      have hpasses : c.passes scope behind = b := by rw [passes, hout]
      cases b with
      | false =>
        refine iff_of_true rfl fun h => ?_
        cases h with
        | here hs => exact hno hs
        | later hc => rw [hpasses] at hc; cases hc
      | true =>
        refine ih.trans (not_congr ⟨.later hpasses, fun h => ?_⟩)
        cases h with
        | here hs => exact absurd hs hno
        | later _ h => exact h

theorem allHold_error {scope : Value} {behind : Option Value} {cs : List Condition} {f : Failure}
    (h : (allHold scope behind cs).outcome.1 = .error f) : f.IsOfPath := by
  induction cs with
  | nil => cases h
  | cons c rest ih =>
    rw [allHold_cons, holds_outcome] at h
    cases hfound : fieldValue c.field scope behind with
    | error g =>
      rw [hfound] at h
      cases h
      exact fieldValue_error hfound
    | ok found =>
      rw [hfound] at h
      cases hv : c.verdict found with
      | true =>
        rw [show Except.map c.verdict (.ok found) = (.ok true : Except Failure Bool) from congrArg Except.ok hv] at h
        exact ih h
      | false =>
        rw [show Except.map c.verdict (.ok found) = (.ok false : Except Failure Bool) from congrArg Except.ok hv] at h
        cases h

end Condition

end ReportPress
