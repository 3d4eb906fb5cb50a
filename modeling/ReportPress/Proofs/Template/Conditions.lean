import ReportPress.Proofs.Record.Conditions
import ReportPress.Proofs.Template.Reader
import ReportPress.Proofs.Value.Equality
/-!
Conditions of a template, tested on a record. The value that a condition is written with is settled when the template is
read: its containers become the template's. The values of a record keep theirs. A container of the one is equal to no
container of the other, so a condition finds a text, a number, a truth value or null again, but no list and no object.

- `strictEq_settle`: a value of a record is equal to what becomes of it in a template just if it is no container.
- `readCondition_passes`: what that means for a condition as it is read. `written_list_differs`: a list that is not
  found again.
-/

namespace ReportPress

namespace Value

def isContainer : Value → Bool
  | .list _ _ => true
  | .object _ _ => true
  | _ => false

/-! ## Equal to what a template makes of it -/

theorem settle_of_not_container {v : Value} (h : v.isContainer = false) : v.settle = v := by
  cases v with
  | list owner items => cases h
  | object owner fields => cases h
  | _ => rfl

/-- nothing in a record is equal to a container of a template -/
theorem strictEq_settle_container {v w : Value} (hv : v.OfRecord) (hw : w.OfRecord) (h : v.isContainer = true) :
    strictEq w v.settle = false := by
  cases hv with
  | list items => cases hw <;> rfl
  | object hkeys fields => cases hw <;> rfl
  | _ => cases h

/-- **A value of a record** is equal to what a template makes of it just if it is no container -/
theorem strictEq_settle {v : Value} (h : v.OfRecord) : strictEq v v.settle = !v.isContainer := by
  cases hcontainer : v.isContainer with
  | true => exact strictEq_settle_container h h hcontainer
  | false =>
    rw [settle_of_not_container hcontainer]
    exact strictEq_self h

/-- **A list of a record** has an item that is equal to what a template makes of one of them just if that is no
container -/
theorem any_strictEq_settle {items : List Value} {v : Value} (hitems : ∀ w ∈ items, w.OfRecord) (hv : v ∈ items) :
    (items.any fun w => strictEq w v.settle) = !v.isContainer := by
  have hrecord := hitems v hv
  cases hcontainer : v.isContainer with
  | true =>
    refine List.any_eq_false.2 fun w hw => ?_
    rw [strictEq_settle_container hrecord (hitems w hw) hcontainer]
    exact Bool.false_ne_true
  | false =>
    refine List.any_eq_true.2 ⟨v, hv, ?_⟩
    rw [strictEq_settle hrecord, hcontainer]
    rfl

end Value

/-! ## Conditions as they are read -/

theorem Condition.passes_eq {c : Condition} {scope : Value} {behind found : Option Value}
    (h : Condition.fieldValue c.field scope behind = .ok found) : c.passes scope behind = c.verdict found := by
  rw [passes, holds_outcome, h]
  rfl

/-- the value of a condition is settled when the condition is read -/
theorem Template.readCondition_value {place : String} {i : ℕ} {owner : Owner} {payload : Fields} {c : Condition}
    (h : Template.readCondition place i (.object owner payload) = .ok c) :
    c.value = (Fields.getD payload "value").settle := by
  obtain ⟨name, -, h⟩ := Effect.except_bind_eq_ok h
  obtain ⟨test, -, h⟩ := Effect.except_bind_eq_ok h
  rw [← Except.ok.inj h]

/-- **A condition on the value that it is written with.** A condition is read that has the value `v`, and is tested on a
field of a record that has the same value: it finds the two equal, or different, just as `v` is no container, or is one.
It finds the value in a list of the record that contains it just if the value is no container. -/
theorem readCondition_passes (place : String) (i : ℕ) (owner : Owner) (payload : Fields) (c : Condition)
    (hread : Template.readCondition place i (.object owner payload) = .ok c)
    (v : Value) (hvalue : Fields.getD payload "value" = v) (hv : v.OfRecord) (scope : Value) (behind : Option Value) :
    (Condition.fieldValue c.field scope behind = .ok (some v) →
      (c.test = .equals → (c.passes scope behind = true ↔ v.isContainer = false)) ∧
      (c.test = .differs → (c.passes scope behind = true ↔ v.isContainer = true))) ∧
    ∀ items, Condition.fieldValue c.field scope behind = .ok (some (.list .record items)) →
      (∀ w ∈ items, w.OfRecord) → v ∈ items → c.test = .contains →
      (c.passes scope behind = true ↔ v.isContainer = false) := by
  have hsettled : c.value = v.settle := by
    rw [← hvalue]
    exact Template.readCondition_value hread
  constructor
  · intro hfound
    have hequal : Condition.isEqual (some v) c.value = !v.isContainer := by
      rw [hsettled]
      exact Value.strictEq_settle hv
    refine ⟨fun htest => ?_, fun htest => ?_⟩
    · rw [Condition.passes_eq hfound, Condition.verdict, htest, hequal, Bool.not_eq_true']
    · rw [Condition.passes_eq hfound, Condition.verdict, htest, hequal, Bool.not_not]
  · intro items hfound hitems hmem htest
    have hcontained : Condition.isContained (some (.list .record items)) c.value = !v.isContainer := by
      rw [hsettled]
      exact Value.any_strictEq_settle hitems hmem
    rw [Condition.passes_eq hfound, Condition.verdict, htest, hcontained, Bool.not_eq_true']

namespace Sample

/-- a condition that a field has a value, and one that it contains the value -/
def wanted (field test : String) (v : Value) : Fields :=
  [("field", .string field), ("operator", .string test), ("value", v)]

def read (field : String) (test : Test) (v : Value) : Condition := ⟨field, test, v.settle⟩

def tag : Value := .list .record [.string "north", .int 2]

/-- a record with a rank, a tag that is a list, and lists that contain them -/
def tagged : Value :=
  .object .record
    [("rank", .int 3), ("ranks", .list .record [.null, .int 3]), ("tag", tag), ("tags", .list .record [tag, .null])]

theorem ofRecord_tag : tag.OfRecord := by
  refine .list fun v hv => ?_
  rcases List.mem_cons.1 hv with rfl | hv
  · exact .string "north"
  · rw [List.mem_singleton.1 hv]
    exact .int 2

end Sample

/-- a rank is found again, as a field and in a list -/
theorem readCondition_passes_sample :
    (Sample.read "rank" .equals (.int 3)).passes Sample.tagged none = true ∧
      (Sample.read "ranks" .contains (.int 3)).passes Sample.tagged none = true := by
  have hequals := readCondition_passes "conditions" 0 .record (Sample.wanted "rank" "equals" (.int 3))
    (Sample.read "rank" .equals (.int 3)) rfl (.int 3) rfl (.int 3) Sample.tagged none
  have hcontains := readCondition_passes "conditions" 1 .record (Sample.wanted "ranks" "contains" (.int 3))
    (Sample.read "ranks" .contains (.int 3)) rfl (.int 3) rfl (.int 3) Sample.tagged none
  have hranks : ∀ w ∈ [Value.null, .int 3], w.OfRecord := by
    intro w hw
    rcases List.mem_cons.1 hw with rfl | hw
    · exact .null
    · rw [List.mem_singleton.1 hw]
      exact .int 3
  refine ⟨((hequals.1 rfl).1 rfl).2 rfl, ?_⟩
  exact (hcontains.2 [.null, .int 3] rfl hranks (List.mem_cons_of_mem _ List.mem_cons_self) rfl).2 rfl

/-- a tag that is a list is not found again: neither as a field, nor in a list, and the field counts as different -/
theorem written_list_differs :
    Template.readCondition "conditions" 0 (.object .record (Sample.wanted "tag" "equals" Sample.tag)) =
        .ok (Sample.read "tag" .equals Sample.tag) ∧
      Sample.tag.OfRecord ∧
      Condition.fieldValue "tag" Sample.tagged none = .ok (some Sample.tag) ∧
      (Sample.read "tag" .equals Sample.tag).passes Sample.tagged none = false ∧
      (Sample.read "tag" .differs Sample.tag).passes Sample.tagged none = true ∧
      Condition.fieldValue "tags" Sample.tagged none = .ok (some (.list .record [Sample.tag, .null])) ∧
      (Sample.read "tags" .contains Sample.tag).passes Sample.tagged none = false :=
  ⟨rfl, Sample.ofRecord_tag, rfl, by decide +kernel, by decide +kernel, rfl, by decide +kernel⟩

end ReportPress
