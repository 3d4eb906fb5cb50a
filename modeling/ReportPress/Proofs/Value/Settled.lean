import ReportPress.Proofs.Value.Fields
/-!
Values of JSON texts and values of templates. All containers of the one belong to a record, all containers of the other
to the template, however deep they lie. What a template makes of a value is of the second kind.

- `OfJson`, `Settled`: the two kinds of values.
- `OfJson.settle`, `OfJson.settleFields`: settling leads from the one to the other.
- `OfJson.getD`, `OfJson.items`: what is found in a value of a JSON text is one, too.
-/

namespace ReportPress

namespace Value

/-- a value as a JSON text has it: every list and every object in it, at any depth, is the record's own -/
inductive OfJson : Value → Prop where
  | null : OfJson .null
  | bool (b : Bool) : OfJson (.bool b)
  | int (n : Int) : OfJson (.int n)
  | float (x : Float) : OfJson (.float x)
  | string (s : String) : OfJson (.string s)
  | list {items : List Value} (h : ∀ v ∈ items, OfJson v) : OfJson (.list .record items)
  | object {fields : Fields} (h : ∀ f ∈ fields, OfJson f.2) : OfJson (.object .record fields)

/-- set once and for all: every list and every object in it, at any depth, is the template's own -/
inductive Settled : Value → Prop where
  | null : Settled .null
  | bool (b : Bool) : Settled (.bool b)
  | int (n : Int) : Settled (.int n)
  | float (x : Float) : Settled (.float x)
  | string (s : String) : Settled (.string s)
  | list {items : List Value} (h : ∀ v ∈ items, Settled v) : Settled (.list .template items)
  | object {fields : Fields} (h : ∀ f ∈ fields, Settled f.2) : Settled (.object .template fields)

theorem settleAll_eq_map (items : List Value) : settleAll items = items.map settle := by
  induction items with
  | nil => rfl
  | cons v rest ih => rw [settleAll, ih, List.map_cons]

theorem settleFields_eq_map (fields : Fields) : settleFields fields = fields.map fun f => (f.1, f.2.settle) := by
  induction fields with
  | nil => rfl
  | cons f rest ih => rw [settleFields, ih, List.map_cons]

/-- fields are settled if what they hold is -/
theorem settled_settleFields {fields : Fields} (h : ∀ f ∈ fields, f.2.settle.Settled) :
    ∀ f ∈ settleFields fields, f.2.Settled := by
  rw [settleFields_eq_map]
  intro f hf
  obtain ⟨g, hg, rfl⟩ := List.mem_map.1 hf
  exact h g hg

/-- **Settling reaches every depth** -/
theorem OfJson.settle {v : Value} (h : v.OfJson) : v.settle.Settled := by
  induction h with
  | null => exact .null
  | bool b => exact .bool b
  | int n => exact .int n
  | float x => exact .float x
  | string s => exact .string s
  | @list items h ih =>
    apply Settled.list
    rw [settleAll_eq_map]
    intro v hv
    obtain ⟨w, hw, rfl⟩ := List.mem_map.1 hv
    exact ih w hw
  | object h ih => exact .object (settled_settleFields ih)

/-- the fields of a value; none of what is no object -/
theorem OfJson.fields {v : Value} (h : v.OfJson) : ∀ f ∈ v.fields, f.2.OfJson := by
  cases h with
  | object h => exact h
  | _ => simp [Value.fields]

theorem OfJson.settleFields {v : Value} (h : v.OfJson) : ∀ f ∈ Value.settleFields v.fields, f.2.Settled :=
  settled_settleFields fun f hf => (h.fields f hf).settle

theorem OfJson.getD {fields : Fields} (h : ∀ f ∈ fields, f.2.OfJson) (key : String) :
    (Fields.getD fields key).OfJson := Fields.forall_getD h .null key

/-- the items of a value; none of what is no list -/
def items (v : Value) : List Value := v.items?.getD []

theorem OfJson.items {v : Value} (h : v.OfJson) : ∀ w ∈ v.items, w.OfJson := by
  cases h with
  | list h => exact h
  | _ => simp [Value.items, items?]

end Value

end ReportPress
