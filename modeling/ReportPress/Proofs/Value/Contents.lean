import ReportPress.Proofs.Value.Equality
/-!
Equality inside containers. Two values as such are equal only if both are truth values or neither is, but what they hold
is compared with truth values counted as numbers: a list with true in it equals the list with 1 in its place. So being
equal item by item, or key by key, is more than being equal; it takes that a truth value never stands where the other
container has a number.

- `counted`: the value with every truth value in it, at any depth, replaced by the number that it stands for.
- `strictEq_counted`: having the same contents is being equal once truth values are counted.
- `ItemsEqual`, `FieldsEqual`: equal item by item, and key by key.
- `strictEq_containers`: how equality of lists and of objects goes with that. `truth_in_container_counts`: where the two
  part.
-/

namespace ReportPress.Value

mutual
/-- the value with every truth value in it replaced by the number that it stands for -/
def counted : Value → Value
  | .bool b => .int (if b then 1 else 0)
  | .list owner items => .list owner (countedAll items)
  | .object owner fields => .object owner (countedFields fields)
  | v => v

def countedAll : List Value → List Value
  | [] => []
  | v :: rest => counted v :: countedAll rest

def countedFields : Fields → Fields
  | [] => []
  | (k, v) :: rest => (k, counted v) :: countedFields rest
end

@[simp] theorem countedAll_eq_map (items : List Value) : countedAll items = items.map counted := by
  induction items with
  | nil => rfl
  | cons v rest ih => simp [countedAll, ih]

@[simp] theorem countedFields_eq_map (fs : Fields) : countedFields fs = fs.map fun f => (f.1, f.2.counted) := by
  induction fs with
  | nil => rfl
  | cons f rest ih => simp [countedFields, ih]

theorem get?_countedFields (fs : Fields) (k : String) :
    Fields.get? (countedFields fs) k = (Fields.get? fs k).map counted := by
  induction fs with
  | nil => rfl
  | cons f rest ih =>
    obtain ⟨k', v⟩ := f
    by_cases hk : k = k'
    · simp [countedFields, Fields.get?, hk]
    · simp only [countedFields, Fields.get?, hk, if_false, ih]

@[simp] theorem isTruth_counted (v : Value) : v.counted.isTruth = false := by
  cases v <;> rfl

mutual
/-- counting truth values makes no difference to the contents -/
theorem same_counted (v w : Value) : same v.counted w.counted = same v w := by
  match v, w with
  | .list o xs, .list p ys => simp only [counted, same, sameAll_counted xs ys]
  | .object o fs, .object p gs =>
    have hlen : ∀ hs : Fields, (countedFields hs).length = hs.length := by simp
    simp only [counted, same, sameFields_counted fs gs, hlen]
  | .list .., .null | .list .., .bool _ | .list .., .int _ | .list .., .float _ | .list .., .string _
  | .list .., .object .. | .object .., .null | .object .., .bool _ | .object .., .int _ | .object .., .float _
  | .object .., .string _ | .object .., .list .. => rfl
  | .null, w | .bool _, w | .int _, w | .float _, w | .string _, w => cases w <;> rfl

theorem sameAll_counted (xs ys : List Value) : sameAll (countedAll xs) (countedAll ys) = sameAll xs ys := by
  match xs, ys with
  | [], [] | [], _ :: _ | _ :: _, [] => rfl
  | x :: xs, y :: ys => simp only [countedAll, sameAll, same_counted x y, sameAll_counted xs ys]

theorem sameFields_counted (fs gs : Fields) :
    sameFields (countedFields fs) (countedFields gs) = sameFields fs gs := by
  match fs with
  | [] => rfl
  | (k, v) :: rest =>
    simp only [countedFields, sameFields, get?_countedFields, sameFields_counted rest gs]
    cases Fields.get? gs k with
    | none => rfl
    | some w => simp only [Option.map_some, same_counted v w]
end

/-- what is counted is still a value as a record has it -/
theorem OfRecord.counted {v : Value} (h : v.OfRecord) : v.counted.OfRecord := by
  induction h with
  | null => exact .null
  | bool b => exact .int _
  | int n => exact .int n
  | float hnum => exact .float hnum
  | string s => exact .string s
  | list h ih =>
    refine .list fun v hv => ?_
    simp only [countedAll_eq_map, List.mem_map] at hv
    obtain ⟨x, hx, rfl⟩ := hv
    exact ih x hx
  | object hkeys h ih =>
    refine .object ?_ fun f hf => ?_
    · simpa [Function.comp_def] using hkeys
    · simp only [countedFields_eq_map, List.mem_map] at hf
      obtain ⟨g, hg, rfl⟩ := hf
      exact ih g hg

/-- **Having the same contents** is being equal once truth values are counted -/
theorem strictEq_counted {v : Value} (hv : v.OfRecord) (w : Value) :
    strictEq v.counted w.counted = same v w := by
  simp [strictEq_eq hv.counted, same_counted]

/-! ## Item by item, key by key -/

/-- equal item by item -/
def ItemsEqual (xs ys : List Value) : Prop := List.Forall₂ (fun x y => strictEq x y = true) xs ys

/-- equal key by key: both have the key, with equal values under it, or neither has it -/
def FieldsEqual (fs gs : Fields) : Prop :=
  ∀ k, Option.Rel (fun x y => strictEq x y = true) (Fields.get? fs k) (Fields.get? gs k)

/-- truth values stand opposite to truth values, item by item -/
def ItemsKeepTruth (xs ys : List Value) : Prop := List.Forall₂ (fun x y => x.isTruth = y.isTruth) xs ys

/-- truth values stand opposite to truth values, key by key -/
def FieldsKeepTruth (fs gs : Fields) : Prop :=
  ∀ k x y, Fields.get? fs k = some x → Fields.get? gs k = some y → x.isTruth = y.isTruth

theorem itemsEqual_iff {xs : List Value} (hxs : ∀ x ∈ xs, x.OfRecord) (ys : List Value) :
    ItemsEqual xs ys ↔ sameAll xs ys = true ∧ ItemsKeepTruth xs ys := by
  unfold ItemsEqual ItemsKeepTruth
  induction xs generalizing ys with
  | nil => cases ys <;> simp [sameAll]
  | cons x xs ih =>
    cases ys with
    | nil => simp [sameAll]
    | cons y ys =>
      obtain ⟨hx, hrest⟩ := List.forall_mem_cons.1 hxs
      simp only [List.forall₂_cons, sameAll, strictEq_eq hx, ih hrest, Bool.and_eq_true, beq_iff_eq]
      tauto

/-- counted items have no truth values in them -/
theorem itemsKeepTruth_counted {xs ys : List Value} (h : xs.length = ys.length) :
    ItemsKeepTruth (xs.map counted) (ys.map counted) := by
  simp [ItemsKeepTruth, List.forall₂_iff_get, h]

theorem length_eq_of_sameAll {xs ys : List Value} (h : sameAll xs ys = true) : xs.length = ys.length :=
  (sameAll_iff.1 h).length_eq

theorem itemsEqual_counted_iff {xs : List Value} (hxs : ∀ x ∈ xs, x.OfRecord) (ys : List Value) :
    ItemsEqual (xs.map counted) (ys.map counted) ↔ sameAll xs ys = true := by
  have hcounted : ∀ v ∈ xs.map counted, v.OfRecord := by
    intro v hv
    obtain ⟨x, hx, rfl⟩ := List.mem_map.1 hv
    exact (hxs x hx).counted
  have hsame : sameAll (xs.map counted) (ys.map counted) = sameAll xs ys := by
    rw [← countedAll_eq_map, ← countedAll_eq_map, sameAll_counted]
  rw [itemsEqual_iff hcounted, hsame]
  exact and_iff_left_of_imp fun h => itemsKeepTruth_counted (length_eq_of_sameAll h)

theorem strictEq_list_eq {xs : List Value} (h : (Value.list .record xs).OfRecord) (ys : List Value) :
    strictEq (.list .record xs) (.list .record ys) = sameAll xs ys := by
  simp [strictEq_eq h, same, isTruth]

theorem fieldsEqual_iff {fs gs : Fields} (hfs : ∀ f ∈ fs, f.2.OfRecord) :
    FieldsEqual fs gs ↔ (∀ k, AgreeOn fs gs k) ∧ FieldsKeepTruth fs gs := by
  have hkey : ∀ k, Option.Rel (fun x y => strictEq x y = true) (Fields.get? fs k) (Fields.get? gs k) ↔
      AgreeOn fs gs k ∧ ∀ x y, Fields.get? fs k = some x → Fields.get? gs k = some y → x.isTruth = y.isTruth := by
    intro k
    unfold AgreeOn
    cases hf : Fields.get? fs k with
    | none => cases Fields.get? gs k <;> simp
    | some x =>
      have hx : x.OfRecord := hfs _ (Fields.mem_of_get? hf)
      cases hg : Fields.get? gs k with
      | none => simp
      | some y => simp [strictEq_eq hx]
  unfold FieldsEqual FieldsKeepTruth
  simp only [hkey, forall_and]

theorem fieldsEqual_counted_iff {fs gs : Fields} (hfs : ∀ f ∈ fs, f.2.OfRecord) :
    FieldsEqual (countedFields fs) (countedFields gs) ↔ ∀ k, AgreeOn fs gs k := by
  unfold FieldsEqual AgreeOn
  refine forall_congr' fun k => ?_
  rw [get?_countedFields, get?_countedFields]
  cases hf : Fields.get? fs k with
  | none => cases Fields.get? gs k <;> simp
  | some x =>
    have hx : x.OfRecord := hfs _ (Fields.mem_of_get? hf)
    cases Fields.get? gs k with
    | none => simp
    | some y => simp [strictEq_counted hx]

/-- **Equality of containers.** Two lists of a record are equal just if they are equal item by item once the truth values
in them are counted as numbers; so they are equal item by item just if they are equal and truth values stand opposite to
truth values. It is the same with objects, key by key. -/
theorem strictEq_containers {xs : List Value} (hxs : (Value.list .record xs).OfRecord) (ys : List Value)
    {fs gs : Fields} (hfs : (Value.object .record fs).OfRecord) (hgs : (Value.object .record gs).OfRecord) :
    ((strictEq (.list .record xs) (.list .record ys) = true ↔ ItemsEqual (xs.map counted) (ys.map counted)) ∧
      (ItemsEqual xs ys ↔ strictEq (.list .record xs) (.list .record ys) = true ∧ ItemsKeepTruth xs ys)) ∧
    ((strictEq (.object .record fs) (.object .record gs) = true ↔
        FieldsEqual (countedFields fs) (countedFields gs)) ∧
      (FieldsEqual fs gs ↔
        strictEq (.object .record fs) (.object .record gs) = true ∧ FieldsKeepTruth fs gs)) := by
  have hitems : ∀ x ∈ xs, x.OfRecord := by
    cases hxs with
    | list h => exact h
  have hvalues : ∀ f ∈ fs, f.2.OfRecord := by
    cases hfs with
    | object hkeys h => exact h
  rw [strictEq_list_eq hxs, strictEq_object_iff hfs hgs]
  refine ⟨⟨(itemsEqual_counted_iff hitems ys).symm, itemsEqual_iff hitems ys⟩, ?_, fieldsEqual_iff hvalues⟩
  exact (fieldsEqual_counted_iff hvalues).symm

namespace Sample

/-- a list and an object with a truth value in each -/
def answers : List Value := [.string "exit", .bool true]

def flags : Fields := [("open", .bool false), ("name", .string "exit")]

theorem ofRecord_answers : (Value.list .record answers).OfRecord :=
  .list (List.forall_mem_cons.2 ⟨.string "exit", List.forall_mem_singleton.2 (.bool true)⟩)

theorem ofRecord_flags : (Value.object .record flags).OfRecord :=
  .object (by decide) (List.forall_mem_cons.2 ⟨.bool false, List.forall_mem_singleton.2 (.string "exit")⟩)

theorem ofRecord_flags_counted : (Value.object .record (countedFields flags)).OfRecord := ofRecord_flags.counted

end Sample

/-- lists and objects with truth values in them are equal to those with the numbers in their place, but not item by item
and key by key -/
theorem strictEq_containers_sample :
    strictEq (.list .record Sample.answers) (.list .record [.string "exit", .int 1]) = true ∧
      ¬ ItemsEqual Sample.answers [.string "exit", .int 1] ∧
      strictEq (.object .record Sample.flags) (.object .record (countedFields Sample.flags)) = true ∧
      ¬ FieldsEqual Sample.flags (countedFields Sample.flags) := by
  obtain ⟨⟨hlist, hitems⟩, hobject, hfields⟩ :=
    strictEq_containers Sample.ofRecord_answers [.string "exit", .int 1] Sample.ofRecord_flags
      Sample.ofRecord_flags_counted
  have hone : strictEq (.list .record Sample.answers) (.list .record [.string "exit", .int 1]) = true := by
    decide +kernel
  have hzero : strictEq (.object .record Sample.flags) (.object .record (countedFields Sample.flags)) = true := by
    decide +kernel
  refine ⟨hone, fun h => ?_, hzero, fun h => ?_⟩
  · cases (hitems.1 h).2 with
    | cons _ hrest =>
      cases hrest with
      | cons htruth _ => cases htruth
  · cases (hfields.1 h).2 "open" (.bool false) (.int 0) rfl rfl

/-- true is not 1 and false is not 0; yet the list with true equals the list with 1, and the object with false under a key
equals the object with 0 under it -/
theorem truth_in_container_counts :
    strictEq (.bool true) (.int 1) = false ∧
      strictEq (.list .record [.bool true]) (.list .record [.int 1]) = true ∧
      strictEq (.bool false) (.int 0) = false ∧
      strictEq (.object .record [("k", .bool false)]) (.object .record [("k", .int 0)]) = true := by
  decide +kernel

end ReportPress.Value
