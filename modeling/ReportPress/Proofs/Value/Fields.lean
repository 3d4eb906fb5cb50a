import Mathlib.Data.List.Nodup
import ReportPress.Value.Basic
/-!
Fields by their keys. A look-up finds a field that is there, and any field of a list without repeated keys is found.
Putting a value under a known key replaces what was there, and a new key goes to the end.

- `mem_of_lookup`: what is looked up in a table is there.
- `mem_of_get?`, `get?_of_mem`: what is found is there, and what is there is found.
- `map_fst_put`, `mem_put`: the keys and the fields after a value was put.
- `forall_ofList`: what holds of all values as they are written holds of those that are kept.
- `forall_getD`: what holds of all values and of null holds of a field, be it there or not.
-/

namespace ReportPress

/-- what is looked up is an entry of the table -/
theorem mem_of_lookup {κ α : Type} [BEq κ] [LawfulBEq κ] {table : List (κ × α)} {k : κ} {v : α}
    (h : table.lookup k = some v) : (k, v) ∈ table := by
  obtain ⟨before, after, htable, -⟩ := List.lookup_eq_some_iff.1 h
  rw [htable]
  exact List.mem_append_right before List.mem_cons_self

namespace Fields

variable {α : Type} {fs : List (String × α)} {k : String} {v : α}

theorem mem_of_get? (h : get? fs k = some v) : (k, v) ∈ fs := by
  induction fs with
  | nil => cases h
  | cons f rest ih =>
    obtain ⟨k', v'⟩ := f
    unfold get? at h
    split at h
    · next hk => cases h; rw [hk]; exact List.mem_cons_self
    · exact List.mem_cons_of_mem _ (ih h)

theorem get?_of_mem (hkeys : (fs.map Prod.fst).Nodup) {f : String × α} (hf : f ∈ fs) : get? fs f.1 = some f.2 := by
  induction fs with
  | nil => cases hf
  | cons g rest ih =>
    obtain ⟨hnew, hrest⟩ := List.nodup_cons.1 hkeys
    rcases List.mem_cons.1 hf with rfl | hf
    · rw [get?, if_pos rfl]
    · have hother : f.1 ≠ g.1 := fun heq => hnew (heq ▸ List.mem_map_of_mem hf)
      rw [get?, if_neg hother]
      exact ih hrest hf

theorem isSome_get?_iff : (get? fs k).isSome = true ↔ k ∈ fs.map Prod.fst := by
  induction fs with
  | nil => simp [get?]
  | cons f rest ih =>
    obtain ⟨k', v'⟩ := f
    unfold get?
    split
    · next hk => simp [hk]
    · next hk => simp [ih, hk]

theorem map_fst_put (k : String) (v : α) (fs : List (String × α)) :
    (put k v fs).map Prod.fst = if k ∈ fs.map Prod.fst then fs.map Prod.fst else fs.map Prod.fst ++ [k] := by
  induction fs with
  | nil => simp [put]
  | cons f rest ih =>
    obtain ⟨k', v'⟩ := f
    by_cases hk : k = k'
    · simp [put, hk]
    · by_cases hrest : k ∈ rest.map Prod.fst <;> simp_all [put]

theorem mem_put (hkeys : (fs.map Prod.fst).Nodup) {f : String × α} (hf : f ∈ put k v fs) :
    f = (k, v) ∨ f ∈ fs ∧ f.1 ≠ k := by
  induction fs with
  | nil => exact .inl (List.mem_singleton.1 hf)
  | cons g rest ih =>
    obtain ⟨hnew, hrest⟩ := List.nodup_cons.1 hkeys
    unfold put at hf
    split at hf
    · next hk =>
      rcases List.mem_cons.1 hf with rfl | hf
      · exact .inl (by rw [hk])
      · refine .inr ⟨List.mem_cons_of_mem g hf, ?_⟩
        intro hfk
        exact hnew (hk ▸ hfk ▸ List.mem_map_of_mem hf)
    · next hk =>
      rcases List.mem_cons.1 hf with rfl | hf
      · exact .inr ⟨List.mem_cons_self, Ne.symm hk⟩
      · rcases ih hrest hf with heq | ⟨hmem, hne⟩
        · exact .inl heq
        · exact .inr ⟨List.mem_cons_of_mem g hmem, hne⟩

/-- what holds of all values holds of them after one more that it holds of -/
theorem forall_put {P : α → Prop} (hfs : ∀ f ∈ fs, P f.2) (hv : P v) : ∀ f ∈ put k v fs, P f.2 := by
  induction fs with
  | nil => simpa [put] using hv
  | cons g rest ih =>
    obtain ⟨hg, hrest⟩ := List.forall_mem_cons.1 hfs
    unfold put
    split
    · exact List.forall_mem_cons.2 ⟨hv, hrest⟩
    · exact List.forall_mem_cons.2 ⟨hg, ih hrest⟩

theorem forall_ofList {P : α → Prop} (h : ∀ f ∈ fs, P f.2) : ∀ f ∈ ofList fs, P f.2 := by
  have hfold : ∀ acc : List (String × α), (∀ f ∈ acc, P f.2) →
      ∀ f ∈ fs.foldl (fun acc f => put f.1 f.2 acc) acc, P f.2 := by
    induction fs with
    | nil => exact fun acc hacc => hacc
    | cons g rest ih =>
      obtain ⟨hg, hrest⟩ := List.forall_mem_cons.1 h
      intro acc hacc
      exact ih hrest _ (forall_put hacc hg)
  exact hfold [] (by simp)

theorem forall_getD {P : Value → Prop} {fields : Fields} (h : ∀ f ∈ fields, P f.2) (hnull : P .null) (key : String) :
    P (getD fields key) := by
  unfold getD
  cases hget : get? fields key with
  | none => exact hnull
  | some v => exact h _ (mem_of_get? hget)

end Fields

end ReportPress
