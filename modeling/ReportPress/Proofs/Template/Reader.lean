import Mathlib.Data.List.Forall2
import ReportPress.Proofs.Effect
import ReportPress.Proofs.Value.Settled
import ReportPress.Template.Reader
/-!
What holds of a template that was read. Texts that may be missing are never empty: a field that has none left after its
blanks are gone counts as missing, and what stands in for it is not empty either.

- `mapFields_forall`: what every field read has in common. `mapItems_forall₂`: what every item read has in common with
  the item that it was read from.
- `items_eq_ok`, `choice?_eq_ok`: the lists and the choices that can be read.
- `read_named`: the fonts of a template have families.
-/

namespace ReportPress.Template

variable {α : Type} {P : α → Prop}

theorem optionalText_ne_empty {v : Value} {t : String} (h : optionalText v = some t) : t ≠ "" := by
  unfold optionalText at h
  split at h
  · cases h
  · dsimp only at h
    split at h
    · cases h
    · next hne => cases h; exact hne

theorem optionalText_getD_ne_empty (v : Value) {other : String} (h : other ≠ "") :
    (optionalText v).getD other ≠ "" := by
  cases hv : optionalText v with
  | none => exact h
  | some t => exact optionalText_ne_empty hv

theorem mapFields_forall {f : String → Value → Except Failure α} (hf : ∀ k v a, f k v = .ok a → P a) {fs : Fields}
    {read : List (String × α)} (h : mapFields f fs = .ok read) : ∀ e ∈ read, P e.2 := by
  induction fs generalizing read with
  | nil => cases h; nofun
  | cons field rest ih =>
    obtain ⟨a, ha, h⟩ := Effect.except_bind_eq_ok h
    obtain ⟨others, hothers, h⟩ := Effect.except_bind_eq_ok h
    cases h
    exact List.forall_mem_cons.2 ⟨hf _ _ _ ha, ih hothers⟩

/-- items are read one for one and in order -/
theorem mapItems_forall₂ {f : Nat → Value → Except Failure α} {R : Value → α → Prop} {i : Nat} {raw : List Value}
    {read : List α} (hf : ∀ i v a, v ∈ raw → f i v = .ok a → R v a) (h : mapItems f i raw = .ok read) :
    List.Forall₂ R raw read := by
  induction raw generalizing i read with
  | nil => cases h; exact .nil
  | cons v rest ih =>
    obtain ⟨a, ha, h⟩ := Effect.except_bind_eq_ok h
    obtain ⟨others, hothers, h⟩ := Effect.except_bind_eq_ok h
    cases h
    refine .cons (hf i v a List.mem_cons_self ha) (ih ?_ hothers)
    intro j w b hw hb
    exact hf j w b (List.mem_cons_of_mem v hw) hb

theorem items_eq_ok {v : Value} {field : String} {xs : List Value} (h : items v field = .ok xs) : xs = v.items := by
  unfold items at h
  split at h
  · next hunfilled =>
    cases h
    cases v with
    | list owner items =>
      cases items with
      | nil => rfl
      | cons w rest => simp [Value.filled] at hunfilled
    | _ => rfl
  · cases v with
    | list owner items => cases h; rfl
    | _ => cases h

/-- a choice is named by its field; there is none just where the field is missing or empty -/
theorem choice?_eq_ok {all : List α} {name : α → String} {v : Value} {field : String} {r : Option α}
    (h : choice? all name v field = .ok r) :
    (∃ s a, v = .string s ∧ r = some a ∧ a ∈ all ∧ Text.lower (name a) = Text.lower (Text.trim s)) ∨
      (v = .null ∨ v = .string "") ∧ r = none := by
  unfold choice? at h
  split at h
  · cases h
    exact .inr ⟨.inl rfl, rfl⟩
  · next s =>
    split at h
    · next hempty =>
      cases h
      exact .inr ⟨.inr (by rw [hempty]), rfl⟩
    · dsimp only at h
      split at h
      · next a hfind =>
        cases h
        have hname := List.find?_some hfind
        exact .inl ⟨s, a, rfl, rfl, List.mem_of_find?_eq_some hfind, beq_iff_eq.1 hname⟩
      · cases h
  · cases h

theorem readFontStyle_family {k : String} {v : Value} {f : FontStyle} (h : readFontStyle k v = .ok f) :
    f.family ≠ "" := by
  unfold readFontStyle at h
  split at h
  · obtain ⟨size, -, h⟩ := Effect.except_bind_eq_ok h
    cases h
    exact optionalText_getD_ne_empty _ (by decide)
  · cases h

theorem readStyles_named {c : Fields} {s : Styles} (h : readStyles c = .ok s) : ∀ f ∈ s.fonts, f.2.family ≠ "" := by
  obtain ⟨fonts, hfonts, h⟩ := Effect.except_bind_eq_ok h
  obtain ⟨borders, -, h⟩ := Effect.except_bind_eq_ok h
  obtain ⟨spacing, -, h⟩ := Effect.except_bind_eq_ok h
  cases h
  exact mapFields_forall (fun _ _ _ => readFontStyle_family) hfonts

/-- **Fonts that were read** have families -/
theorem read_named {payload : Value} {t : Template} (h : read payload = .ok t) :
    ∀ f ∈ t.styles.fonts, f.2.family ≠ "" := by
  unfold read at h
  split at h
  · obtain ⟨id, -, h⟩ := Effect.except_bind_eq_ok h
    obtain ⟨config, -, h⟩ := Effect.except_bind_eq_ok h
    obtain ⟨styles, hstyles, h⟩ := Effect.except_bind_eq_ok h
    obtain ⟨rawSections, -, h⟩ := Effect.except_bind_eq_ok h
    obtain ⟨sections, -, h⟩ := Effect.except_bind_eq_ok h
    obtain ⟨isActive, -, h⟩ := Effect.except_bind_eq_ok h
    cases h
    exact readStyles_named hstyles
  · cases h

end ReportPress.Template
