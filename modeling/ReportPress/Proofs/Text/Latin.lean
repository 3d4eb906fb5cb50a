import ReportPress.Proofs.Value.Fields
import ReportPress.Text.Latin
/-!
The reduction to Latin-1. It leaves no character that the built-in fonts do not have, and it goes character by
character, whatever characters decompose into. A Latin-1 text is passed on whole, and only another text is gone through:
stand-ins are put in first, and then each character is replaced by what it is built on, if the built-in fonts can show
that. Both ways agree, so that no character changes how its neighbours are shown.

- `latinForm_isLatin`: whatever a character is replaced by. `latin_isLatin`: a whole text.
- `Decomposition`, `reduce`: the reduction by any table of decompositions. `reduce_eq_flatMap`: each character goes by
  itself, `shown` is what becomes of it.
- `Charwise`: what there is to say of a reduction that goes character by character.
- `charwise_reduce`: from what becomes of one character. `reduceLatin_eq_reduce`: the table at hand is one of them.
- `reduce_character_by_character`: the reduction as a whole.
-/

namespace ReportPress.Text

theorem isLatin_ofNat {n : Nat} (h : n < 256) : isLatin (Char.ofNat n) = true := by
  have hvalid : n.isValidChar := .inl (by omega)
  have hn : (Char.ofNat n).toNat = n := by rw [Char.ofNat, dif_pos hvalid]; rfl
  rw [isLatin, hn]
  exact decide_eq_true h

theorem standIns_isLatin : ∀ s ∈ standIns, s.2.all isLatin = true := by decide

theorem plainRuns_lt : ∀ r ∈ plainRuns, r.target + (r.last - r.first) < 256 := by decide

theorem plainForms_isLatin : ∀ p ∈ plainForms, p.1.toList.all isLatin = true := by decide +kernel

theorem plainForm?_isLatin {c : Char} {cs : List Char} (h : plainForm? c = some cs) : cs.all isLatin = true := by
  unfold plainForm? at h
  split at h
  · next r hr =>
    have hcovers := List.find?_some hr
    rw [Bool.and_eq_true, decide_eq_true_iff, decide_eq_true_iff] at hcovers
    have hlt := plainRuns_lt r (List.mem_of_find?_eq_some hr)
    cases h
    rw [List.all_cons, isLatin_ofNat (by omega), List.all_nil, Bool.and_self]
  · obtain ⟨p, hp, rfl⟩ := Option.map_eq_some_iff.1 h
    exact plainForms_isLatin p (List.mem_of_find?_eq_some hp)

theorem latinForm_isLatin (c : Char) : (latinForm c).all isLatin = true := by
  unfold latinForm
  split
  · next h => rw [List.all_cons, h, List.all_nil, Bool.and_self]
  · split
    · next s hs =>
      exact standIns_isLatin (c, s) (mem_of_lookup hs)
    · cases hp : plainForm? c with
      | none => decide
      | some cs => exact plainForm?_isLatin hp

/-- **The reduction** of a text has Latin-1 characters only -/
theorem latin_isLatin (s : String) : ∀ c ∈ (latin s).toList, c.toNat < 256 := by
  intro c hc
  rw [latin, String.toList_ofList, reduceLatin_eq_flatMap, List.mem_flatMap] at hc
  obtain ⟨d, -, hd⟩ := hc
  exact of_decide_eq_true (List.all_eq_true.1 (latinForm_isLatin d) c hd)

/-! ## Any table of decompositions -/

/-- what characters decompose into, and which of the parts are accents -/
structure Decomposition where
  parts : Char → List Char
  isMark : Char → Bool

/-- what keeps the characters of Latin-1 keeps Latin-1 texts -/
theorem flatMap_of_all {f : Char → List Char} (hf : ∀ c, isLatin c = true → f c = [c]) {cs : List Char}
    (h : cs.all isLatin = true) : cs.flatMap f = cs := by
  induction cs with
  | nil => rfl
  | cons c rest ih =>
    rw [List.all_cons, Bool.and_eq_true] at h
    rw [List.flatMap_cons, hf c h.1, ih h.2]
    rfl

/-- a text with its stand-ins put in -/
def translate (cs : List Char) : List Char := cs.flatMap fun c => (standIns.lookup c).getD [c]

namespace Decomposition

/-- what a character is built on: its parts without the accents -/
def base (d : Decomposition) (c : Char) : List Char := (d.parts c).filter (!d.isMark ·)

/-- a character, stand-ins apart, as the built-in fonts can show it -/
def form (d : Decomposition) (c : Char) : List Char :=
  if isLatin c then [c]
  else if (d.base c).all isLatin then (if (d.base c).isEmpty then ['?'] else d.base c)
  else ['?']

/-- a text as the built-in fonts can show it -/
def reduce (d : Decomposition) (cs : List Char) : List Char :=
  if cs.all isLatin then cs else (translate cs).flatMap d.form

/-- what becomes of a character -/
def shown (d : Decomposition) (c : Char) : List Char := (standIns.lookup c).getD (d.form c)

variable (d : Decomposition)

/-! ## One character -/

theorem form_of_isLatin {c : Char} (h : isLatin c = true) : d.form c = [c] := if_pos h

theorem form_isLatin (c : Char) : (d.form c).all isLatin = true := by
  unfold form
  split
  · next h => rw [List.all_cons, h, List.all_nil, Bool.and_self]
  · split
    · next hbase =>
      split
      · rfl
      · exact hbase
    · rfl

theorem form_ne_nil (c : Char) : d.form c ≠ [] := by
  unfold form
  split
  · exact List.cons_ne_nil c []
  · split
    · split
      · exact List.cons_ne_nil _ []
      · next hbase => exact fun hnil => hbase (List.isEmpty_iff.2 hnil)
    · exact List.cons_ne_nil _ []

/-- the stand-ins are for characters beyond Latin-1 -/
theorem standIns_foreign : ∀ s ∈ standIns, isLatin s.1 = false := by decide

theorem standIns_ne_nil : ∀ s ∈ standIns, s.2 ≠ [] := by decide

theorem shown_of_isLatin {c : Char} (h : isLatin c = true) : d.shown c = [c] := by
  unfold shown
  cases hs : standIns.lookup c with
  | none => exact d.form_of_isLatin h
  | some s => exact absurd ((standIns_foreign (c, s) (mem_of_lookup hs)).symm.trans h) Bool.false_ne_true

theorem shown_isLatin (c : Char) : (d.shown c).all isLatin = true := by
  unfold shown
  cases hs : standIns.lookup c with
  | none => exact d.form_isLatin c
  | some s => exact standIns_isLatin (c, s) (mem_of_lookup hs)

theorem shown_ne_nil (c : Char) : d.shown c ≠ [] := by
  unfold shown
  cases hs : standIns.lookup c with
  | none => exact d.form_ne_nil c
  | some s => exact standIns_ne_nil (c, s) (mem_of_lookup hs)

/-! ## Whole texts -/

/-- a stand-in is in Latin-1, so that nothing more becomes of it -/
theorem flatMap_translate (cs : List Char) : (translate cs).flatMap d.form = cs.flatMap d.shown := by
  unfold translate
  rw [List.flatMap_assoc]
  congr 1
  funext c
  unfold shown
  cases hs : standIns.lookup c with
  | none => exact List.flatMap_singleton d.form c
  | some s => exact flatMap_of_all (fun _ => d.form_of_isLatin) (standIns_isLatin (c, s) (mem_of_lookup hs))

/-- **Each character goes by itself**, although the whole text is looked at first -/
theorem reduce_eq_flatMap (cs : List Char) : d.reduce cs = cs.flatMap d.shown := by
  unfold reduce
  split
  · next h => exact (flatMap_of_all (fun _ => d.shown_of_isLatin) h).symm
  · exact d.flatMap_translate cs

theorem reduce_isLatin (cs : List Char) : (d.reduce cs).all isLatin = true := by
  rw [reduce_eq_flatMap, List.all_flatMap, List.all_eq_true]
  exact fun c _ => d.shown_isLatin c

end Decomposition

/-- a reduction of texts goes character by character, to characters of Latin-1: each character is reduced by itself, to
one character at least; what is in Latin-1 is kept in its place; and what is reduced already stays as it is -/
structure Charwise (reduce : List Char → List Char) : Prop where
  append : ∀ a b, reduce (a ++ b) = reduce a ++ reduce b
  latin : ∀ cs, ∀ c ∈ reduce cs, c.toNat ≤ 0xFF
  kept : ∀ before c after, c.toNat ≤ 0xFF → reduce (before ++ c :: after) = reduce before ++ c :: reduce after
  each : ∀ cs, reduce cs = cs.flatMap fun c => reduce [c]
  shows : ∀ c, reduce [c] ≠ []
  again : ∀ cs, reduce (reduce cs) = reduce cs

/-- **The reduction goes character by character**, whatever characters decompose into -/
theorem Decomposition.charwise_reduce (d : Decomposition) : Charwise d.reduce := by
  have happend : ∀ a b, d.reduce (a ++ b) = d.reduce a ++ d.reduce b := fun a b => by
    rw [d.reduce_eq_flatMap, d.reduce_eq_flatMap, d.reduce_eq_flatMap, List.flatMap_append]
  have hone : ∀ c, d.reduce [c] = d.shown c := fun c => by
    rw [d.reduce_eq_flatMap, List.flatMap_singleton]
  refine ⟨happend, fun cs c hc => ?_, fun before c after hc => ?_, fun cs => ?_, fun c => ?_, fun cs => ?_⟩
  · exact Nat.le_of_lt_succ (of_decide_eq_true (List.all_eq_true.1 (d.reduce_isLatin cs) c hc))
  · have hlatin : isLatin c = true := decide_eq_true (Nat.lt_succ_of_le hc)
    rw [List.append_cons, happend, happend, hone, d.shown_of_isLatin hlatin]
    exact (List.append_cons ..).symm
  · rw [d.reduce_eq_flatMap]
    exact congrArg cs.flatMap (funext fun c => (hone c).symm)
  · rw [hone]
    exact d.shown_ne_nil c
  · exact if_pos (d.reduce_isLatin cs)

/-! ## The table at hand -/

theorem plainForms_ne_nil : ∀ p ∈ plainForms, p.1.toList ≠ [] := by decide +kernel

theorem plainForm?_ne_nil {c : Char} {cs : List Char} (h : plainForm? c = some cs) : cs ≠ [] := by
  unfold plainForm? at h
  split at h
  · cases h
    exact List.cons_ne_nil _ []
  · obtain ⟨p, hp, rfl⟩ := Option.map_eq_some_iff.1 h
    exact plainForms_ne_nil p (List.mem_of_find?_eq_some hp)

/-- a character decomposes into its plain form, without accents, or does not decompose -/
def tabled : Decomposition := ⟨fun c => (plainForm? c).getD [c], fun _ => false⟩

theorem tabled_shown (c : Char) : tabled.shown c = latinForm c := by
  have hbase : tabled.base c = (plainForm? c).getD [c] := List.filter_eq_self.2 fun _ _ => rfl
  cases hc : isLatin c with
  | true => rw [tabled.shown_of_isLatin hc, latinForm_of_isLatin hc]
  | false =>
    unfold Decomposition.shown Decomposition.form latinForm
    rw [hbase, hc]
    cases standIns.lookup c with
    | some s => rfl
    | none =>
      cases hp : plainForm? c with
      | none => simp [hc]
      | some cs => simp [plainForm?_isLatin hp, plainForm?_ne_nil hp]

theorem reduceLatin_eq_reduce (cs : List Char) : reduceLatin cs = tabled.reduce cs := by
  rw [reduceLatin_eq_flatMap, tabled.reduce_eq_flatMap]
  exact congrArg cs.flatMap (funext fun c => (tabled_shown c).symm)

/-- **The reduction to Latin-1** goes character by character, by any table of decompositions, and with it that by the
table at hand -/
theorem reduce_character_by_character :
    (∀ d : Decomposition, Charwise d.reduce) ∧ reduceLatin = tabled.reduce ∧
      ∀ s t : String, latin (s ++ t) = latin s ++ latin t := by
  refine ⟨Decomposition.charwise_reduce, funext reduceLatin_eq_reduce, fun s t => ?_⟩
  unfold latin
  rw [String.toList_append, reduceLatin_eq_reduce, reduceLatin_eq_reduce, reduceLatin_eq_reduce,
    tabled.charwise_reduce.append, String.ofList_append]

/-- two letters with accents, and the accents themselves -/
def accented : Decomposition where
  parts
    | 'ş' => ['s', '\u0327']
    | 'ğ' => ['g', '\u0306']
    | c => [c]
  isMark c := 0x300 ≤ c.toNat && c.toNat ≤ 0x36F

/-- a letter of Latin-1 between letters that have stand-ins, letters with accents, a sign that nothing can be shown of,
and an accent that stands alone -/
theorem reduce_character_by_character_sample :
    'Ü'.toNat ≤ 0xFF ∧
      accented.reduce ("ışık ".toList ++ 'Ü' :: "漢ğ…\u0306".toList) = "isik ".toList ++ 'Ü' :: "?g...?".toList := by
  have hlatin : 'Ü'.toNat ≤ 0xFF := by decide
  have hbefore : accented.reduce "ışık ".toList = "isik ".toList := by decide
  have hafter : accented.reduce "漢ğ…\u0306".toList = "?g...?".toList := by decide
  refine ⟨hlatin, ?_⟩
  rw [← hbefore, ← hafter]
  exact (reduce_character_by_character.1 accented).kept "ışık ".toList 'Ü' "漢ğ…\u0306".toList hlatin

end ReportPress.Text
