import Mathlib.Algebra.BigOperators.Group.List.Lemmas
import Mathlib.Algebra.BigOperators.Ring.List
import Mathlib.Algebra.Order.BigOperators.Group.List
import Mathlib.Tactic.Ring
import ReportPress.Proofs.Page.Length
import ReportPress.Template.Table
/-!
Widths of columns, on exact numbers. Columns without a width are filled up, then all are stretched or shrunk together; so
all hangs on the sum of the widths before that. It is the whole width or more if there is a column to fill, and else the
sum of the columns' own widths, which is above zero unless some of them are below it.

- `declared`: the widths that columns have of their own. `sum_filled`: the sum before stretching, by induction on the
  columns; `unstretched_of_lt`, `unstretched_pos`: what it comes to.
- `columnWidths_of_pos`, `columnWidths_of_not_pos`: the widths that come out; without a sum above zero all are alike.
- `columnWidths_of`: nothing is divided by zero. What was divided by zero would show, as each quotient goes into the
  widths that come out.
- `Shared`: what it is to share a width out. `columnWidths_shared`: any columns and any width above zero.
-/

namespace ReportPress

section Lengths

variable {α : Type} [Length α]

theorem columnWidths_length (total : α) (widths : List (Option α)) :
    (columnWidths total widths).length = widths.length := by
  unfold columnWidths
  dsimp only
  split
  · exact List.length_replicate
  · rw [List.length_map, List.length_map]

end Lengths

/-! ## Widths of their own -/

variable {total x : ℚ} {w : Option ℚ} {widths : List (Option ℚ)}

/-- the widths that columns have of their own -/
def declared (widths : List (Option ℚ)) : List ℚ := widths.filterMap givenWidth?

theorem givenWidth?_some (x : ℚ) : givenWidth? (some x) = if x = 0 then none else some x := by
  refine if_congr ?_ rfl rfl
  rw [Bool.and_eq_true, eq_comm (a := x), le_antisymm_iff (α := ℚ), and_comm]
  exact and_congr decide_eq_true_iff decide_eq_true_iff

theorem givenWidth?_of_ne_zero (h : x ≠ 0) : givenWidth? (some x) = some x := by rw [givenWidth?_some, if_neg h]

theorem givenWidth?_eq_none : givenWidth? w = none ↔ w = none ∨ w = some 0 := by
  cases w with
  | none => exact iff_of_true rfl (.inl rfl)
  | some x =>
    rw [givenWidth?_some, or_iff_right (Option.some_ne_none x), Option.some_inj]
    split
    · next h => exact iff_of_true rfl h
    · next h => exact iff_of_false (Option.some_ne_none x) h

theorem mem_of_givenWidth? (h : givenWidth? w = some x) : w = some x := by
  cases w with
  | none => cases h
  | some y =>
    rw [givenWidth?_some] at h
    split at h
    · cases h
    · exact h

/-- there are fewer of them than columns just if a column has none; a width of zero is none -/
theorem length_declared_lt (widths : List (Option ℚ)) :
    (declared widths).length < widths.length ↔ none ∈ widths ∨ some 0 ∈ widths := by
  unfold declared
  rw [List.length_filterMap_lt_length_iff_exists]
  constructor
  · rintro ⟨w, hw, hnone⟩
    rcases givenWidth?_eq_none.1 hnone with rfl | rfl
    · exact .inl hw
    · exact .inr hw
  · rintro (hw | hw)
    · exact ⟨none, hw, rfl⟩
    · exact ⟨some 0, hw, givenWidth?_eq_none.2 (.inr rfl)⟩

/-! ## Widths before they are stretched -/

/-- the widths before they are stretched: where a column has none of its own, it has the filler -/
def filled (filler : ℚ) (widths : List (Option ℚ)) : List ℚ := widths.map fun w => (givenWidth? w).getD filler

theorem sum_filled (filler : ℚ) (widths : List (Option ℚ)) :
    (filled filler widths).sum = (declared widths).sum + (widths.length - (declared widths).length) * filler := by
  induction widths with
  | nil => simp [filled, declared]
  | cons w rest ih =>
    unfold filled declared at ih ⊢
    rw [List.map_cons, List.sum_cons, ih, List.length_cons, Nat.cast_succ]
    cases hw : givenWidth? w with
    | none =>
      rw [List.filterMap_cons_none hw, Option.getD_none]
      ring
    | some x =>
      rw [List.filterMap_cons_some hw, Option.getD_some, List.sum_cons, List.length_cons, Nat.cast_succ]
      ring

/-- the sum of the widths that columns have of their own -/
theorem sum_declared (widths : List (Option ℚ)) : (declared widths).sum = (widths.map (·.getD 0)).sum := by
  have hfilled : filled 0 widths = widths.map (·.getD 0) := by
    refine List.map_congr_left fun w _ => ?_
    cases w with
    | none => rfl
    | some x =>
      rw [givenWidth?_some]
      split
      · next h => exact h.symm
      · rfl
  rw [← hfilled, sum_filled, mul_zero, add_zero]

/-- what all columns come to before they are stretched -/
def unstretched (total : ℚ) (widths : List (Option ℚ)) : ℚ := (filled (fillerWidth total widths) widths).sum

theorem length_sum_filled (total : ℚ) (widths : List (Option ℚ)) :
    Length.sum (filled (fillerWidth total widths) widths) = unstretched total widths := Length.sum_eq _

/-- with a column to fill, the widths make up the whole width, or what columns have of their own if that is more -/
theorem unstretched_of_lt (h : (declared widths).length < widths.length) :
    unstretched total widths = max total (declared widths).sum := by
  have hunknown : widths.length - (declared widths).length ≠ 0 := Nat.sub_ne_zero_of_lt h
  have hcast : ((widths.length - (declared widths).length : ℕ) : ℚ) = widths.length - (declared widths).length :=
    Nat.cast_sub h.le
  have hfiller : fillerWidth total widths =
      max (total - (declared widths).sum) 0 / (widths.length - (declared widths).length) := by
    rw [← hcast, ← Length.sum_eq, ← Length.larger_eq_max]
    exact if_neg hunknown
  calc unstretched total widths
      = (declared widths).sum + (widths.length - (declared widths).length) * fillerWidth total widths := sum_filled _ _
    _ = (declared widths).sum + max (total - (declared widths).sum) 0 := by
        rw [hfiller, mul_div_cancel₀ _ (hcast ▸ Nat.cast_ne_zero.2 hunknown)]
    _ = max total (declared widths).sum := by rw [← max_add_add_left, add_zero, add_sub_cancel]

/-- the widths before they are stretched make up something, unless columns have widths below zero -/
theorem unstretched_pos (hne : widths ≠ []) (htotal : 0 < total) (hpos : ∀ x, some x ∈ widths → 0 ≤ x) :
    0 < unstretched total widths := by
  by_cases h : (declared widths).length < widths.length
  · rw [unstretched_of_lt h]
    exact lt_max_of_lt_left htotal
  · have hall : (declared widths).length = widths.length :=
      le_antisymm (List.length_filterMap_le _ _) (not_lt.1 h)
    rw [unstretched, sum_filled, hall, sub_self, zero_mul, add_zero]
    refine List.sum_pos _ (fun x hx => ?_) fun hnil => hne ?_
    · obtain ⟨w, hw, hx⟩ := List.mem_filterMap.1 hx
      cases mem_of_givenWidth? hx
      refine lt_of_le_of_ne (hpos x hw) fun hzero => h ((length_declared_lt widths).2 (.inr (hzero ▸ hw)))
    · rw [← List.length_eq_zero_iff, ← hall, hnil, List.length_nil]

/-! ## The widths that come out -/

/-- as a rule: all widths are stretched or shrunk together -/
theorem columnWidths_of_pos (h : 0 < unstretched total widths) :
    columnWidths total widths = widths.map fun w =>
      (givenWidth? w).getD (fillerWidth total widths) * (total / unstretched total widths) := by
  rw [← length_sum_filled] at h ⊢
  refine (if_neg fun hle => not_lt.2 (of_decide_eq_true hle) h).trans ?_
  rw [List.map_map]
  rfl

/-- without any width to go by -/
theorem columnWidths_of_not_pos (h : ¬ 0 < unstretched total widths) :
    columnWidths total widths = widths.map fun _ => total / widths.length := by
  rw [← length_sum_filled] at h
  rw [List.map_const']
  exact if_pos (decide_eq_true (not_lt.1 h))

theorem sum_columnWidths (hne : widths ≠ []) : (columnWidths total widths).sum = total := by
  by_cases h : 0 < unstretched total widths
  · rw [columnWidths_of_pos h, List.sum_map_mul_right]
    exact mul_div_cancel₀ _ h.ne'
  · have hlength : (widths.length : ℚ) ≠ 0 := Nat.cast_ne_zero.2 (mt List.length_eq_zero_iff.1 hne)
    rw [columnWidths_of_not_pos h, List.map_const', List.sum_replicate, nsmul_eq_mul, mul_div_cancel₀ _ hlength]

theorem fillerWidth_nonneg (total : ℚ) (widths : List (Option ℚ)) : 0 ≤ fillerWidth total widths := by
  unfold fillerWidth
  dsimp only
  split
  · exact le_refl (0 : ℚ)
  · rw [Length.larger_eq_max]
    exact div_nonneg (le_max_right _ _) (Nat.cast_nonneg _)

/-! ## Nothing is divided by zero -/

section Guarded

open Guarded

theorem givenWidth?_of (w : Option ℚ) : givenWidth? (w.map of) = (givenWidth? w).map of := by
  cases w with
  | none => rfl
  | some x =>
    exact (apply_ite (Option.map of) ((Length.atMost x Length.zero && Length.atMost Length.zero x) = true) none
      (some x)).symm

theorem filterMap_of (widths : List (Option ℚ)) :
    (widths.map (Option.map of)).filterMap givenWidth? = (declared widths).map of := by
  unfold declared
  rw [List.filterMap_map, List.map_filterMap]
  exact List.filterMap_congr fun w _ => givenWidth?_of w

theorem fillerWidth_of (total : ℚ) (widths : List (Option ℚ)) :
    fillerWidth (of total) (widths.map (Option.map of)) = of (fillerWidth total widths) := by
  unfold fillerWidth
  dsimp only
  rw [filterMap_of, sum_of, List.length_map, List.length_map]
  show (if widths.length - (declared widths).length = 0 then of 0 else _) =
    of (if widths.length - (declared widths).length = 0 then 0 else _)
  split
  · rfl
  · next h => exact (congrArg (· / _) (larger_of _ _)).trans (of_div (Nat.cast_ne_zero.2 h))

theorem filled_of (filler : ℚ) (widths : List (Option ℚ)) :
    (widths.map (Option.map of)).map (fun w => (givenWidth? w).getD (of filler)) = (filled filler widths).map of := by
  unfold filled
  rw [List.map_map, List.map_map]
  refine List.map_congr_left fun w _ => ?_
  show (givenWidth? (w.map of)).getD (of filler) = _
  rw [givenWidth?_of, Option.getD_map]
  rfl

/-- **Nothing is divided by zero**: numbers that tell of it come out as exact numbers do -/
theorem columnWidths_of (hne : widths ≠ []) :
    columnWidths (of total) (widths.map (Option.map of)) = (columnWidths total widths).map of := by
  have hguarded : columnWidths (of total) (widths.map (Option.map of)) =
      if decide (unstretched total widths ≤ 0) then
        List.replicate widths.length (of total / of widths.length)
      else ((filled (fillerWidth total widths) widths).map of).map
        (· * (of total / of (unstretched total widths))) := by
    unfold columnWidths
    dsimp only
    rw [fillerWidth_of, filled_of, sum_of, List.length_map, length_sum_filled]
    rfl
  rw [hguarded]
  by_cases h : 0 < unstretched total widths
  · rw [columnWidths_of_pos h, if_neg fun hle => not_lt.2 (of_decide_eq_true hle) h, of_div h.ne', filled, List.map_map,
      List.map_map, List.map_map]
    rfl
  · have hlength : (widths.length : ℚ) ≠ 0 := Nat.cast_ne_zero.2 (mt List.length_eq_zero_iff.1 hne)
    rw [columnWidths_of_not_pos h, if_pos (decide_eq_true (not_lt.1 h)), of_div hlength, List.map_const',
      List.map_replicate]

end Guarded

/-! ## The whole width, shared out -/

/-- the whole width shared out among columns; `none` and zero are no width of a column's own -/
structure Shared (total : ℚ) (widths : List (Option ℚ)) (shares : List ℚ) : Prop where
  /-- each column has its share -/
  length : shares.length = widths.length
  /-- nothing is left over -/
  sum : shares.sum = total
  nonneg : (∀ x, some x ∈ widths → 0 ≤ x) → ∀ share ∈ shares, 0 ≤ share
  /-- columns without a width of their own are alike -/
  alike : ∃ filler, ∀ w share, (w, share) ∈ widths.zip shares → w = none ∨ w = some 0 → share = filler
  /-- columns with a width of their own are stretched or shrunk together -/
  proportion : (∀ x, some x ∈ widths → 0 ≤ x) →
    ∃ scale, 0 < scale ∧ ∀ x share, (some x, share) ∈ widths.zip shares → x ≠ 0 → share = x * scale
  /-- they keep their widths if that leaves something, or nothing, for the others -/
  kept : none ∈ widths ∨ some 0 ∈ widths → (widths.map (·.getD 0)).sum ≤ total →
    ∀ x share, (some x, share) ∈ widths.zip shares → x ≠ 0 → share = x

/-- what a column has of a list of widths worked out one by one -/
theorem eq_of_mem_zip_map {β γ : Type} {f : β → γ} {xs : List β} {a : β} {b : γ} (h : (a, b) ∈ xs.zip (xs.map f)) :
    b = f a := by
  rw [← List.map_prod_left_eq_zip] at h
  obtain ⟨c, -, hc⟩ := List.mem_map.1 h
  cases hc
  rfl

/-- **Columns share the whole width**, and no division by zero occurs -/
theorem columnWidths_shared (total : ℚ) (widths : List (Option ℚ)) (hne : widths ≠ []) (htotal : 0 < total) :
    columnWidths (Guarded.of total) (widths.map (Option.map .of)) = (columnWidths total widths).map .of ∧
      Shared total widths (columnWidths total widths) := by
  refine ⟨columnWidths_of hne, columnWidths_length total widths, sum_columnWidths hne, ?_, ?_, ?_, ?_⟩
  · intro hpos share hshare
    have h := unstretched_pos hne htotal hpos
    rw [columnWidths_of_pos h] at hshare
    obtain ⟨w, hw, rfl⟩ := List.mem_map.1 hshare
    refine mul_nonneg ?_ (div_nonneg htotal.le h.le)
    cases hgiven : givenWidth? w with
    | none => exact fillerWidth_nonneg total widths
    | some x => exact hpos x (mem_of_givenWidth? hgiven ▸ hw)
  · by_cases h : 0 < unstretched total widths
    · rw [columnWidths_of_pos h]
      refine ⟨fillerWidth total widths * (total / unstretched total widths),
        fun w share hmem hnone => ?_⟩
      rw [eq_of_mem_zip_map hmem, givenWidth?_eq_none.2 hnone, Option.getD_none]
    · rw [columnWidths_of_not_pos h]
      refine ⟨total / widths.length, fun w share hmem _ => ?_⟩
      rw [eq_of_mem_zip_map hmem]
  · intro hpos
    have h := unstretched_pos hne htotal hpos
    rw [columnWidths_of_pos h]
    refine ⟨_, div_pos htotal h, fun x share hmem hx => ?_⟩
    rw [eq_of_mem_zip_map hmem, givenWidth?_of_ne_zero hx, Option.getD_some]
  · intro hunknown hfits x share hmem hx
    have hsum : unstretched total widths = total := by
      rw [unstretched_of_lt ((length_declared_lt widths).2 hunknown), sum_declared, max_eq_left hfits]
    rw [columnWidths_of_pos (hsum.symm ▸ htotal), hsum, div_self htotal.ne'] at hmem
    rw [eq_of_mem_zip_map hmem, givenWidth?_of_ne_zero hx, Option.getD_some, mul_one]

/-- four columns, one of them with a width of zero: what the two with widths leave is halved -/
theorem columnWidths_shared_sample :
    ([some 30, none, some 0, some 90] : List (Option ℚ)) ≠ [] ∧ (0 : ℚ) < 180 ∧
      Shared 180 [some 30, none, some 0, some 90] [30, 30, 30, 90] := by
  have hne : ([some 30, none, some 0, some 90] : List (Option ℚ)) ≠ [] := List.cons_ne_nil _ _
  have htotal : (0 : ℚ) < 180 := by decide
  have hshares : columnWidths 180 ([some 30, none, some 0, some 90] : List (Option ℚ)) = [30, 30, 30, 90] := by
    decide +kernel
  exact ⟨hne, htotal, hshares ▸ (columnWidths_shared 180 _ hne htotal).2⟩

end ReportPress
