import Mathlib.Algebra.Order.Field.Rat
import Mathlib.Algebra.BigOperators.Group.List.Basic
import Mathlib.Data.Option.NAry
import ReportPress.Page.Geometry
/-!
Lengths as exact numbers.

- `Length ℚ`: what sums, the larger of two lengths and comparisons are then.
- `Guarded`: exact numbers that tell of divisions by zero.
-/

namespace ReportPress

/-- lengths as exact numbers -/
instance : Length ℚ where
  zero := 0
  ofCount n := n
  below x y := x < y
  atMost x y := x ≤ y

namespace Length

theorem larger_eq_max (p q : ℚ) : larger p q = max p q := by
  unfold larger
  rw [max_def_lt]
  exact if_congr (decide_eq_true_iff (p := p < q)) rfl rfl

theorem sum_eq (ps : List ℚ) : sum ps = ps.sum := by
  unfold sum
  rw [List.sum_eq_foldl]
  rfl

end Length

/-- exact numbers and, for what was divided by zero, no number at all; nor is there one for anything that is worked out
from that, and it is neither below any number nor at most any -/
structure Guarded where
  value? : Option ℚ

namespace Guarded

def of (p : ℚ) : Guarded := ⟨some p⟩

instance : Length Guarded where
  zero := of 0
  ofCount n := of n
  add x y := ⟨Option.map₂ (· + ·) x.value? y.value?⟩
  sub x y := ⟨Option.map₂ (· - ·) x.value? y.value?⟩
  mul x y := ⟨Option.map₂ (· * ·) x.value? y.value?⟩
  div x y := ⟨x.value?.bind fun p => y.value?.bind fun q => if q = 0 then none else some (p / q)⟩
  below x y := (Option.map₂ (fun p q : ℚ => decide (p < q)) x.value? y.value?).getD false
  atMost x y := (Option.map₂ (fun p q : ℚ => decide (p ≤ q)) x.value? y.value?).getD false

variable {p q : ℚ}

theorem of_div (h : q ≠ 0) : of p / of q = of (p / q) := by
  show Guarded.mk (if q = 0 then none else some (p / q)) = _
  rw [if_neg h]
  rfl

theorem larger_of (p q : ℚ) : Length.larger (of p) (of q) = of (Length.larger p q) :=
  (apply_ite of (Length.below p q = true) q p).symm

theorem sum_of (ps : List ℚ) : Length.sum (ps.map of) = of (Length.sum ps) := by
  unfold Length.sum
  rw [List.foldl_map]
  exact List.foldl_hom of fun _ _ => rfl

end Guarded

end ReportPress
