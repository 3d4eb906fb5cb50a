import Mathlib.Data.Int.Order.Basic
import Mathlib.Data.Prod.Lex
import ReportPress.Number.Binary64
/-!
The order of doubles. Among doubles that are numbers, "below" is the order of their ranks: the infinities at the ends,
between them the sign, then exponent and mantissa. So it is a strict weak order; what is no number is below nothing.

- `lt_iff_rank`: for two numbers, below is below by rank.
- `le_iff_not_lt`: a number is up to another just if the other is not below it.
- `le_trans`: "up to" may be chained. `lt_asymm`, `not_lt_trans`: below never goes both ways, and "not below" may be
  chained.
-/

namespace ReportPress.Binary64

open Float.Model

/-- the place in the order of doubles: infinities at the ends, then by sign, exponent and mantissa -/
def rank : UnpackedFloat → ℤ ×ₗ ℤ ×ₗ ℤ
  | .infinity .negative => toLex (-2, toLex (0, 0))
  | .finite .negative m e _ => toLex (-1, toLex (-e, -m))
  | .zero _ | .notANumber => toLex (0, toLex (0, 0))
  | .finite .positive m e _ => toLex (1, toLex (e, m))
  | .infinity .positive => toLex (2, toLex (0, 0))

theorem then_compare_eq_lt_iff (e f : ℤ) (m n : ℕ) :
    (compare e f).then (compare m n) = .lt ↔ e < f ∨ e = f ∧ m < n := by
  rw [Ordering.then_eq_lt, compare_lt_iff_lt, compare_eq_iff_eq, compare_lt_iff_lt]

theorem then_compare_eq_gt_iff (e f : ℤ) (m n : ℕ) :
    (compare e f).then (compare m n) = .gt ↔ f < e ∨ e = f ∧ n < m := by
  rw [Ordering.then_eq_gt, compare_gt_iff_gt, compare_eq_iff_eq, compare_gt_iff_gt]

theorem compare_eq_lt_iff {a b : UnpackedFloat} (ha : a.isNaN = false) (hb : b.isNaN = false) :
    a.compare b = some .lt ↔ rank a < rank b := by
  cases a with
  | notANumber => cases ha
  | infinity s =>
    cases b with
    | notANumber => cases hb
    | _ t =>
      cases s <;> cases t <;> dsimp only [UnpackedFloat.compare, rank] <;>
        simp [compare, Prod.Lex.toLex_lt_toLex]
  | zero s =>
    cases b with
    | notANumber => cases hb
    | _ t => cases t <;> dsimp only [UnpackedFloat.compare, rank] <;> simp [Prod.Lex.toLex_lt_toLex]
  | finite s m e h =>
    cases b with
    | notANumber => cases hb
    | finite t n f k =>
      cases s <;> cases t <;> dsimp only [UnpackedFloat.compare, rank] <;>
        simp [Prod.Lex.toLex_lt_toLex, then_compare_eq_lt_iff, then_compare_eq_gt_iff]
    | _ t => cases s <;> cases t <;> dsimp only [UnpackedFloat.compare, rank] <;> simp [Prod.Lex.toLex_lt_toLex]

/-- two numbers are below one another or equal -/
theorem compare_isSome {a b : UnpackedFloat} (ha : a.isNaN = false) (hb : b.isNaN = false) :
    ∃ o, a.compare b = some o := by
  cases a with
  | notANumber => cases ha
  | _ s =>
    cases b with
    | notANumber => cases hb
    | _ t => cases s <;> cases t <;> exact ⟨_, rfl⟩

/-- comparing the other way round -/
theorem compare_swap (a b : UnpackedFloat) : (b.compare a).map Ordering.swap = a.compare b := by
  cases a with
  | notANumber => cases b <;> rfl
  | finite s m e h =>
    cases b with
    | finite t n f k =>
      have hswap : ((compare f e).then (compare n m)).swap = (compare e f).then (compare m n) := by
        rw [Ordering.swap_then, ← Std.OrientedOrd.eq_swap, ← Std.OrientedOrd.eq_swap]
      cases s <;> cases t
      · exact congrArg (fun o => some (Ordering.swap o)) hswap
      · rfl
      · rfl
      · exact congrArg some hswap
    | notANumber => rfl
    | _ t => cases s <;> cases t <;> rfl
  | _ s =>
    cases b with
    | notANumber => rfl
    | _ t => cases s <;> cases t <;> rfl

theorem compare_eq_gt_iff (a b : UnpackedFloat) : a.compare b = some .gt ↔ b.compare a = some .lt := by
  rw [← compare_swap a b, Option.map_eq_some_iff]
  constructor
  · rintro ⟨o, ho, hgt⟩
    cases o <;> first | exact ho | cases hgt
  · intro h
    exact ⟨.lt, h, rfl⟩

theorem lt_iff_compare (x y : Float) : x < y ↔ x.toModel.unpack.compare y.toModel.unpack = some .lt := by
  show decide ((x.toModel.unpack.compare y.toModel.unpack == some .lt) = true) = true ↔ _
  rw [decide_eq_true_iff, beq_iff_eq]

theorem le_iff_compare (x y : Float) : x ≤ y ↔ (x.toModel.unpack.compare y.toModel.unpack).any (·.isLE) = true := by
  show decide ((x.toModel.unpack.compare y.toModel.unpack).any (·.isLE) = true) = true ↔ _
  rw [decide_eq_true_iff]

/-- **Below is below by rank**, for doubles that are numbers -/
theorem lt_iff_rank {x y : Float} (hx : x.isNaN = false) (hy : y.isNaN = false) :
    x < y ↔ rank x.toModel.unpack < rank y.toModel.unpack := by
  rw [lt_iff_compare, compare_eq_lt_iff hx hy]

/-- a number is up to another just if the other is not below it -/
theorem le_iff_not_lt {x y : Float} (hx : x.isNaN = false) (hy : y.isNaN = false) : x ≤ y ↔ ¬ y < x := by
  obtain ⟨o, ho⟩ := compare_isSome hx hy
  rw [le_iff_compare, lt_iff_compare, ← compare_eq_gt_iff, ho]
  cases o <;> decide

/-- what is up to a double is not above it, numbers or not -/
theorem not_lt_of_le {x y : Float} (h : x ≤ y) : ¬ y < x := by
  rw [le_iff_compare] at h
  rw [lt_iff_compare, ← compare_eq_gt_iff]
  intro hgt
  rw [hgt] at h
  cases h

/-- only numbers are up to one another -/
theorem isNaN_of_le {x y : Float} (h : x ≤ y) : x.isNaN = false ∧ y.isNaN = false := by
  rw [le_iff_compare] at h
  constructor
  · show x.toModel.unpack.isNaN = false
    cases hx : x.toModel.unpack with
    | notANumber =>
      rw [hx] at h
      cases h
    | _ => rfl
  · show y.toModel.unpack.isNaN = false
    cases hy : y.toModel.unpack with
    | notANumber =>
      rw [hy, ← compare_swap] at h
      cases h
    | _ => rfl

theorem le_trans {x y z : Float} (hxy : x ≤ y) (hyz : y ≤ z) : x ≤ z := by
  obtain ⟨hx, hy⟩ := isNaN_of_le hxy
  obtain ⟨-, hz⟩ := isNaN_of_le hyz
  rw [le_iff_not_lt hx hz, lt_iff_rank hz hx, not_lt]
  rw [le_iff_not_lt hx hy, lt_iff_rank hy hx, not_lt] at hxy
  rw [le_iff_not_lt hy hz, lt_iff_rank hz hy, not_lt] at hyz
  exact hxy.trans hyz

theorem lt_asymm {x y : Float} (hx : x.isNaN = false) (hy : y.isNaN = false) (h : x < y) : ¬ y < x := by
  rw [lt_iff_rank hx hy] at h
  rw [lt_iff_rank hy hx]
  exact h.asymm

theorem not_lt_trans {x y z : Float} (hx : x.isNaN = false) (hy : y.isNaN = false) (hz : z.isNaN = false)
    (h₁ : ¬ y < x) (h₂ : ¬ z < y) : ¬ z < x := by
  rw [lt_iff_rank hy hx, not_lt] at h₁
  rw [lt_iff_rank hz hy, not_lt] at h₂
  rw [lt_iff_rank hz hx, not_lt]
  exact h₁.trans h₂

end ReportPress.Binary64
