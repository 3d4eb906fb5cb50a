import Mathlib.Algebra.Order.Group.Unbundled.Int
import ReportPress.Proofs.Number.Exact
/-!
Rounding to doubles, counted in units (the least double above zero). A number of units is brought to the grid of the
doubles of its size, the nearest grid number wins and a half goes to the even one. All that is used of it later is how
it goes with the order and how far it is off.

- `le_roundUnits`, `roundUnits_le`: rounding does not jump over a double.
- `roundUnits_near`: it is off by one part in `2 ^ 53` at most.
- `roundSigned`: the same with a sign. `roundSigned_units`: a double is rounded to itself.
-/

namespace ReportPress.Binary64

/-! ## Halves to the even neighbour -/

theorem divHalfEven_cases (n d : ℕ) :
    (divHalfEven n d = n / d ∧ 2 * (n % d) ≤ d) ∨ (divHalfEven n d = n / d + 1 ∧ d ≤ 2 * (n % d)) := by
  unfold divHalfEven
  dsimp only
  split
  · exact .inl ⟨rfl, by omega⟩
  · split
    · exact .inr ⟨rfl, by omega⟩
    · split
      · exact .inl ⟨rfl, by omega⟩
      · exact .inr ⟨rfl, by omega⟩

/-- the quotient is off by half a divisor at most -/
theorem divHalfEven_near (n : ℕ) {d : ℕ} (hd : 0 < d) :
    2 * n ≤ 2 * (divHalfEven n d * d) + d ∧ 2 * (divHalfEven n d * d) ≤ 2 * n + d := by
  have hcut := Nat.div_add_mod' n d
  rcases divHalfEven_cases n d with ⟨heq, hr⟩ | ⟨heq, hr⟩
  · rw [heq]
    omega
  · have hlt := Nat.mod_lt n hd
    rw [heq, Nat.add_mul, Nat.one_mul]
    omega

theorem le_divHalfEven {m n d : ℕ} (hd : 0 < d) (h : m * d ≤ n) : m ≤ divHalfEven n d := by
  have hfloor : m ≤ n / d := (Nat.le_div_iff_mul_le hd).2 h
  rcases divHalfEven_cases n d with ⟨heq, -⟩ | ⟨heq, -⟩ <;> omega

theorem divHalfEven_le {m n d : ℕ} (hd : 0 < d) (h : n ≤ m * d) : divHalfEven n d ≤ m := by
  have hfloor : n / d ≤ m := Nat.div_le_of_le_mul (by rwa [Nat.mul_comm])
  rcases divHalfEven_cases n d with ⟨heq, -⟩ | ⟨heq, hr⟩
  · omega
  · -- there is a remainder, so the quotient is below `m`
    rw [heq]
    refine (Nat.div_lt_iff_lt_mul hd).2 (Nat.lt_of_le_of_ne h fun hn => ?_)
    rw [hn, Nat.mul_mod_left] at hr
    omega

theorem divHalfEven_mul_right (n d : ℕ) {c : ℕ} (hc : 0 < c) : divHalfEven (n * c) (d * c) = divHalfEven n d := by
  have hdiv : n * c / (d * c) = n / d := Nat.mul_div_mul_right n d hc
  have hmod : n * c % (d * c) = n % d * c := Nat.mul_mod_mul_right c n d
  have hbelow : 2 * (n % d * c) < d * c ↔ 2 * (n % d) < d := by
    rw [← Nat.mul_assoc]
    exact Nat.mul_lt_mul_right hc
  have habove : d * c < 2 * (n % d * c) ↔ d < 2 * (n % d) := by
    rw [← Nat.mul_assoc]
    exact Nat.mul_lt_mul_right hc
  unfold divHalfEven
  simp only [hdiv, hmod, hbelow, habove]

theorem divHalfEven_one (n : ℕ) : divHalfEven n 1 = n := by
  simp [divHalfEven, Nat.mod_one]

/-! ## Whole numbers of units -/

/-- doubles as large as `n` units are multiples of `2 ^ gridExponent n` units -/
def gridExponent (n : ℕ) : ℕ := Nat.log2 n - 52

/-- the nearest whole number of steps on the grid of `n`, a half going to the even one -/
def gridSteps (n : ℕ) : ℕ := divHalfEven n (2 ^ gridExponent n)

/-- `n` units rounded to a double -/
def roundUnits (n : ℕ) : ℕ := gridSteps n * 2 ^ gridExponent n

/-- what is above the smallest grid fills all digits of a mantissa -/
theorem pow_gridExponent_le {n : ℕ} (h : 0 < gridExponent n) : 2 ^ (52 + gridExponent n) ≤ n := by
  have hlog : 52 + gridExponent n = Nat.log2 n := by
    unfold gridExponent at h ⊢
    omega
  rw [hlog]
  refine Nat.log2_self_le ?_
  rintro rfl
  exact absurd h (by decide)

theorem lt_pow_gridExponent (n : ℕ) : n < 2 ^ (53 + gridExponent n) := by
  refine Nat.lt_of_lt_of_le Nat.lt_log2_self (Nat.pow_le_pow_right (by decide) ?_)
  unfold gridExponent
  omega

theorem gridSteps_le (n : ℕ) : gridSteps n ≤ 2 ^ 53 := by
  refine divHalfEven_le (Nat.two_pow_pos _) ?_
  rw [← Nat.pow_add]
  exact (lt_pow_gridExponent n).le

theorem le_gridSteps {n : ℕ} (h : 0 < gridExponent n) : 2 ^ 52 ≤ gridSteps n := by
  refine le_divHalfEven (Nat.two_pow_pos _) ?_
  rw [← Nat.pow_add]
  exact pow_gridExponent_le h

/-- on the smallest grid nothing is rounded -/
theorem gridSteps_of_zero {n : ℕ} (h : gridExponent n = 0) : gridSteps n = n := by
  rw [gridSteps, h, Nat.pow_zero, divHalfEven_one]

theorem gridSteps_pos {n : ℕ} (hn : 0 < n) : 0 < gridSteps n := by
  rcases Nat.eq_zero_or_pos (gridExponent n) with hzero | hpos
  · rwa [gridSteps_of_zero hzero]
  · exact (Nat.two_pow_pos 52).trans_le (le_gridSteps hpos)

theorem roundUnits_of_zero {n : ℕ} (h : gridExponent n = 0) : roundUnits n = n := by
  rw [roundUnits, gridSteps_of_zero h, h, Nat.pow_zero, Nat.mul_one]

/-- a double up to `n` is on the grid of `n`, or below all its larger numbers -/
theorem on_grid {a : Binary64} (ha : a.Canonical) (n : ℕ) :
    (∃ m, a.magnitude = m * 2 ^ gridExponent n) ∨ a.magnitude < 2 ^ (52 + gridExponent n) := by
  rcases Nat.lt_or_ge a.exponent (gridExponent n) with hlt | hge
  · right
    calc a.mantissa * 2 ^ a.exponent < 2 ^ 53 * 2 ^ a.exponent :=
          Nat.mul_lt_mul_of_pos_right ha.mantissa (Nat.two_pow_pos _)
      _ = 2 ^ (53 + a.exponent) := (Nat.pow_add ..).symm
      _ ≤ 2 ^ (52 + gridExponent n) := Nat.pow_le_pow_right (by decide) (by omega)
  · left
    refine ⟨a.mantissa * 2 ^ (a.exponent - gridExponent n), ?_⟩
    show a.mantissa * 2 ^ a.exponent = _
    rw [Nat.mul_assoc, ← Nat.pow_add, Nat.sub_add_cancel hge]

/-- **Rounding** does not go below a double that is not above -/
theorem le_roundUnits {a : Binary64} (ha : a.Canonical) {n : ℕ} (h : a.magnitude ≤ n) :
    a.magnitude ≤ roundUnits n := by
  rcases Nat.eq_zero_or_pos (gridExponent n) with hzero | hpos
  · rwa [roundUnits_of_zero hzero]
  · have hstep : 0 < 2 ^ gridExponent n := Nat.two_pow_pos _
    unfold roundUnits gridSteps
    rcases on_grid ha n with ⟨m, hm⟩ | hlow
    · rw [hm] at h ⊢
      exact Nat.mul_le_mul_right _ (le_divHalfEven hstep h)
    · rw [Nat.pow_add] at hlow
      exact hlow.le.trans (Nat.mul_le_mul_right _ (le_gridSteps hpos))

/-- **Rounding** does not go above a double that is not below -/
theorem roundUnits_le {a : Binary64} (ha : a.Canonical) {n : ℕ} (h : n ≤ a.magnitude) :
    roundUnits n ≤ a.magnitude := by
  rcases Nat.eq_zero_or_pos (gridExponent n) with hzero | hpos
  · rwa [roundUnits_of_zero hzero]
  · have hstep : 0 < 2 ^ gridExponent n := Nat.two_pow_pos _
    unfold roundUnits gridSteps
    rcases on_grid ha n with ⟨m, hm⟩ | hlow
    · rw [hm] at h ⊢
      exact Nat.mul_le_mul_right _ (divHalfEven_le hstep h)
    · exact absurd (pow_gridExponent_le hpos) (Nat.not_le.2 (h.trans_lt hlow))

/-- **The error of rounding** is at most one part in `2 ^ 53` -/
theorem roundUnits_near (n : ℕ) :
    2 ^ 53 * n ≤ 2 ^ 53 * roundUnits n + n ∧ 2 ^ 53 * roundUnits n ≤ 2 ^ 53 * n + n := by
  rcases Nat.eq_zero_or_pos (gridExponent n) with hzero | hpos
  · rw [roundUnits_of_zero hzero]
    omega
  · have hfull := pow_gridExponent_le hpos
    obtain ⟨hup, hdown⟩ := divHalfEven_near n (Nat.two_pow_pos (gridExponent n))
    rw [Nat.pow_add] at hfull
    unfold roundUnits gridSteps
    omega

/-! ## Sums -/

/-- a signed number of units rounded to a double -/
def roundSigned (n : ℤ) : ℤ := n.sign * roundUnits n.natAbs

theorem roundSigned_of_nonneg {n : ℤ} (h : 0 ≤ n) : roundSigned n = roundUnits n.natAbs := by
  rcases h.eq_or_lt with rfl | hpos
  · rfl
  · rw [roundSigned, Int.sign_eq_one_of_pos hpos, Int.one_mul]

theorem roundSigned_of_neg {n : ℤ} (h : n < 0) : roundSigned n = -(roundUnits n.natAbs : ℤ) := by
  rw [roundSigned, Int.sign_eq_neg_one_of_neg h]
  omega

theorem units_natAbs (a : Binary64) : a.units.natAbs = a.magnitude := by
  unfold units
  split
  · rw [Int.natAbs_neg, Int.natAbs_natCast]
  · rw [Int.natAbs_natCast]

theorem roundUnits_magnitude {a : Binary64} (ha : a.Canonical) : roundUnits a.magnitude = a.magnitude :=
  le_antisymm (roundUnits_le ha le_rfl) (le_roundUnits ha le_rfl)

/-- a double is rounded to itself -/
theorem roundSigned_units {a : Binary64} (ha : a.Canonical) : roundSigned a.units = a.units := by
  rw [roundSigned, units_natAbs, roundUnits_magnitude ha, ← units_natAbs, Int.sign_mul_natAbs]

/-- **Rounding** does not go below a double that is not above -/
theorem le_roundSigned {a : Binary64} (ha : a.Canonical) {n : ℤ} (h : a.units ≤ n) : a.units ≤ roundSigned n := by
  have habs := units_natAbs a
  rcases le_or_gt 0 n with hn | hn
  · rw [roundSigned_of_nonneg hn]
    rcases le_or_gt a.units 0 with hle | hpos
    · omega
    · have := le_roundUnits ha (n := n.natAbs) (by omega)
      omega
  · rw [roundSigned_of_neg hn]
    have := roundUnits_le ha (n := n.natAbs) (by omega)
    omega

/-- **Rounding** does not go above a double that is not below -/
theorem roundSigned_le {a : Binary64} (ha : a.Canonical) {n : ℤ} (h : n ≤ a.units) : roundSigned n ≤ a.units := by
  have habs := units_natAbs a
  rcases le_or_gt 0 n with hn | hn
  · rw [roundSigned_of_nonneg hn]
    have := roundUnits_le ha (n := n.natAbs) (by omega)
    omega
  · rw [roundSigned_of_neg hn]
    rcases le_or_gt 0 a.units with hnonneg | hneg
    · omega
    · have := le_roundUnits ha (n := n.natAbs) (by omega)
      omega

/-- the error of rounding is at most one part in `2 ^ 53` -/
theorem roundSigned_near (n : ℤ) : 2 ^ 53 * |roundSigned n - n| ≤ |n| := by
  obtain ⟨hup, hdown⟩ := roundUnits_near n.natAbs
  rcases le_or_gt 0 n with hn | hn
  · rw [roundSigned_of_nonneg hn, abs_of_nonneg hn]
    rcases abs_cases ((roundUnits n.natAbs : ℤ) - n) with ⟨h, -⟩ | ⟨h, -⟩ <;> rw [h] <;> omega
  · rw [roundSigned_of_neg hn, abs_of_neg hn]
    rcases abs_cases (-(roundUnits n.natAbs : ℤ) - n) with ⟨h, -⟩ | ⟨h, -⟩ <;> rw [h] <;> omega

end ReportPress.Binary64
