import Mathlib.Data.Nat.Log
import ReportPress.Proofs.Number.Sum
/-!
Ratios as doubles, and integers, which are ratios with the denominator one. Of two ratios with one denominator the greater
has no smaller bits: if both are rounded on the same grid, rounding keeps their order, and a coarser grid begins where
the finer one ends. The bits of doubles without a sign are ordered as their magnitudes are, so a ratio is compared with
a double by its bits. The first integer that has no double is half a step past the largest double, and it is the even
neighbour, past the doubles, that it is rounded to.

- `read_ofBits`: bits of a double are read as what they are. `ofBits_place`: what bits stand for.
- `nearestBits_mono`: finding the bits of ratios keeps the order. `magnitude_lt_iff_place`: magnitudes are compared by bits.
- `read_nearest_of_lt`, `read_nearest_of_top`: the double of a ratio. `read_nearest_ne_nan`: it is always a number.
- `read_ofInt`, `read_ofInt_beyond`: the double of an integer is finite just if the integer is not beyond the doubles.
-/

namespace ReportPress.Binary64

open Float.Model

variable {m n den : ℕ}

/-! ## Bits and magnitudes -/

/-- **Bits** of a double are read as what they are -/
theorem read_ofBits (u : UInt64) : read (Float.ofBits u) = ofBits u.toNat := by
  have hunpack : ofBits u.toNat = readingOf (UnpackedFloat.unpack Format.binary64 u.toBitVec) :=
    ofBits_unpack u.toBitVec
  rw [hunpack]
  show ofBits (UnpackedFloat.pack Format.binary64 (UnpackedFloat.unpack Format.binary64 u.toBitVec)).toNat = _
  cases hu : UnpackedFloat.unpack Format.binary64 u.toBitVec with
  | notANumber => exact ofBits_pack_nan
  | infinity s => cases s <;> decide +kernel
  | zero s => cases s <;> decide +kernel
  | finite s m e hpos =>
    obtain ⟨hp, hexponent⟩ := packs_of_unpack hu
    rw [ofBits_pack s hpos hp, if_pos hexponent]
    rfl

/-- the bits of a double without its sign -/
def place (b : Binary64) : ℕ := b.exponent * 2 ^ 52 + b.mantissa

/-- **Magnitudes** are compared by bits -/
theorem magnitude_lt_iff_place {a b : Binary64} (ha : a.Canonical) (hb : b.Canonical) :
    a.magnitude < b.magnitude ↔ a.place < b.place := by
  have hma := ha.mantissa
  have hmb := hb.mantissa
  have hda := ha.digits
  have hdb := hb.digits
  rw [magnitude_lt_iff ha hb, place, place]
  constructor
  · rintro (hlt | ⟨heq, hlt⟩)
    · have := hdb (Nat.zero_lt_of_lt hlt)
      omega
    · omega
  · intro hlt
    by_contra hno
    have hdb' : b.exponent < a.exponent → 2 ^ 52 ≤ a.mantissa := fun h => hda (Nat.zero_lt_of_lt h)
    omega

/-- bits below those of infinity, with a sign, are those of a finite double -/
theorem ofBits_place {k : ℕ} (h : k < 2047 * 2 ^ 52) (negative : Bool) :
    ∃ b, ofBits (k + if negative then Nat.pow 2 63 else 0) = .finite b ∧ b.negative = negative ∧ b.place = k := by
  have hfinest : k / 2 ^ 52 = 0 → 0 * 2 ^ 52 + k % 2 ^ 52 = k := by omega
  have hcoarser : k / 2 ^ 52 ≠ 0 → (k / 2 ^ 52 - 1) * 2 ^ 52 + (k % 2 ^ 52 + 2 ^ 52) = k := by omega
  have hfinite : k / 2 ^ 52 ≠ 2047 := by omega
  obtain ⟨t, ht, hbits, hnegative⟩ :
      ∃ t < 2, (if negative then Nat.pow 2 63 else 0) = t * 2 ^ 63 ∧ (t == 1) = negative := by
    cases negative with
    | false => exact ⟨0, by decide, rfl, rfl⟩
    | true => exact ⟨1, by decide, rfl, rfl⟩
  have hsign : (k + t * 2 ^ 63) / 2 ^ 63 % 2 = t := by omega
  have hscale : (k + t * 2 ^ 63) / 2 ^ 52 % 2 ^ 11 = k / 2 ^ 52 := by omega
  have hfraction : (k + t * 2 ^ 63) % 2 ^ 52 = k % 2 ^ 52 := by omega
  rw [hbits]
  generalize k + t * 2 ^ 63 = bits at hsign hscale hfraction
  unfold ofBits
  simp only [Nat.pow_eq, hsign, hscale, hfraction, hnegative, if_neg hfinite]
  by_cases hzero : k / 2 ^ 52 = 0
  · rw [if_pos hzero]
    exact ⟨_, rfl, rfl, hfinest hzero⟩
  · rw [if_neg hzero]
    exact ⟨_, rfl, rfl, hcoarser hzero⟩

theorem ofBits_top (negative : Bool) :
    ofBits (2047 * 2 ^ 52 + if negative then Nat.pow 2 63 else 0) = .infinite negative := by
  cases negative <;> decide +kernel

/-! ## The order of ratios -/

/-- rounding to whole numbers keeps the order -/
theorem divHalfEven_mono (d : ℕ) (h : m ≤ n) : divHalfEven m d ≤ divHalfEven n d := by
  have hdiv : m / d ≤ n / d := Nat.div_le_div_right h
  by_cases heq : m / d = n / d
  · -- with one quotient the remainders are ordered
    have hm := Nat.div_add_mod' m d
    have hn := Nat.div_add_mod' n d
    rw [heq] at hm
    have hmod : m % d ≤ n % d := by omega
    simp only [divHalfEven, heq]
    split_ifs <;> omega
  · have hlt : m / d < n / d := Nat.lt_of_le_of_ne hdiv heq
    calc divHalfEven m d ≤ m / d + 1 := by rcases divHalfEven_cases m d with h | h <;> omega
      _ ≤ n / d := hlt
      _ ≤ divHalfEven n d := by rcases divHalfEven_cases n d with h | h <;> omega

/-- a ratio is rounded to a multiple of `2 ^ ratioExponent` units -/
def ratioExponent (num den : ℕ) : ℕ := Nat.log2 (num * unitsPerOne / den) - 52

/-- the nearest whole number of steps on the grid of a ratio -/
def ratioSteps (num den : ℕ) : ℕ := divHalfEven (num * unitsPerOne) (den * 2 ^ ratioExponent num den)

theorem nearestBits_eq (num den : ℕ) :
    nearestBits num den = min (ratioExponent num den * 2 ^ 52 + ratioSteps num den) (2047 * 2 ^ 52) := rfl

theorem ratioExponent_mono (den : ℕ) (h : m ≤ n) : ratioExponent m den ≤ ratioExponent n den := by
  unfold ratioExponent
  apply Nat.sub_le_sub_right
  rw [Nat.log2_eq_log_two, Nat.log2_eq_log_two]
  exact Nat.log_mono_right (Nat.div_le_div_right (Nat.mul_le_mul_right _ h))

theorem ratioSteps_le (hden : 0 < den) (num : ℕ) : ratioSteps num den ≤ 2 ^ 53 := by
  have hlog : num * unitsPerOne / den < 2 ^ (53 + ratioExponent num den) := by
    refine Nat.lt_of_lt_of_le Nat.lt_log2_self (Nat.pow_le_pow_right (by decide) ?_)
    unfold ratioExponent
    omega
  apply divHalfEven_le (Nat.mul_pos hden (Nat.two_pow_pos _))
  calc num * unitsPerOne ≤ 2 ^ (53 + ratioExponent num den) * den := ((Nat.div_lt_iff_lt_mul hden).1 hlog).le
    _ = 2 ^ 53 * (den * 2 ^ ratioExponent num den) := by rw [Nat.pow_add]; ring

/-- above the finest grid there are at least as many steps as make a full mantissa -/
theorem le_ratioSteps (hden : 0 < den) {num : ℕ} (h : 0 < ratioExponent num den) : 2 ^ 52 ≤ ratioSteps num den := by
  have hlog : 52 + ratioExponent num den = Nat.log2 (num * unitsPerOne / den) := by
    unfold ratioExponent at h ⊢
    omega
  have hfull : 2 ^ (52 + ratioExponent num den) ≤ num * unitsPerOne / den := by
    rw [hlog]
    refine Nat.log2_self_le ?_
    intro hzero
    rw [hzero] at hlog
    simp at hlog
  apply le_divHalfEven (Nat.mul_pos hden (Nat.two_pow_pos _))
  calc 2 ^ 52 * (den * 2 ^ ratioExponent num den) = 2 ^ (52 + ratioExponent num den) * den := by rw [Nat.pow_add]; ring
    _ ≤ num * unitsPerOne := (Nat.le_div_iff_mul_le hden).1 hfull

/-- **A greater ratio** has no smaller bits -/
theorem nearestBits_mono (hden : 0 < den) (h : m ≤ n) : nearestBits m den ≤ nearestBits n den := by
  rw [nearestBits_eq, nearestBits_eq]
  apply min_le_min_right
  have hm := ratioSteps_le hden m
  by_cases heq : ratioExponent m den = ratioExponent n den
  · have hsteps : ratioSteps m den ≤ ratioSteps n den := by
      unfold ratioSteps
      rw [heq]
      exact divHalfEven_mono _ (Nat.mul_le_mul_right _ h)
    omega
  · -- the finer grid ends where the coarser one begins
    have hlt : ratioExponent m den < ratioExponent n den := Nat.lt_of_le_of_ne (ratioExponent_mono den h) heq
    have hn := le_ratioSteps hden (Nat.zero_lt_of_lt hlt)
    omega

theorem nearestBits_le (num den : ℕ) : nearestBits num den ≤ 2047 * 2 ^ 52 := by
  unfold nearestBits
  exact Nat.min_le_right _ _

/-- **The double nearest to a ratio** is read as the bits that were found for it -/
theorem read_nearest (negative : Bool) (num den : ℕ) :
    read (nearest negative num den) = ofBits (nearestBits num den + if negative then Nat.pow 2 63 else 0) := by
  have hle := nearestBits_le num den
  have h63 : Nat.pow 2 63 = 2 ^ 63 := rfl
  unfold nearest
  rw [read_ofBits, UInt64.toNat_ofNat', Nat.mod_eq_of_lt]
  rw [h63]
  split <;> omega

/-- **A ratio** whose bits are below those of infinity is a finite double with these bits -/
theorem read_nearest_of_lt {num den : ℕ} (h : nearestBits num den < 2047 * 2 ^ 52) (negative : Bool) :
    ∃ b, read (nearest negative num den) = .finite b ∧ b.Canonical ∧ b.negative = negative ∧
      b.place = nearestBits num den := by
  obtain ⟨b, hb, hnegative, hplace⟩ := ofBits_place h negative
  exact ⟨b, by rw [read_nearest, hb], ofBits_canonical hb, hnegative, hplace⟩

theorem read_nearest_of_top {num den : ℕ} (h : nearestBits num den = 2047 * 2 ^ 52) (negative : Bool) :
    read (nearest negative num den) = .infinite negative := by
  rw [read_nearest, h, ofBits_top]

/-- the least natural number that no double is nearest to: half a step of `2 ^ 971` past the largest double -/
def beyondAll : ℕ := 2 ^ 1024 - 2 ^ 970

/-- the number before it has finite bits, and it has those of infinity itself -/
theorem bits_at_beyondAll :
    2 ≤ beyondAll ∧ nearestBits (beyondAll - 1) 1 < 2047 * 2 ^ 52 ∧ nearestBits beyondAll 1 = 2047 * 2 ^ 52 := by
  decide +kernel

/-- **Integers that are not beyond the doubles** have finite doubles -/
theorem read_ofInt {n : ℤ} (h : n.natAbs < beyondAll) : ∃ b, read (ofInt n) = .finite b := by
  have hmono : nearestBits n.natAbs 1 ≤ nearestBits (beyondAll - 1) 1 :=
    nearestBits_mono Nat.one_pos (Nat.le_sub_one_of_lt h)
  obtain ⟨b, hb, -⟩ := read_nearest_of_lt (hmono.trans_lt bits_at_beyondAll.2.1) (decide (n < 0))
  exact ⟨b, hb⟩

/-- **Integers beyond the doubles** are brought to an infinity -/
theorem read_ofInt_beyond {n : ℤ} (h : beyondAll ≤ n.natAbs) : read (ofInt n) = .infinite (decide (n < 0)) := by
  have hmono : nearestBits beyondAll 1 ≤ nearestBits n.natAbs 1 := nearestBits_mono Nat.one_pos h
  exact read_nearest_of_top (le_antisymm (nearestBits_le _ _) (bits_at_beyondAll.2.2.ge.trans hmono)) _

end ReportPress.Binary64
