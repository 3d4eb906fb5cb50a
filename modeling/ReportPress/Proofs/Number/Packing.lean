import Mathlib.Tactic.Ring
import ReportPress.Proofs.Number.Rounding
/-!
How a sum gets back into the bits of a double. A mantissa that is too long is cut; two bits remember what was cut
off, and they are enough to round it. What comes out is packed, or is an infinity.

- `Leaves`: what the two bits say about the part that was cut off, `Leaves.roundedMantissa`: so rounding by them is
  rounding to the nearest.
- `Packs`: a mantissa and an exponent that fit, but for the largest exponent.
- `round_spec`: rounding an unpacked double rounds its units, and what comes out fits.
- `ofBits_pack`: packing what fits, and reading it again.
-/

namespace ReportPress.Binary64

open Float.Model

/-! ## Cutting a mantissa -/

/-- what is left over when a mantissa is cut, told by its two last bits: how twice it compares with the step -/
structure Leaves (em : UnpackedFloat.ExtendedMantissa) (d r : ℕ) : Prop where
  lt : r < d
  round : em.roundBit = true ↔ d ≤ 2 * r
  sticky : em.stickyBit = true ↔ r ≠ 0 ∧ 2 * r ≠ d

theorem Leaves.shiftRightOne {em : UnpackedFloat.ExtendedMantissa} {d r : ℕ} (h : Leaves em d r) :
    Leaves em.shiftRightOne (2 * d) (em.mantissa % 2 * d + r) := by
  have hlt := h.lt
  have hbit : (em.mantissa % 2 != 0) = true ↔ em.mantissa % 2 ≠ 0 := bne_iff_ne
  have hor : (em.roundBit || em.stickyBit) = true ↔ d ≤ 2 * r ∨ r ≠ 0 ∧ 2 * r ≠ d := by
    rw [Bool.or_eq_true, h.round, h.sticky]
  rcases Nat.mod_two_eq_zero_or_one em.mantissa with hzero | hone
  · rw [hzero]
    refine ⟨by omega, hbit.trans ?_, hor.trans ?_⟩ <;> omega
  · rw [hone]
    refine ⟨by omega, hbit.trans ?_, hor.trans ?_⟩ <;> omega

theorem shiftRight_succ (em : UnpackedFloat.ExtendedMantissa) (k : ℕ) :
    em >>> (k + 1) = (em >>> k).shiftRightOne := rfl

theorem shiftRight_leaves (m k : ℕ) :
    ∃ r, (UnpackedFloat.ExtendedMantissa.ofMantissaAndAccuracy m .exact >>> k).mantissa * 2 ^ k + r = m ∧
      Leaves (UnpackedFloat.ExtendedMantissa.ofMantissaAndAccuracy m .exact >>> k) (2 ^ k) r := by
  induction k with
  | zero => 
    refine ⟨0, ?_, ?_⟩
    · show m * 1 + 0 = m
      omega
    · exact ⟨Nat.one_pos, iff_of_false nofun (by decide), iff_of_false nofun (by decide)⟩
  | succ k ih =>
    obtain ⟨r, hm, hr⟩ := ih
    rw [shiftRight_succ, Nat.pow_succ, Nat.mul_comm _ 2]
    refine ⟨_, ?_, hr.shiftRightOne⟩
    generalize UnpackedFloat.ExtendedMantissa.ofMantissaAndAccuracy m .exact >>> k = em at hm hr
    calc em.mantissa / 2 * (2 * 2 ^ k) + (em.mantissa % 2 * 2 ^ k + r)
        = (2 * (em.mantissa / 2) + em.mantissa % 2) * 2 ^ k + r := by ring
      _ = m := by rw [Nat.div_add_mod, hm]

/-- **Rounding** a mantissa that was cut is rounding to a whole number of steps -/
theorem Leaves.roundedMantissa {em : UnpackedFloat.ExtendedMantissa} {d r : ℕ} (h : Leaves em d r) :
    em.roundedMantissa = divHalfEven (em.mantissa * d + r) d := by
  obtain ⟨hlt, hround, hsticky⟩ := h
  have hdiv : (em.mantissa * d + r) / d = em.mantissa := by
    rw [Nat.mul_comm, Nat.mul_add_div (Nat.zero_lt_of_lt hlt), Nat.div_eq_of_lt hlt, Nat.add_zero]
  have hmod : (em.mantissa * d + r) % d = r := by
    rw [Nat.mul_comm, Nat.mul_add_mod, Nat.mod_eq_of_lt hlt]
  unfold divHalfEven
  rw [hdiv, hmod]
  obtain ⟨m, round, sticky⟩ := em
  dsimp only at hround hsticky ⊢
  unfold UnpackedFloat.ExtendedMantissa.roundedMantissa
  -- the bits tell whether the rest is less than half a step, half of one, or more
  cases round <;> cases sticky <;>
    simp only [Bool.false_eq_true, false_iff, true_iff, Nat.not_le, not_and_or, not_not] at hround hsticky <;>
    dsimp only [UnpackedFloat.ExtendedMantissa.accuracy, UnpackedFloat.Accuracy.roundToNearestEven]
  all_goals split_ifs <;> omega

/-! ## Rounding an unpacked double -/

theorem log2_mul_pow {m : ℕ} (hm : m ≠ 0) (k : ℕ) : Nat.log2 (m * 2 ^ k) = Nat.log2 m + k := by
  induction k with
  | zero => rw [Nat.pow_zero, Nat.mul_one, Nat.add_zero]
  | succ k ih =>
    have hne : m * 2 ^ k ≠ 0 := Nat.mul_ne_zero hm (Nat.two_pow_pos k).ne'
    rw [Nat.pow_succ, ← Nat.mul_assoc, Nat.mul_comm _ 2, Nat.log2_two_mul hne, ih, Nat.add_assoc]

/-- the exponent that a mantissa is brought to keeps 53 digits of it, and is not below the smallest -/
theorem targetExponent_eq (m : ℕ) (e : ℤ) :
    Format.binary64.targetExponent (totalExponent m e) = max (Nat.log2 m + e - 52) (-1074) := by
  have hmin : Format.minExponent Format.binary64 = -1074 := rfl
  have hbits : (Format.mantissaBits Format.binary64 : ℤ) = 53 := rfl
  rw [Format.targetExponent, totalExponent, hmin, hbits]
  omega

/-- a mantissa and an exponent as a double has them, the exponent in the usual place -/
structure Packs (m : ℕ) (e : ℤ) : Prop where
  low : -1074 ≤ e
  mantissa : m < 2 ^ 53
  digits : -1074 < e → 2 ^ 52 ≤ m

/-- mantissa and exponent of a double fit -/
theorem packs_of_unpack {b : BitVec 64} {s : UnpackedFloat.Sign} {m : ℕ} {e : ℤ} {h : 0 < m}
    (hb : UnpackedFloat.unpack Format.binary64 b = .finite s m e h) : Packs m e ∧ e ≤ 971 := by
  have hread : ofBits b.toNat = .finite ⟨s == .negative, m, (e + 1074).toNat⟩ := by
    rw [ofBits_unpack, hb]
    rfl
  have hlow : -1074 ≤ e := exponent_ge hb
  have hcanonical := ofBits_canonical hread
  have hhigh : (e + 1074).toNat ≤ 2045 := exponent_le hread
  refine ⟨⟨hlow, hcanonical.mantissa, fun hlt => hcanonical.digits ?_⟩, by omega⟩
  show 0 < (e + 1074).toNat
  omega

/-- a mantissa that fits stays as it is -/
theorem shiftToTargetExponent_small {m : ℕ} {e : ℤ} (hm : m < 2 ^ 53) (he : -1074 ≤ e) :
    UnpackedFloat.shiftToTargetExponent Format.binary64 m e .exact = (⟨m, false, false⟩, e) := by
  have hlog : Nat.log2 m ≤ 52 := by
    rcases Nat.eq_zero_or_pos m with rfl | hpos
    · decide
    · exact Nat.le_of_lt_succ ((Nat.log2_lt hpos.ne').2 hm)
  have hzero : (max ((Nat.log2 m : ℤ) + e - 52) (-1074) - e).toNat = 0 := by omega
  rw [UnpackedFloat.shiftToTargetExponent, targetExponent_eq, UnpackedFloat.shiftToExponent, hzero]
  exact Prod.ext rfl (Int.add_zero e)

/-- a mantissa that was rounded up to one digit more loses that digit -/
theorem shiftToTargetExponent_carry {e : ℤ} (he : -1074 ≤ e) :
    UnpackedFloat.shiftToTargetExponent Format.binary64 (2 ^ 53) e .exact = (⟨2 ^ 52, false, false⟩, e + 1) := by
  have hone : (max (((2 ^ 53 : ℕ).log2 : ℤ) + e - 52) (-1074) - e).toNat = 1 := by
    rw [Nat.log2_two_pow]
    omega
  rw [UnpackedFloat.shiftToTargetExponent, targetExponent_eq, UnpackedFloat.shiftToExponent, hone]
  exact Prod.ext rfl rfl

/-- rounding a mantissa with at least as many digits as are kept -/
theorem roundWithAccuracy_spec (s : UnpackedFloat.Sign) {m : ℕ} {e : ℤ} (hm : 0 < m) (he : -1074 ≤ e)
    (hroom : e ≤ max ((Nat.log2 m : ℤ) + e - 52) (-1074)) :
    ∃ q t, ∃ h : 0 < q, UnpackedFloat.roundWithAccuracy Format.binary64 s m e .exact = .finite s q t h ∧
      Packs q t ∧ q * 2 ^ (t + 1074).toNat = roundUnits (m * 2 ^ (e + 1074).toNat) := by
  set n := m * 2 ^ (e + 1074).toNat with hn
  set t := max ((Nat.log2 m : ℤ) + e - 52) (-1074) with ht
  set k := (t - e).toNat with hk
  have hlow : -1074 ≤ t := le_max_right _ _
  -- the mantissa is cut to whole steps of the grid of `n`
  have hgrid : (t + 1074).toNat = gridExponent n := by
    rw [gridExponent, hn, log2_mul_pow hm.ne']
    omega
  have hfirst : UnpackedFloat.shiftToTargetExponent Format.binary64 m e .exact =
      (UnpackedFloat.ExtendedMantissa.ofMantissaAndAccuracy m .exact >>> k, t) := by
    rw [UnpackedFloat.shiftToTargetExponent, targetExponent_eq, ← ht, UnpackedFloat.shiftToExponent]
    refine Prod.ext rfl ?_
    show e + k = t
    omega
  -- and rounded
  have hrounded : (UnpackedFloat.ExtendedMantissa.ofMantissaAndAccuracy m .exact >>> k).roundedMantissa =
      gridSteps n := by
    obtain ⟨r, hr, hleaves⟩ := shiftRight_leaves m k
    have hsum : k + (e + 1074).toNat = gridExponent n := by
      rw [← hgrid]
      omega
    rw [hleaves.roundedMantissa, hr, ← divHalfEven_mul_right _ _ (Nat.two_pow_pos (e + 1074).toNat), ← hn,
      ← Nat.pow_add, hsum]
    rfl
  have hpos : 0 < gridSteps n := gridSteps_pos (Nat.mul_pos hm (Nat.two_pow_pos _))
  rw [UnpackedFloat.roundWithAccuracy, hfirst]
  dsimp only
  rw [hrounded]
  rcases Nat.lt_or_eq_of_le (gridSteps_le n) with hlt | hcarry
  · rw [shiftToTargetExponent_small hlt hlow]
    refine ⟨gridSteps n, t, hpos, dif_neg hpos.ne', ⟨hlow, hlt, fun h => le_gridSteps ?_⟩, ?_⟩
    · rw [← hgrid]
      omega
    · rw [hgrid]
      rfl
  · rw [hcarry, shiftToTargetExponent_carry hlow]
    refine ⟨2 ^ 52, t + 1, Nat.two_pow_pos 52, dif_neg (Nat.two_pow_pos 52).ne', ⟨by omega, by decide, fun _ => le_rfl⟩,
      ?_⟩
    rw [roundUnits, hcarry, ← hgrid, ← Nat.pow_add, ← Nat.pow_add]
    congr 1
    omega

/-- **Rounding** an unpacked double rounds its units -/
theorem round_spec (s : UnpackedFloat.Sign) {m : ℕ} {e : ℤ} (hm : 0 < m) (he : -1074 ≤ e) :
    ∃ q t, ∃ h : 0 < q, UnpackedFloat.round Format.binary64 s m e = .finite s q t h ∧ Packs q t ∧
      q * 2 ^ (t + 1074).toNat = roundUnits (m * 2 ^ (e + 1074).toNat) := by
  -- a mantissa of too few digits is widened first
  set k := (e - max ((Nat.log2 m : ℤ) + e - 52) (-1074)).toNat with hk
  have hstart : UnpackedFloat.round Format.binary64 s m e =
      UnpackedFloat.roundWithAccuracy Format.binary64 s (m <<< k) (e - k) .exact := by
    rw [UnpackedFloat.round, targetExponent_eq]
    rfl
  have hlog : Nat.log2 (m <<< k) = Nat.log2 m + k := by
    rw [Nat.shiftLeft_eq, log2_mul_pow hm.ne']
  have hunits : m <<< k * 2 ^ (e - k + 1074).toNat = m * 2 ^ (e + 1074).toNat := by
    rw [Nat.shiftLeft_eq, Nat.mul_assoc, ← Nat.pow_add]
    congr 2
    omega
  rw [hstart, ← hunits]
  refine roundWithAccuracy_spec s ?_ (by omega) (by rw [hlog]; omega)
  rw [Nat.shiftLeft_eq]
  exact Nat.mul_pos hm (Nat.two_pow_pos k)

/-! ## Packing -/

theorem sign_toNat (s : UnpackedFloat.Sign) : (s.toBitVec.toNat == 1) = (s == .negative) := by
  cases s <;> rfl

theorem toNat_packComponents (s : UnpackedFloat.Sign) (e : BitVec 11) (m : BitVec 52) :
    (UnpackedFloat.packComponents Format.binary64 s e m).toNat =
      (s.toBitVec.toNat * Nat.pow 2 11 + e.toNat) * Nat.pow 2 52 + m.toNat := by
  unfold UnpackedFloat.packComponents
  rw [BitVec.toNat_append, ← Nat.shiftLeft_add_eq_or_of_lt m.isLt, BitVec.toNat_append,
    ← Nat.shiftLeft_add_eq_or_of_lt e.isLt, Nat.shiftLeft_eq, Nat.shiftLeft_eq]

/-- the reading of bits that are put together from sign, exponent and mantissa -/
theorem ofBits_packComponents (s : UnpackedFloat.Sign) (e : BitVec 11) (m : BitVec 52) :
    ofBits (UnpackedFloat.packComponents Format.binary64 s e m).toNat =
      if e.toNat = 2047 then if m.toNat = 0 then .infinite (s == .negative) else .nan
      else if e.toNat = 0 then .finite ⟨s == .negative, m.toNat, 0⟩
      else .finite ⟨s == .negative, m.toNat + Nat.pow 2 52, e.toNat - 1⟩ := by
  have hm : m.toNat < 2 ^ 52 := m.isLt
  have he : e.toNat < 2 ^ 11 := e.isLt
  have hs : s.toBitVec.toNat < 2 := s.toBitVec.isLt
  have hmant : ((s.toBitVec.toNat * Nat.pow 2 11 + e.toNat) * Nat.pow 2 52 + m.toNat) % Nat.pow 2 52 = m.toNat := by
    simp only [Nat.pow_eq] at *
    omega
  have hexp : ((s.toBitVec.toNat * Nat.pow 2 11 + e.toNat) * Nat.pow 2 52 + m.toNat) / Nat.pow 2 52 % Nat.pow 2 11 =
      e.toNat := by
    simp only [Nat.pow_eq] at *
    omega
  have hsign : ((s.toBitVec.toNat * Nat.pow 2 11 + e.toNat) * Nat.pow 2 52 + m.toNat) / Nat.pow 2 63 % 2 =
      s.toBitVec.toNat := by
    simp only [Nat.pow_eq] at *
    omega
  unfold ofBits
  dsimp only
  rw [toNat_packComponents, hmant, hexp, hsign, sign_toNat]

/-- **Packing** a double: it reads as its mantissa and exponent, or as an infinity past the largest exponent -/
theorem ofBits_pack (s : UnpackedFloat.Sign) {m : ℕ} {e : ℤ} (hpos : 0 < m) (h : Packs m e) :
    ofBits (UnpackedFloat.pack Format.binary64 (.finite s m e hpos)).toNat =
      if e ≤ 971 then .finite ⟨s == .negative, m, (e + 1074).toNat⟩ else .infinite (s == .negative) := by
  obtain ⟨hlow, hmant, hdigits⟩ := h
  have hbias : e + (Format.exponentBias Format.binary64 : ℕ) + (52 : ℕ) = e + 1075 := by
    have : ((Format.exponentBias Format.binary64 : ℕ) : ℤ) = 1023 := rfl
    omega
  have hlog : m.log2 + 1 = Format.mantissaBits Format.binary64 ↔ 2 ^ 52 ≤ m := by
    have hbits : Format.mantissaBits Format.binary64 = 53 := rfl
    rw [← Nat.le_log2 hpos.ne', hbits]
    have := (Nat.log2_lt hpos.ne').2 hmant
    omega
  unfold UnpackedFloat.pack
  dsimp only
  rw [hbias]
  by_cases hbig : e ≤ 971
  · rw [if_neg (by show ¬ 2 ^ 11 ≤ (e + 1075).toNat + 1; omega), if_pos hbig]
    by_cases hfull : 2 ^ 52 ≤ m
    · -- the leading digit of the mantissa is left out
      have he : (BitVec.ofNat 11 (e + 1075).toNat).toNat = (e + 1075).toNat := by
        rw [BitVec.toNat_ofNat, Nat.mod_eq_of_lt]
        omega
      have hm : (BitVec.ofNat 52 m).toNat = m - 2 ^ 52 := by
        rw [BitVec.toNat_ofNat, Nat.mod_eq_sub_mod hfull, Nat.mod_eq_of_lt]
        omega
      rw [if_pos (hlog.2 hfull), ofBits_packComponents, he, hm, if_neg (by omega), if_neg (by omega), Nat.pow_eq,
        Nat.sub_add_cancel hfull]
      congr 2
      omega
    · -- the exponent is the smallest
      have hexp : e = -1074 := le_antisymm (not_lt.1 fun h => hfull (hdigits h)) hlow
      have hm : (BitVec.ofNat 52 m).toNat = m := by
        rw [BitVec.toNat_ofNat, Nat.mod_eq_of_lt (Nat.not_le.1 hfull)]
      rw [if_neg (mt hlog.1 hfull), ofBits_packComponents, hm, hexp]
      rfl
  · rw [if_pos (by show 2 ^ 11 ≤ (e + 1075).toNat + 1; omega), if_neg hbig, UnpackedFloat.packedInfinity,
      ofBits_packComponents]
    rfl

end ReportPress.Binary64
