import Mathlib.Algebra.Order.Field.Rat
import Mathlib.Algebra.Order.Field.Basic
import ReportPress.Proofs.Number.Order
/-!
The exact values of doubles. Reading a double from its bits gives what the double is compared by; the units that a
finite double is a whole number of are ordered as the doubles are. So lengths may be compared as doubles or as
fractions.

- `read_unpack`: reading the bits is reading sign, mantissa and exponent.
- `Canonical`: how a mantissa and an exponent go together. `magnitude_lt_iff`: so magnitudes are compared by exponents.
- `lt_iff_units`, `lt_iff_toRat`: below is below by units, and by value.
-/

namespace ReportPress.Binary64

open Float.Model

/-! ## Readings -/

/-- how an unpacked double is read -/
def readingOf : UnpackedFloat → Reading
  | .notANumber => .nan
  | .infinity s => .infinite (s == .negative)
  | .zero s => .finite ⟨s == .negative, 0, 0⟩
  | .finite s m e _ => .finite ⟨s == .negative, m, (e + 1074).toNat⟩

theorem toNat_unpackMantissa (b : BitVec 64) :
    (@UnpackedFloat.unpackMantissa Format.binary64 b).toNat = b.toNat % Nat.pow 2 52 := by
  simp [UnpackedFloat.unpackMantissa, BitVec.extractLsb_toNat]

theorem toNat_unpackExponent (b : BitVec 64) :
    (@UnpackedFloat.unpackExponent Format.binary64 b).toNat = b.toNat / Nat.pow 2 52 % Nat.pow 2 11 := by
  simp [UnpackedFloat.unpackExponent, BitVec.extractLsb_toNat, Nat.shiftRight_eq_div_pow]

theorem toNat_unpackSign (b : BitVec 64) :
    (@UnpackedFloat.unpackSign Format.binary64 b).toNat = b.toNat / Nat.pow 2 63 % 2 := by
  delta UnpackedFloat.unpackSign
  simp [BitVec.extractLsb_toNat, Nat.shiftRight_eq_div_pow]

theorem sign_isNegative (b : BitVec 64) :
    (UnpackedFloat.Sign.ofBitVec (@UnpackedFloat.unpackSign Format.binary64 b) == .negative) =
      (b.toNat / Nat.pow 2 63 % 2 == 1) := by
  rw [← toNat_unpackSign]
  generalize @UnpackedFloat.unpackSign Format.binary64 b = v
  revert v
  decide

/-- the digits of a mantissa behind the leading one that is left out of the bits -/
theorem toNat_leadingOne (v : BitVec 52) : (1#1 ++ v).toNat = v.toNat + Nat.pow 2 52 := by
  rw [BitVec.toNat_append, ← Nat.shiftLeft_add_eq_or_of_lt v.isLt, Nat.add_comm]
  rfl

theorem bias_eq : ((Format.exponentBias Format.binary64 : ℕ) : ℤ) = 1023 := rfl

theorem ofBits_unpack (b : BitVec 64) : ofBits b.toNat = readingOf (UnpackedFloat.unpack Format.binary64 b) := by
  have htop : @UnpackedFloat.unpackExponent Format.binary64 b = -1#11 ↔
      (@UnpackedFloat.unpackExponent Format.binary64 b).toNat = 2047 := by
    rw [← BitVec.toNat_inj]
    rfl
  have hzero : @UnpackedFloat.unpackExponent Format.binary64 b = 0#11 ↔
      (@UnpackedFloat.unpackExponent Format.binary64 b).toNat = 0 := by
    rw [← BitVec.toNat_inj]
    rfl
  have hfraction : @UnpackedFloat.unpackMantissa Format.binary64 b = 0#52 ↔
      (@UnpackedFloat.unpackMantissa Format.binary64 b).toNat = 0 := by
    rw [← BitVec.toNat_inj]
    rfl
  unfold ofBits UnpackedFloat.unpack
  dsimp only
  rw [← sign_isNegative, ← toNat_unpackExponent, ← toNat_unpackMantissa]
  by_cases hexponent : @UnpackedFloat.unpackExponent Format.binary64 b = -1#11
  · rw [if_pos (htop.1 hexponent), if_pos hexponent]
    by_cases hnone : @UnpackedFloat.unpackMantissa Format.binary64 b = 0#52
    · rw [if_pos (hfraction.1 hnone), if_pos hnone]
      rfl
    · rw [if_neg (mt hfraction.2 hnone), if_neg hnone]
      rfl
  · rw [if_neg (mt htop.2 hexponent), if_neg hexponent]
    by_cases hsmallest : @UnpackedFloat.unpackExponent Format.binary64 b = 0#11
    · rw [if_pos (hzero.1 hsmallest), if_pos hsmallest]
      by_cases hnone : @UnpackedFloat.unpackMantissa Format.binary64 b = 0#52
      · rw [dif_pos hnone, hfraction.1 hnone]
        rfl
      · rw [dif_neg hnone, hsmallest]
        rfl
    · rw [if_neg (mt hzero.2 hsmallest), if_neg hsmallest]
      show Reading.finite ⟨_, _, _⟩ =
        Reading.finite ⟨_, (1#1 ++ @UnpackedFloat.unpackMantissa Format.binary64 b).toNat, _⟩
      rw [toNat_leadingOne, bias_eq]
      congr 2
      omega

/-- **Reading the bits** of a double is reading its sign, mantissa and exponent -/
theorem read_unpack (x : Float) : read x = readingOf x.toModel.unpack := ofBits_unpack x.toModel.toBits.toBitVec

theorem isNaN_of_read {x : Float} (h : read x ≠ .nan) : x.isNaN = false := by
  show x.toModel.unpack.isNaN = false
  rw [read_unpack] at h
  cases hu : x.toModel.unpack with
  | notANumber => exact absurd (congrArg readingOf hu) h
  | _ => rfl

theorem isNaN_of_finite {x : Float} {b : Binary64} (h : read x = .finite b) : x.isNaN = false := by
  refine isNaN_of_read ?_
  rw [h]
  nofun

/-! ## Magnitudes -/

/-- mantissa and exponent as a double has them: the mantissa has all its digits unless the exponent is the smallest -/
structure Canonical (b : Binary64) : Prop where
  mantissa : b.mantissa < 2 ^ 53
  digits : 0 < b.exponent → 2 ^ 52 ≤ b.mantissa

theorem ofBits_canonical {bits : ℕ} {b : Binary64} (h : ofBits bits = .finite b) : b.Canonical := by
  have hfraction : bits % Nat.pow 2 52 < 2 ^ 52 := Nat.mod_lt _ (by decide)
  have hone : Nat.pow 2 52 = 2 ^ 52 := rfl
  unfold ofBits at h
  dsimp only at h
  split at h
  · split at h <;> cases h
  · split at h
    · cases h
      exact ⟨by dsimp only; omega, fun hpos => absurd hpos (Nat.lt_irrefl 0)⟩
    · cases h
      exact ⟨by dsimp only; omega, fun _ => by dsimp only; omega⟩

theorem exponent_le {bits : ℕ} {b : Binary64} (h : ofBits bits = .finite b) : b.exponent ≤ 2045 := by
  have hmod : bits / Nat.pow 2 52 % Nat.pow 2 11 < 2048 := Nat.mod_lt _ (by decide)
  unfold ofBits at h
  dsimp only at h
  split at h
  · split at h <;> cases h
  · split at h
    · cases h
      exact Nat.zero_le _
    · cases h
      show _ - 1 ≤ 2045
      omega

theorem magnitude_pos {b : Binary64} (h : 0 < b.mantissa) : 0 < b.magnitude := Nat.mul_pos h (Nat.two_pow_pos _)

/-- a greater exponent makes up for any mantissa -/
theorem magnitude_lt_of_exponent {a b : Binary64} (ha : a.Canonical) (hb : b.Canonical)
    (h : a.exponent < b.exponent) : a.magnitude < b.magnitude := by
  have hdigits : 2 ^ 52 ≤ b.mantissa := hb.digits (Nat.zero_lt_of_lt h)
  calc a.mantissa * 2 ^ a.exponent < 2 ^ 53 * 2 ^ a.exponent :=
        Nat.mul_lt_mul_of_pos_right ha.mantissa (Nat.two_pow_pos _)
    _ = 2 ^ 52 * 2 ^ (a.exponent + 1) := by rw [← Nat.pow_add, ← Nat.pow_add]; congr 1; omega
    _ ≤ 2 ^ 52 * 2 ^ b.exponent := Nat.mul_le_mul_left _ (Nat.pow_le_pow_right (by decide) h)
    _ ≤ b.mantissa * 2 ^ b.exponent := Nat.mul_le_mul_right _ hdigits

/-- magnitudes are compared by exponent, then by mantissa -/
theorem magnitude_lt_iff {a b : Binary64} (ha : a.Canonical) (hb : b.Canonical) :
    a.magnitude < b.magnitude ↔ a.exponent < b.exponent ∨ a.exponent = b.exponent ∧ a.mantissa < b.mantissa := by
  rcases Nat.lt_trichotomy a.exponent b.exponent with hlt | heq | hgt
  · exact iff_of_true (magnitude_lt_of_exponent ha hb hlt) (.inl hlt)
  · have hsame : a.magnitude < b.magnitude ↔ a.mantissa < b.mantissa := by
      unfold magnitude
      rw [heq]
      exact Nat.mul_lt_mul_right (Nat.two_pow_pos _)
    rw [hsame]
    omega
  · refine iff_of_false (magnitude_lt_of_exponent hb ha hgt).asymm ?_
    omega

/-! ## Values -/

/-- no exponent is below the smallest -/
theorem exponent_ge {b : BitVec 64} {s : UnpackedFloat.Sign} {m : ℕ} {e : ℤ} {h : 0 < m}
    (hb : UnpackedFloat.unpack Format.binary64 b = .finite s m e h) : -1074 ≤ e := by
  have hbias := bias_eq
  unfold UnpackedFloat.unpack at hb
  dsimp only at hb
  by_cases htop : @UnpackedFloat.unpackExponent Format.binary64 b = -1#11
  · rw [if_pos htop] at hb
    by_cases hnone : @UnpackedFloat.unpackMantissa Format.binary64 b = 0#52
    · rw [if_pos hnone] at hb
      cases hb
    · rw [if_neg hnone] at hb
      cases hb
  · rw [if_neg htop] at hb
    by_cases hsmallest : @UnpackedFloat.unpackExponent Format.binary64 b = 0#11
    · rw [if_pos hsmallest] at hb
      by_cases hnone : @UnpackedFloat.unpackMantissa Format.binary64 b = 0#52
      · rw [dif_pos hnone] at hb
        cases hb
      · rw [dif_neg hnone] at hb
        cases hb
        omega
    · have hpos : (@UnpackedFloat.unpackExponent Format.binary64 b).toNat ≠ 0 := by
        intro hzero
        exact hsmallest (BitVec.eq_of_toNat_eq hzero)
      rw [if_neg hsmallest] at hb
      cases hb
      omega

/-- the rank of a finite double, by its reading: it is zero, above zero or below zero -/
theorem rank_cases {u : UnpackedFloat} {a : Binary64} (hu : readingOf u = .finite a)
    (hlow : ∀ s m e h, u = .finite s m e h → -1074 ≤ e) :
    (a.units = 0 ∧ rank u = toLex (0, toLex (0, 0))) ∨
      (0 < a.magnitude ∧ a.units = a.magnitude ∧
        rank u = toLex (1, toLex ((a.exponent : ℤ) - 1074, (a.mantissa : ℤ)))) ∨
      (0 < a.magnitude ∧ a.units = -(a.magnitude : ℤ) ∧
        rank u = toLex (-1, toLex (-((a.exponent : ℤ) - 1074), -(a.mantissa : ℤ)))) := by
  cases u with
  | notANumber => cases hu
  | infinity s => cases hu
  | zero s =>
    cases hu
    refine .inl ⟨?_, rfl⟩
    cases s <;> rfl
  | finite s m e h =>
    cases hu
    have hexponent : (((e + 1074).toNat : ℕ) : ℤ) - 1074 = e := by
      have := hlow s m e h rfl
      omega
    right
    cases s with
    | positive =>
      refine .inl ⟨magnitude_pos h, rfl, ?_⟩
      rw [hexponent]
      rfl
    | negative =>
      refine .inr ⟨magnitude_pos h, rfl, ?_⟩
      rw [hexponent]
      rfl

/-- **Below is below by units**, for finite doubles -/
theorem lt_iff_units {x y : Float} {a b : Binary64} (hx : read x = .finite a) (hy : read y = .finite b) :
    x < y ↔ a.units < b.units := by
  have hab := magnitude_lt_iff (ofBits_canonical hx) (ofBits_canonical hy)
  have hba := magnitude_lt_iff (ofBits_canonical hy) (ofBits_canonical hx)
  rw [lt_iff_rank (isNaN_of_finite hx) (isNaN_of_finite hy)]
  rw [read_unpack] at hx hy
  -- of two doubles of one sign the ranks are ordered as the magnitudes are, or the other way round
  rcases rank_cases hx (fun _ _ _ _ => exponent_ge) with ⟨hax, hrx⟩ | ⟨hpx, hax, hrx⟩ | ⟨hpx, hax, hrx⟩ <;>
    rcases rank_cases hy (fun _ _ _ _ => exponent_ge) with ⟨hay, hry⟩ | ⟨hpy, hay, hry⟩ | ⟨hpy, hay, hry⟩ <;>
    rw [hax, hay, hrx, hry] <;>
    simp only [Prod.Lex.toLex_lt_toLex, lt_irrefl, false_or, true_and] <;>
    omega

theorem unitsPerOne_pos : 0 < unitsPerOne := by decide +kernel

/-- the value of a finite double -/
def toRat? (x : Float) : Option ℚ :=
  match read x with
  | .finite b => some (b.units / unitsPerOne)
  | _ => none

theorem toRat?_eq_some {x : Float} {p : ℚ} (h : toRat? x = some p) :
    ∃ b, read x = .finite b ∧ p = b.units / unitsPerOne := by
  unfold toRat? at h
  split at h
  · next b hb => exact ⟨b, hb, (Option.some.inj h).symm⟩
  · cases h

/-- **Below is below by value**, for finite doubles -/
theorem lt_iff_toRat {x y : Float} {p q : ℚ} (hx : toRat? x = some p) (hy : toRat? y = some q) : x < y ↔ p < q := by
  obtain ⟨a, ha, rfl⟩ := toRat?_eq_some hx
  obtain ⟨b, hb, rfl⟩ := toRat?_eq_some hy
  rw [lt_iff_units ha hb, div_lt_div_iff_of_pos_right (Nat.cast_pos.2 unitsPerOne_pos), Int.cast_lt]

end ReportPress.Binary64
