import Mathlib.Tactic.Linarith
import ReportPress.Proofs.Number.Packing
/-!
Sums of doubles. The sum of two finite doubles is the exact sum of their units, rounded; past the largest double it is
an infinity. Places on a page come about by adding lengths, so this says how they are ordered and how far they are
from the exact sums.

- `read_add`: the reading of a sum.
- `not_add_lt`: adding what is not below zero leads to no lower place, be it finite, infinite or no number.
  `not_add_lt_of`: so a bound from below is kept.
- `Rounds`: rounding by value; no double is jumped over, and the error is one part in `2 ^ 53` at most.
- `toRat?_add`: by value a finite sum is the exact sum, rounded. `toRat?_add_of_isValue`: it is the exact sum itself if
  that is the value of a double. `toRat?_add_add`: a place that two lengths lead to, which is finite if a finite place
  is not above it.
-/

namespace ReportPress.Binary64

open Float.Model

/-! ## Sums of unpacked doubles -/

/-- an unpacked double that is not infinite, as it comes out of a rounding: its exponent may be past the largest -/
inductive Rounded : UnpackedFloat → ℤ → Prop
  | zero (s : UnpackedFloat.Sign) : Rounded (.zero s) 0
  | finite (s : UnpackedFloat.Sign) {m : ℕ} {e : ℤ} (h : 0 < m) (hp : Packs m e) :
      Rounded (.finite s m e h) (s.apply ((m * 2 ^ (e + 1074).toNat : ℕ) : ℤ))

/-- a finite double, unpacked -/
theorem rounded_unpack {x : Float} {a : Binary64} (h : read x = .finite a) : Rounded x.toModel.unpack a.units := by
  rw [read_unpack] at h
  cases hu : x.toModel.unpack with
  | notANumber => rw [hu] at h; cases h
  | infinity s => rw [hu] at h; cases h
  | zero s =>
    rw [hu] at h
    cases h
    cases s <;> exact .zero _
  | finite s m e hpos =>
    have hp := (packs_of_unpack hu).1
    rw [hu] at h
    cases h
    cases s <;> exact .finite _ hpos hp

theorem rounded_round (s : UnpackedFloat.Sign) {m : ℕ} {e : ℤ} (hm : 0 < m) (he : -1074 ≤ e) :
    Rounded (UnpackedFloat.round Format.binary64 s m e)
      (s.apply (roundUnits (m * 2 ^ (e + 1074).toNat) : ℤ)) := by
  obtain ⟨q, t, h, hround, hp, hunits⟩ := round_spec s hm he
  rw [hround, ← hunits]
  exact .finite s h hp

theorem rounded_normalize (n : ℤ) {e : ℤ} (he : -1074 ≤ e) :
    Rounded (UnpackedFloat.normalize Format.binary64 n e .positive) (roundSigned (n * 2 ^ (e + 1074).toNat)) := by
  have hpow : (0 : ℤ) < 2 ^ (e + 1074).toNat := by positivity
  have habs : (n * 2 ^ (e + 1074).toNat).natAbs = n.natAbs * 2 ^ (e + 1074).toNat := by
    rw [Int.natAbs_mul, Int.natAbs_pow]
    rfl
  unfold UnpackedFloat.normalize
  rcases lt_trichotomy n 0 with hneg | rfl | hpos
  · rw [compare_lt_iff_lt.2 hneg, roundSigned_of_neg (Int.mul_neg_of_neg_of_pos hneg hpow), habs]
    have h := rounded_round .negative (m := (-n).toNat) (by omega) he
    rwa [show (-n).toNat = n.natAbs by omega] at h ⊢
  · rw [Int.zero_mul]
    exact .zero _
  · rw [compare_gt_iff_gt.2 hpos, roundSigned_of_nonneg (Int.mul_pos hpos hpow).le, habs]
    have h := rounded_round .positive (m := n.toNat) (by omega) he
    rwa [show n.toNat = n.natAbs by omega] at h ⊢

/-- a mantissa brought to a smaller exponent stands for the same units -/
theorem decreaseExponent_units (s : UnpackedFloat.Sign) (m : ℕ) {e t : ℤ} (ht : -1074 ≤ t) (hte : t ≤ e) :
    s.apply ((UnpackedFloat.decreaseExponent m e t).1 : ℤ) * 2 ^ (t + 1074).toNat =
      s.apply ((m * 2 ^ (e + 1074).toNat : ℕ) : ℤ) := by
  have hsum : (e - t).toNat + (t + 1074).toNat = (e + 1074).toNat := by omega
  have hnat : (m <<< (e - t).toNat) * 2 ^ (t + 1074).toNat = m * 2 ^ (e + 1074).toNat := by
    rw [Nat.shiftLeft_eq, Nat.mul_assoc, ← Nat.pow_add, hsum]
  rw [← hnat]
  cases s with
  | positive =>
    show ((m <<< (e - t).toNat : ℕ) : ℤ) * _ = _
    push_cast
    rfl
  | negative =>
    show -((m <<< (e - t).toNat : ℕ) : ℤ) * _ = -_
    push_cast
    ring

/-- **The sum** of two finite doubles, unpacked, is the exact sum rounded -/
theorem rounded_add {u v : UnpackedFloat} {a b : Binary64} (hu : Rounded u a.units) (hv : Rounded v b.units)
    (ha : a.Canonical) (hb : b.Canonical) :
    Rounded (UnpackedFloat.add Format.binary64 u v) (roundSigned (a.units + b.units)) := by
  generalize hm : a.units = m at hu
  generalize hn : b.units = n at hv
  cases hu with
  | zero s =>
    cases hv with
    | zero t =>
      show Rounded (if (s == t) = true then _ else _) (roundSigned (0 + 0))
      split
      · exact .zero _
      · exact .zero _
    | finite t k hq =>
      rw [Int.zero_add, ← hn, roundSigned_units hb, hn]
      exact .finite t k hq
  | finite s h hp =>
    cases hv with
    | zero t =>
      rw [Int.add_zero, ← hm, roundSigned_units ha, hm]
      exact .finite s h hp
    | finite t k hq =>
      rename_i m₁ e₁ m₂ e₂
      have hlow : -1074 ≤ min e₁ e₂ := le_min hp.low hq.low
      rw [← decreaseExponent_units s m₁ hlow (min_le_left _ _), ← decreaseExponent_units t m₂ hlow (min_le_right _ _),
        ← Int.add_mul]
      exact rounded_normalize _ hlow

/-- all finite doubles are below two to this power, in units -/
def topExponent : ℕ := 2098

def topUnits : ℕ := 2 ^ topExponent

theorem magnitude_lt_top {x : Float} {a : Binary64} (h : read x = .finite a) : a.magnitude < topUnits := by
  have hcanonical : a.Canonical := ofBits_canonical h
  have hexponent := exponent_le h
  calc a.mantissa * 2 ^ a.exponent < 2 ^ 53 * 2 ^ a.exponent :=
        Nat.mul_lt_mul_of_pos_right hcanonical.mantissa (Nat.two_pow_pos _)
    _ = 2 ^ (53 + a.exponent) := (Nat.pow_add ..).symm
    _ ≤ topUnits := Nat.pow_le_pow_right (by decide) (by unfold topExponent; omega)

/-- packing what was rounded: a finite double, or an infinity if there are too many units -/
theorem Rounded.packs {u : UnpackedFloat} {n : ℤ} (h : Rounded u n) :
    (∃ c, ofBits (UnpackedFloat.pack Format.binary64 u).toNat = .finite c ∧ c.units = n) ∨
      (ofBits (UnpackedFloat.pack Format.binary64 u).toNat = .infinite (decide (n < 0)) ∧ topUnits ≤ n.natAbs) := by
  cases h with
  | zero s =>
    left
    cases s
    · exact ⟨⟨true, 0, 0⟩, rfl, rfl⟩
    · exact ⟨⟨false, 0, 0⟩, rfl, rfl⟩
  | @finite s m e hpos hp =>
    have hunits : 0 < m * 2 ^ (e + 1074).toNat := Nat.mul_pos hpos (Nat.two_pow_pos _)
    rw [ofBits_pack s hpos hp]
    by_cases hbig : e ≤ 971
    · rw [if_pos hbig]
      left
      cases s <;> exact ⟨_, rfl, rfl⟩
    · rw [if_neg hbig]
      right
      have htop : topUnits ≤ m * 2 ^ (e + 1074).toNat := by
        calc topUnits ≤ 2 ^ (52 + (e + 1074).toNat) := Nat.pow_le_pow_right (by decide) (by unfold topExponent; omega)
          _ = 2 ^ 52 * 2 ^ (e + 1074).toNat := Nat.pow_add ..
          _ ≤ m * 2 ^ (e + 1074).toNat := Nat.mul_le_mul_right _ (hp.digits (by omega))
      generalize m * 2 ^ (e + 1074).toNat = k at hunits htop
      cases s with
      | positive =>
        have hsign : (decide ((k : ℤ) < 0)) = false := decide_eq_false (by omega)
        refine ⟨?_, htop.trans_eq (Int.natAbs_natCast k).symm⟩
        show Reading.infinite false = .infinite (decide ((k : ℤ) < 0))
        rw [hsign]
      | negative =>
        have hsign : (decide (-(k : ℤ) < 0)) = true := decide_eq_true (by omega)
        refine ⟨?_, htop.trans_eq (by rw [UnpackedFloat.Sign.apply, Int.natAbs_neg, Int.natAbs_natCast])⟩
        show Reading.infinite true = .infinite (decide (-(k : ℤ) < 0))
        rw [hsign]

/-- **The sum** of two finite doubles is the exact sum rounded, or an infinity if that is past all doubles -/
theorem read_add {x y : Float} {a b : Binary64} (hx : read x = .finite a) (hy : read y = .finite b) :
    (∃ c, read (x + y) = .finite c ∧ c.units = roundSigned (a.units + b.units)) ∨
      (read (x + y) = .infinite (decide (roundSigned (a.units + b.units) < 0)) ∧
        topUnits ≤ (roundSigned (a.units + b.units)).natAbs) :=
  (rounded_add (rounded_unpack hx) (rounded_unpack hy) (ofBits_canonical hx) (ofBits_canonical hy)).packs

/-! ## Sums in the order of doubles -/

theorem unpack_of_nan {x : Float} (h : read x = .nan) : x.toModel.unpack = .notANumber := by
  rw [read_unpack] at h
  cases hu : x.toModel.unpack with
  | notANumber => rfl
  | _ => rw [hu] at h; cases h

theorem unpack_of_finite {x : Float} {a : Binary64} (h : read x = .finite a) :
    (∃ s, x.toModel.unpack = .zero s) ∨ ∃ s m e hpos, x.toModel.unpack = .finite s m e hpos := by
  rw [read_unpack] at h
  cases hu : x.toModel.unpack with
  | zero s => exact .inl ⟨s, rfl⟩
  | finite s m e hpos => exact .inr ⟨s, m, e, hpos, rfl⟩
  | _ => rw [hu] at h; cases h

theorem unpack_of_infinite {x : Float} {negative : Bool} (h : read x = .infinite negative) :
    ∃ s : UnpackedFloat.Sign, (s == .negative) = negative ∧ x.toModel.unpack = .infinity s := by
  rw [read_unpack] at h
  cases hu : x.toModel.unpack with
  | infinity s =>
    rw [hu] at h
    cases h
    exact ⟨s, rfl, rfl⟩
  | _ => rw [hu] at h; cases h

/-- what is no number is below nothing -/
theorem not_nan_lt {x : Float} (h : read x = .nan) (y : Float) : ¬ x < y := by
  rw [lt_iff_compare, unpack_of_nan h]
  nofun

/-- nothing is below what is no number -/
theorem not_lt_nan {y : Float} (h : read y = .nan) (x : Float) : ¬ x < y := by
  rw [lt_iff_compare, unpack_of_nan h]
  cases x.toModel.unpack <;> nofun

/-- the upper infinity is below nothing -/
theorem not_top_lt {x : Float} (h : read x = .infinite false) (y : Float) : ¬ x < y := by
  obtain ⟨s, hs, hu⟩ := unpack_of_infinite h
  rw [lt_iff_compare, hu]
  cases s with
  | negative => cases hs
  | positive =>
    cases y.toModel.unpack with
    | infinity t => cases t <;> decide
    | _ => nofun

/-- nothing is below the lower infinity -/
theorem not_lt_bottom {y : Float} (h : read y = .infinite true) (x : Float) : ¬ x < y := by
  obtain ⟨s, hs, hu⟩ := unpack_of_infinite h
  rw [lt_iff_compare, hu]
  cases s with
  | positive => cases hs
  | negative =>
    cases x.toModel.unpack with
    | infinity t => cases t <;> decide
    | _ => nofun

theorem read_zero : read 0.0 = .finite ⟨false, 0, 0⟩ := by decide +kernel

/-- what is not below zero is no number, or the upper infinity, or of no negative number of units -/
theorem not_neg_cases {d : Float} (h : ¬ d < 0.0) :
    read d = .nan ∨ read d = .infinite false ∨ ∃ b, read d = .finite b ∧ 0 ≤ b.units := by
  cases hd : read d with
  | nan => exact .inl rfl
  | infinite negative =>
    cases negative with
    | false => exact .inr (.inl rfl)
    | true =>
      refine absurd ?_ h
      obtain ⟨s, hs, hu⟩ := unpack_of_infinite hd
      rw [lt_iff_compare, hu]
      cases s with
      | positive => cases hs
      | negative => decide +kernel
  | finite b =>
    rw [lt_iff_units hd read_zero] at h
    exact .inr (.inr ⟨b, rfl, Int.not_lt.1 h⟩)

/-- the reading of a sum, by what is added -/
theorem read_add_eq (x y : Float) {u v : UnpackedFloat} (hx : x.toModel.unpack = u) (hy : y.toModel.unpack = v) :
    read (x + y) = ofBits (UnpackedFloat.pack Format.binary64 (UnpackedFloat.add Format.binary64 u v)).toNat := by
  subst hx hy
  rfl

theorem ofBits_pack_nan : ofBits (UnpackedFloat.pack Format.binary64 .notANumber).toNat = .nan := by decide +kernel

theorem ofBits_pack_top :
    ofBits (UnpackedFloat.pack Format.binary64 (.infinity .positive)).toNat = .infinite false := by
  decide +kernel

theorem read_nan_add {x : Float} (h : read x = .nan) (y : Float) : read (x + y) = .nan := by
  rw [read_add_eq x y (unpack_of_nan h) rfl]
  cases y.toModel.unpack <;> exact ofBits_pack_nan

theorem read_add_nan {y : Float} (h : read y = .nan) (x : Float) : read (x + y) = .nan := by
  rw [read_add_eq x y rfl (unpack_of_nan h)]
  cases x.toModel.unpack <;> exact ofBits_pack_nan

theorem unpack_of_top {x : Float} (h : read x = .infinite false) : x.toModel.unpack = .infinity .positive := by
  obtain ⟨s, hs, hu⟩ := unpack_of_infinite h
  cases s with
  | positive => exact hu
  | negative => cases hs

/-- the upper infinity and a number that is not below zero -/
theorem read_top_add {x d : Float} (h : read x = .infinite false) (hd : ¬ d < 0.0) (hnum : read d ≠ .nan) :
    read (x + d) = .infinite false := by
  have hu := unpack_of_top h
  rcases not_neg_cases hd with hnan | htop | ⟨b, hb, -⟩
  · exact absurd hnan hnum
  · rw [read_add_eq x d hu (unpack_of_top htop)]
    exact ofBits_pack_top
  · rcases unpack_of_finite hb with ⟨s, hv⟩ | ⟨s, m, e, hpos, hv⟩
    · rw [read_add_eq x d hu hv]
      exact ofBits_pack_top
    · rw [read_add_eq x d hu hv]
      exact ofBits_pack_top

/-- a sum with the upper infinity is that infinity, or no number -/
theorem read_add_top {d : Float} (h : read d = .infinite false) (x : Float) :
    read (x + d) = .infinite false ∨ read (x + d) = .nan := by
  rw [read_add_eq x d rfl (unpack_of_top h)]
  cases x.toModel.unpack with
  | infinity s =>
    cases s with
    | positive => exact .inl ofBits_pack_top
    | negative => exact .inr ofBits_pack_nan
  | notANumber => exact .inr ofBits_pack_nan
  | _ => exact .inl ofBits_pack_top

/-- **A number that is not below zero** leads to no lower place -/
theorem not_add_lt (x : Float) {d : Float} (hd : ¬ d < 0.0) : ¬ x + d < x := by
  by_cases hnan : read d = .nan
  · exact not_nan_lt (read_add_nan hnan x) x
  cases hx : read x with
  | nan => exact not_lt_nan hx _
  | infinite negative =>
    cases negative with
    | true => exact not_lt_bottom hx _
    | false => exact not_top_lt (read_top_add hx hd hnan) x
  | finite a =>
    rcases not_neg_cases hd with h | htop | ⟨b, hb, hpos⟩
    · exact absurd h hnan
    · rcases read_add_top htop x with h | h
      · exact not_top_lt h x
      · exact not_nan_lt h x
    · have hle : a.units ≤ roundSigned (a.units + b.units) := le_roundSigned (ofBits_canonical hx) (by omega)
      rcases read_add hx hb with ⟨c, hc, hunits⟩ | ⟨hinf, hbig⟩
      · rw [lt_iff_units hc hx, hunits]
        exact Int.not_lt.2 hle
      · -- a sum below all doubles would be below `x`
        have hsign : decide (roundSigned (a.units + b.units) < 0) = false := by
          refine decide_eq_false fun hneg => ?_
          have hsmall := magnitude_lt_top hx
          rw [← units_natAbs] at hsmall
          omega
        rw [hsign] at hinf
        exact not_top_lt hinf x

theorem not_lt_of_lt {x y : Float} (h : x < y) : ¬ y < x := by
  have hx : x.isNaN = false := isNaN_of_read fun hnan => not_nan_lt hnan y h
  have hy : y.isNaN = false := isNaN_of_read fun hnan => not_lt_nan hnan x h
  exact lt_asymm hx hy h

theorem not_lt_self (x : Float) : ¬ x < x := fun h => not_lt_of_lt h h

/-- "not below" may be chained, also if what comes after no number is no number -/
theorem not_lt_chain {x y z : Float} (hnan : read y = .nan → read z = .nan) (h₁ : ¬ y < x) (h₂ : ¬ z < y) :
    ¬ z < x := by
  by_cases hz : read z = .nan
  · exact not_nan_lt hz x
  by_cases hx : read x = .nan
  · exact not_lt_nan hx z
  exact not_lt_trans (isNaN_of_read hx) (isNaN_of_read fun hy => hz (hnan hy)) (isNaN_of_read hz) h₁ h₂

theorem not_add_lt_of {x y d : Float} (h : ¬ y < x) (hd : ¬ d < 0.0) : ¬ y + d < x :=
  not_lt_chain (fun hy => read_nan_add hy d) h (not_add_lt y hd)

/-! ## Sums by value -/

/-- `r` comes of rounding `p` to a double: no double lies between them, and it is off by one part in `2 ^ 53` at most -/
structure Rounds (p r : ℚ) : Prop where
  near : |r - p| ≤ |p| / 2 ^ 53
  le : ∀ {d : Float} {t : ℚ}, toRat? d = some t → t ≤ p → t ≤ r
  ge : ∀ {d : Float} {t : ℚ}, toRat? d = some t → p ≤ t → r ≤ t

/-- the value of a double is not changed by rounding -/
theorem Rounds.exact {p r : ℚ} {d : Float} (h : Rounds p r) (hd : toRat? d = some p) : r = p :=
  le_antisymm (h.ge hd le_rfl) (h.le hd le_rfl)

theorem toRat?_of_read {x : Float} {b : Binary64} (h : read x = .finite b) :
    toRat? x = some ((b.units : ℚ) / unitsPerOne) := by
  rw [toRat?, h]

/-- a whole number of units, rounded as units and as a fraction -/
theorem rounds_units (n : ℤ) : Rounds ((n : ℚ) / unitsPerOne) ((roundSigned n : ℤ) / unitsPerOne) := by
  have hone : (0 : ℚ) < unitsPerOne := Nat.cast_pos.2 unitsPerOne_pos
  refine ⟨?_, fun hd hle => ?_, fun hd hge => ?_⟩
  · have hnear : (2 : ℚ) ^ 53 * |(roundSigned n : ℚ) - n| ≤ |(n : ℚ)| := by
      exact_mod_cast roundSigned_near n
    rw [← sub_div, abs_div, abs_div, abs_of_pos hone, div_right_comm, div_le_div_iff_of_pos_right hone,
      le_div_iff₀' (by positivity)]
    exact hnear
  · obtain ⟨b, hb, rfl⟩ := toRat?_eq_some hd
    rw [div_le_div_iff_of_pos_right hone, Int.cast_le] at hle ⊢
    exact le_roundSigned (ofBits_canonical hb) hle
  · obtain ⟨b, hb, rfl⟩ := toRat?_eq_some hd
    rw [div_le_div_iff_of_pos_right hone, Int.cast_le] at hge ⊢
    exact roundSigned_le (ofBits_canonical hb) hge

/-- **A sum of doubles by value**, where it is finite: the exact sum, rounded -/
theorem toRat?_add {x y : Float} {p q r : ℚ} (hx : toRat? x = some p) (hy : toRat? y = some q)
    (hsum : toRat? (x + y) = some r) : Rounds (p + q) r := by
  obtain ⟨a, ha, rfl⟩ := toRat?_eq_some hx
  obtain ⟨b, hb, rfl⟩ := toRat?_eq_some hy
  obtain ⟨c, hc, rfl⟩ := toRat?_eq_some hsum
  have hunits : c.units = roundSigned (a.units + b.units) := by
    rcases read_add ha hb with ⟨c', hc', h⟩ | ⟨hinf, -⟩
    · rw [hc] at hc'
      cases hc'
      exact h
    · rw [hc] at hinf
      cases hinf
  rw [hunits, ← add_div, ← Int.cast_add]
  exact rounds_units _

/-- a number that is the value of a double -/
def IsValue (q : ℚ) : Prop := ∃ x, toRat? x = some q

/-- a sum that is the value of a double is not rounded -/
theorem toRat?_add_of_isValue {x y : Float} {p q : ℚ} (hx : toRat? x = some p) (hy : toRat? y = some q)
    (hsum : IsValue (p + q)) : toRat? (x + y) = some (p + q) := by
  obtain ⟨a, ha, rfl⟩ := toRat?_eq_some hx
  obtain ⟨b, hb, rfl⟩ := toRat?_eq_some hy
  obtain ⟨z, hz⟩ := hsum
  obtain ⟨c, hc, hvalue⟩ := toRat?_eq_some hz
  have hone : (unitsPerOne : ℚ) ≠ 0 := Nat.cast_ne_zero.2 unitsPerOne_pos.ne'
  have hunits : a.units + b.units = c.units := by
    rw [← add_div, div_left_inj' hone] at hvalue
    exact_mod_cast hvalue
  have hexact : roundSigned (a.units + b.units) = c.units := by rw [hunits, roundSigned_units (ofBits_canonical hc)]
  rcases read_add ha hb with ⟨d, hd, hround⟩ | ⟨-, htop⟩
  · rw [toRat?_of_read hd, hround, hexact, hvalue]
  · rw [hexact, units_natAbs] at htop
    exact absurd (magnitude_lt_top hc) (Nat.not_lt.2 htop)

/-- finite doubles are below the upper infinity -/
theorem lt_top {x w : Float} {p : ℚ} (hx : toRat? x = some p) (hw : read w = .infinite false) : x < w := by
  obtain ⟨b, hb, -⟩ := toRat?_eq_some hx
  rw [lt_iff_compare, unpack_of_top hw]
  rcases unpack_of_finite hb with ⟨s, hu⟩ | ⟨s, m, e, hpos, hu⟩
  · rw [hu]
    rfl
  · rw [hu]
    rfl

/-- the lower infinity is below all finite doubles -/
theorem bottom_lt {x w : Float} {p : ℚ} (hx : toRat? x = some p) (hw : read w = .infinite true) : w < x := by
  obtain ⟨b, hb, -⟩ := toRat?_eq_some hx
  obtain ⟨t, ht, hbottom⟩ := unpack_of_infinite hw
  rw [lt_iff_compare, hbottom]
  cases t with
  | positive => cases ht
  | negative =>
    rcases unpack_of_finite hb with ⟨s, hu⟩ | ⟨s, m, e, hpos, hu⟩
    · rw [hu]
      rfl
    · rw [hu]
      rfl

/-- a number between two finite doubles is finite -/
theorem toRat?_of_between {x w z : Float} {p r : ℚ} (hx : toRat? x = some p) (hz : toRat? z = some r)
    (hw : read w ≠ .nan) (hlow : ¬ w < x) (hhigh : ¬ z < w) : ∃ q, toRat? w = some q := by
  cases hread : read w with
  | nan => exact absurd hread hw
  | infinite negative =>
    cases negative with
    | true => exact absurd (bottom_lt hx hread) hlow
    | false => exact absurd (lt_top hz hread) hhigh
  | finite b => exact ⟨_, toRat?_of_read hread⟩

/-- a finite double and a number that is not below zero have a number as their sum -/
theorem read_add_ne_nan {x d : Float} {p : ℚ} (hx : toRat? x = some p) (hd : ¬ d < 0.0) (hnum : read d ≠ .nan) :
    read (x + d) ≠ .nan := by
  obtain ⟨a, ha, -⟩ := toRat?_eq_some hx
  rcases not_neg_cases hd with hnan | htop | ⟨b, hb, -⟩
  · exact absurd hnan hnum
  · have hsum : read (x + d) = .infinite false := by
      rcases unpack_of_finite ha with ⟨s, hu⟩ | ⟨s, m, e, hpos, hu⟩
      · rw [read_add_eq x d hu (unpack_of_top htop)]
        exact ofBits_pack_top
      · rw [read_add_eq x d hu (unpack_of_top htop)]
        exact ofBits_pack_top
    rw [hsum]
    nofun
  · rcases read_add ha hb with ⟨c, hc, -⟩ | ⟨hinf, -⟩
    · rw [hc]
      nofun
    · rw [hinf]
      nofun

/-- **A place that two lengths lead to**, neither below zero, is finite with the lengths' sum if a finite place is not
above it; by value the sums are the exact ones, each rounded -/
theorem toRat?_add_add {x h g z : Float} {p q s r : ℚ} (hx : toRat? x = some p) (hh : toRat? h = some q)
    (hg : toRat? g = some s) (hz : toRat? z = some r) (hhpos : ¬ h < 0.0) (hgpos : ¬ g < 0.0)
    (hle : ¬ z < x + (h + g)) :
    ∃ step place, Rounds (q + s) step ∧ Rounds (p + step) place ∧ place ≤ r := by
  have hpos : ¬ h + g < 0.0 := not_add_lt_of hhpos hgpos
  have hstep : read (h + g) ≠ .nan := by
    refine read_add_ne_nan hh hgpos fun hnan => ?_
    rw [toRat?, hnan] at hg
    cases hg
  obtain ⟨place, hplace⟩ := toRat?_of_between hx hz (read_add_ne_nan hx hpos hstep) (not_add_lt x hpos) hle
  have hle' : place ≤ r := by
    rwa [lt_iff_toRat hz hplace, not_lt] at hle
  rcases not_neg_cases hpos with hnan | htop | ⟨b, hb, -⟩
  · exact absurd hnan hstep
  · -- the place would not be finite
    obtain ⟨c, hc, -⟩ := toRat?_eq_some hplace
    rcases read_add_top htop x with hsum | hsum
    · rw [hsum] at hc
      cases hc
    · rw [hsum] at hc
      cases hc
  · have hfinite := toRat?_of_read hb
    exact ⟨_, place, toRat?_add hh hg hfinite, toRat?_add hx hfinite hplace, hle'⟩

end ReportPress.Binary64
