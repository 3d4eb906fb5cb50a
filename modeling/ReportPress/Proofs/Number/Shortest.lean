import Mathlib.Tactic.Linarith
import Mathlib.Tactic.Ring
import ReportPress.Number.Shortest
import ReportPress.Proofs.Number.Exact
/-!
The shortest decimal of a double. It lies in the interval of the numbers that round to the double: seventeen digits
always hit that interval, for their step is less than its width. The intervals of two doubles do not meet, for where one
ends and the next begins, only one of them is closed. So a decimal is the shortest of one magnitude only.

- `onGrid?_cases`, `onGrid?_isSome`: what a grid finds in an interval, and when it finds something.
- `shortest_holds`: the shortest decimal of a double lies in its interval.
- `not_holds_of_lt`: the intervals of two magnitudes do not meet.
- `Binary64.magnitude_of_shortest`: doubles with the same shortest decimal have the same magnitude.
-/

namespace ReportPress

/-- what a decimal stands for -/
def Decimal.value (d : Decimal) : ℚ := d.digits * 10 ^ d.exponent

namespace Shortest

/-! ## Intervals and grids -/

/-- a number lies between the ends of an interval, which belong to it if it is closed -/
def Interval.Holds (i : Interval) (q : ℚ) : Prop :=
  if i.closed then i.low ≤ q * i.den ∧ q * i.den ≤ i.high else i.low < q * i.den ∧ q * i.den < i.high

theorem Interval.holds_iff {i : Interval} {num den : ℕ} (hden : 0 < den) :
    i.holds num den = true ↔ i.Holds (num / den) := by
  have hpos : (0 : ℚ) < den := Nat.cast_pos.2 hden
  unfold Interval.holds Interval.Holds
  rw [div_mul_eq_mul_div, le_div_iff₀ hpos, div_le_iff₀ hpos, lt_div_iff₀ hpos, div_lt_iff₀ hpos]
  norm_cast
  cases i.closed <;> simp

theorem Interval.Holds.between {i : Interval} {q : ℚ} (h : i.Holds q) : i.low ≤ q * i.den ∧ q * i.den ≤ i.high := by
  unfold Interval.Holds at h
  split at h
  · exact h
  · exact ⟨h.1.le, h.2.le⟩

theorem Interval.holds_of_lt {i : Interval} {q : ℚ} (hlow : i.low < q * i.den) (hhigh : q * i.den < i.high) :
    i.Holds q := by
  unfold Interval.Holds
  split
  · exact ⟨hlow.le, hhigh.le⟩
  · exact ⟨hlow, hhigh⟩

theorem Interval.Holds.closed {i : Interval} {q : ℚ} (h : i.Holds q) (hend : q * i.den = i.low ∨ q * i.den = i.high) :
    i.closed = true := by
  unfold Interval.Holds at h
  split at h
  · assumption
  · rcases hend with hend | hend
    · exact absurd h.1 (by rw [hend]; exact lt_irrefl _)
    · exact absurd h.2 (by rw [hend]; exact lt_irrefl _)

/-- the number of steps up that a grid takes for one, and down -/
def up (e : ℤ) : ℕ := if 0 ≤ e then Nat.pow 10 e.toNat else 1

def down (e : ℤ) : ℕ := if 0 ≤ e then 1 else Nat.pow 10 (-e).toNat

theorem down_pos (e : ℤ) : 0 < down e := by
  unfold down
  split
  · exact Nat.one_pos
  · exact Nat.pow_pos (by decide)

theorem up_pos (e : ℤ) : 0 < up e := by
  unfold up
  split
  · exact Nat.pow_pos (by decide)
  · exact Nat.one_pos

theorem up_div_down (e : ℤ) : (up e / down e : ℚ) = 10 ^ e := by
  unfold up down
  split
  · next h =>
    obtain ⟨n, rfl⟩ := Int.eq_ofNat_of_zero_le h
    simp
  · next h =>
    obtain ⟨n, hn⟩ : ∃ n : ℕ, e = -(n : ℤ) := ⟨(-e).toNat, by omega⟩
    subst hn
    simp

/-- a number of steps on a grid lies in an interval -/
theorem grid_holds_iff {i : Interval} {d : ℕ} {e : ℤ} :
    i.holds (d * up e) (down e) = true ↔ i.Holds (d * 10 ^ e) := by
  rw [Interval.holds_iff (down_pos e), Nat.cast_mul, mul_div_assoc, up_div_down]

/-- the grid number below a ratio -/
def below (num den : ℕ) (e : ℤ) : ℕ := num * down e / (den * up e)

/-- a grid finds a number in the interval, or neither neighbour is in it -/
theorem onGrid?_cases (i : Interval) (num den : ℕ) (e : ℤ) :
    (∃ d, onGrid? i num den e = some d ∧ i.Holds (d * 10 ^ e)) ∨
      (onGrid? i num den e = none ∧ ¬ i.Holds (below num den e * 10 ^ e) ∧
        ¬ i.Holds ((below num den e + 1 : ℕ) * 10 ^ e)) := by
  simp only [← grid_holds_iff]
  unfold onGrid? below up down
  dsimp only
  generalize (if 0 ≤ e then Nat.pow 10 e.toNat else 1) = u
  generalize (if 0 ≤ e then 1 else Nat.pow 10 (-e).toNat) = w
  generalize num * w / (den * u) = lo
  cases hlo : i.holds (lo * u) w with
  | true =>
    left
    cases hhi : i.holds ((lo + 1) * u) w with
    | true =>
      dsimp only
      split
      · exact ⟨lo, rfl, hlo⟩
      · split
        · exact ⟨lo + 1, rfl, hhi⟩
        · split
          · exact ⟨lo, rfl, hlo⟩
          · exact ⟨lo + 1, rfl, hhi⟩
    | false => exact ⟨lo, rfl, hlo⟩
  | false =>
    cases hhi : i.holds ((lo + 1) * u) w with
    | true => exact .inl ⟨lo + 1, rfl, hhi⟩
    | false => exact .inr ⟨rfl, Bool.false_ne_true, Bool.false_ne_true⟩

/-- a ratio is between its neighbours on a grid -/
theorem below_spec (num : ℕ) {den : ℕ} (hden : 0 < den) (e : ℤ) :
    (below num den e * 10 ^ e : ℚ) ≤ num / den ∧ (num / den : ℚ) < (below num den e + 1 : ℕ) * 10 ^ e := by
  have hd : (0 : ℚ) < down e := Nat.cast_pos.2 (down_pos e)
  have hn : (0 : ℚ) < den := Nat.cast_pos.2 hden
  rw [← up_div_down, ← mul_div_assoc, ← mul_div_assoc, div_le_div_iff₀ hd hn, div_lt_div_iff₀ hn hd]
  norm_cast
  unfold below
  have hstep : 0 < den * up e := Nat.mul_pos hden (up_pos e)
  have hfloor := Nat.div_mul_le_self (num * down e) (den * up e)
  have hceil := Nat.lt_mul_div_succ (num * down e) hstep
  generalize num * down e / (den * up e) = lo at *
  constructor
  · linarith
  · linarith

/-- **A grid finds something** in an interval around a ratio if its step is less than the width -/
theorem onGrid?_isSome {i : Interval} {num den : ℕ} {e : ℤ} (hden : 0 < den)
    (hlow : (i.low : ℚ) < num / den * i.den) (hhigh : (num / den * i.den : ℚ) < i.high)
    (hstep : (10 : ℚ) ^ e * i.den < i.high - i.low) :
    ∃ d, onGrid? i num den e = some d ∧ i.Holds (d * 10 ^ e) := by
  rcases onGrid?_cases i num den e with hfound | ⟨-, hlo, hhi⟩
  · exact hfound
  · obtain ⟨hfloor, hceil⟩ := below_spec num hden e
    have hbelow : (below num den e * 10 ^ e * i.den : ℚ) ≤ i.low := by
      refine not_lt.1 fun h => hlo (Interval.holds_of_lt h (lt_of_le_of_lt ?_ hhigh))
      exact mul_le_mul_of_nonneg_right hfloor (Nat.cast_nonneg _)
    have habove : (i.high : ℚ) ≤ (below num den e + 1 : ℕ) * 10 ^ e * i.den := by
      refine not_lt.1 fun h => hhi (Interval.holds_of_lt (lt_of_lt_of_le hlow ?_) h)
      exact mul_le_mul_of_nonneg_right hceil.le (Nat.cast_nonneg _)
    push_cast at habove
    linarith

/-! ## The search -/

theorem den_le_leadingZeros {num den : ℕ} (fuel j : ℕ) (h : den ≤ num * 10 ^ fuel) :
    ∃ k, leadingZeros num den fuel j = j + k ∧ den ≤ num * 10 ^ k := by
  induction fuel generalizing num j with
  | zero => exact ⟨0, rfl, h⟩
  | succ fuel ih =>
    unfold leadingZeros
    split
    · next hle => exact ⟨0, rfl, by simpa using hle⟩
    · have hten : den ≤ num * 10 * 10 ^ fuel := by rwa [Nat.mul_assoc, ← Nat.pow_succ']
      obtain ⟨k, hk, hden⟩ := ih (j + 1) hten
      refine ⟨k + 1, by omega, ?_⟩
      rwa [Nat.mul_assoc, ← Nat.pow_succ'] at hden

theorem pow_places_le {n : ℕ} (h : 0 < n) : 10 ^ (places n - 1) ≤ n := by
  have hpos : 0 < places n := Nat.length_toDigits_pos
  rcases Nat.eq_zero_or_pos (places n - 1) with hone | hmore
  · rw [hone]
    exact h
  · refine Nat.not_lt.1 fun hlt => ?_
    have hle : places n ≤ places n - 1 := (Nat.length_toDigits_le_iff (by decide) hmore).2 hlt
    omega

/-- the first decimal place of a ratio is not above it -/
theorem pow_point_le {num den : ℕ} (hden : 0 < den) (h : den ≤ num * 10 ^ 400) :
    (10 : ℚ) ^ (point num den - 1) ≤ num / den := by
  have hpos : (0 : ℚ) < den := Nat.cast_pos.2 hden
  rw [le_div_iff₀ hpos]
  unfold point
  split
  · next hle =>
    have hq : 0 < num / den := Nat.div_pos hle hden
    have hplaces : 0 < places (num / den) := Nat.length_toDigits_pos
    have hpow := pow_places_le hq
    have hexp : ((places (num / den) : ℤ) - 1) = ((places (num / den) - 1 : ℕ) : ℤ) := by omega
    rw [hexp, zpow_natCast]
    have := (Nat.mul_le_mul_right den hpow).trans (Nat.div_mul_le_self num den)
    exact_mod_cast this
  · obtain ⟨k, hk, hle⟩ := den_le_leadingZeros 400 0 h
    rw [hk, Nat.zero_add, show (1 - (k : ℤ) - 1) = -(k : ℤ) by omega, zpow_neg, zpow_natCast,
      inv_mul_le_iff₀ (by positivity), mul_comm]
    exact_mod_cast hle

/-- a search finds something in the interval if one of its grids does -/
theorem search_isSome {i : Interval} {num den : ℕ} {p : ℤ} (fuel n : ℕ) {k : ℕ} (hn : n ≤ k) (hk : k < n + fuel)
    (h : ∃ d, onGrid? i num den (p - k) = some d ∧ i.Holds (d * 10 ^ (p - k))) :
    ∃ d, search i num den p fuel n = some d ∧ i.Holds d.value := by
  induction fuel generalizing n with
  | zero => omega
  | succ fuel ih =>
    unfold search
    rcases onGrid?_cases i num den (p - n) with ⟨d, hd, hholds⟩ | ⟨hnone, -⟩
    · rw [hd]
      exact ⟨_, rfl, hholds⟩
    · have hne : n ≠ k := by
        rintro rfl
        obtain ⟨d, hd, -⟩ := h
        rw [hnone] at hd
        cases hd
      rw [hnone]
      exact ih (n + 1) (by omega) (by omega)

theorem value_strip (fuel : ℕ) (d : Decimal) : (strip fuel d).value = d.value := by
  induction fuel generalizing d with
  | zero => rfl
  | succ fuel ih =>
    unfold strip
    split
    · next h =>
      rw [ih]
      have hten : d.digits = d.digits / 10 * 10 := by omega
      have hcast : (d.digits : ℚ) = ((d.digits / 10 : ℕ) : ℚ) * 10 := by exact_mod_cast hten
      rw [Decimal.value, Decimal.value, hcast, zpow_add_one₀ (by norm_num)]
      ring
    · rfl

/-! ## Doubles and their intervals -/

/-- how far, in quarters of its last place, the interval of a double reaches down -/
def reach (b : Binary64) : ℕ := if b.mantissa = Nat.pow 2 52 ∧ 0 < b.exponent then 1 else 2

theorem interval_low (b : Binary64) (h : 0 < b.mantissa) :
    ((interval b).low : ℚ) = (4 * b.mantissa - reach b) * 2 ^ b.exponent := by
  have hreach : reach b ≤ 4 * b.mantissa := by
    unfold reach
    split <;> omega
  have hlow : (interval b).low = (4 * b.mantissa - reach b) * 2 ^ b.exponent := rfl
  rw [hlow, Nat.cast_mul, Nat.cast_sub hreach]
  norm_num

theorem interval_high (b : Binary64) : ((interval b).high : ℚ) = (4 * b.mantissa + 2) * 2 ^ b.exponent := by
  have hhigh : (interval b).high = (4 * b.mantissa + 2) * 2 ^ b.exponent := rfl
  rw [hhigh]
  norm_num

theorem interval_den (b : Binary64) : ((interval b).den : ℚ) = 4 * Binary64.unitsPerOne := by
  have hden : (interval b).den = 4 * Binary64.unitsPerOne := rfl
  rw [hden, Nat.cast_mul, Nat.cast_ofNat]

/-- a double in the scale of the ends of its interval -/
theorem scaled_magnitude (b : Binary64) :
    (b.magnitude / Binary64.unitsPerOne : ℚ) * (interval b).den = 4 * b.mantissa * 2 ^ b.exponent := by
  have hunit : (Binary64.unitsPerOne : ℚ) ≠ 0 := Nat.cast_ne_zero.2 Binary64.unitsPerOne_pos.ne'
  have hmagnitude : b.magnitude = b.mantissa * 2 ^ b.exponent := rfl
  rw [interval_den, hmagnitude, div_mul_eq_mul_div, mul_left_comm, ← mul_assoc, mul_div_cancel_right₀ _ hunit]
  push_cast
  ring

/-- a double lies inside its interval -/
theorem magnitude_inside {b : Binary64} (hpos : 0 < b.mantissa) :
    ((interval b).low : ℚ) < b.magnitude / Binary64.unitsPerOne * (interval b).den ∧
      (b.magnitude / Binary64.unitsPerOne : ℚ) * (interval b).den < (interval b).high := by
  have hplace : (0 : ℚ) < 2 ^ b.exponent := by positivity
  have hreach : (0 : ℚ) < reach b := by
    unfold reach
    split <;> norm_num
  rw [scaled_magnitude, interval_low b hpos, interval_high]
  exact ⟨mul_lt_mul_of_pos_right (by linarith) hplace, mul_lt_mul_of_pos_right (by linarith) hplace⟩

/-- **Seventeen digits** are enough: their step is less than the width of the interval -/
theorem step_lt_width {b : Binary64} (hb : b.Canonical) (hpos : 0 < b.mantissa) {p : ℤ}
    (hp : (10 : ℚ) ^ (p - 1) ≤ b.magnitude / Binary64.unitsPerOne) :
    (10 : ℚ) ^ (p - 17) * (interval b).den < (interval b).high - (interval b).low := by
  have hplace : (0 : ℚ) < 2 ^ b.exponent := by positivity
  have hden : (0 : ℚ) ≤ (interval b).den := Nat.cast_nonneg _
  have hsplit : (10 : ℚ) ^ (p - 1) = 10 ^ (p - 17) * 10 ^ 16 := by
    rw [← zpow_natCast, ← zpow_add₀ (by norm_num), show p - 17 + (16 : ℕ) = p - 1 by omega]
  have hscaled := mul_le_mul_of_nonneg_right hp hden
  rw [hsplit, scaled_magnitude] at hscaled
  have hwidth : 4 * (b.mantissa : ℚ) < (2 + reach b) * 10 ^ 16 := by
    have hmantissa := hb.mantissa
    unfold reach
    split
    · next h =>
      rw [h.1]
      norm_num
    · have : (b.mantissa : ℚ) < 2 ^ 53 := by exact_mod_cast hmantissa
      norm_num
      linarith
  have hlt := mul_lt_mul_of_pos_right hwidth hplace
  rw [interval_low b hpos, interval_high]
  clear hp hden hsplit hwidth
  generalize ((interval b).den : ℚ) = den at *
  generalize (10 : ℚ) ^ (p - 17) = step at *
  generalize (2 : ℚ) ^ b.exponent = place at *
  linarith

theorem unitsPerOne_le : Binary64.unitsPerOne ≤ 10 ^ 400 := by decide +kernel

/-- **The shortest decimal** of a double lies in its interval -/
theorem shortest_holds {b : Binary64} (hb : b.Canonical) : (interval b).Holds b.shortest.value := by
  unfold Binary64.shortest
  split
  · next hzero =>
    have hvalue : Decimal.value ⟨0, 0⟩ = 0 := by simp [Decimal.value]
    have hlow : (interval b).low = 0 := by simp [interval, hzero]
    have hclosed : (interval b).closed = true := by simp [interval, hzero]
    rw [hvalue, Interval.Holds, hclosed, hlow, if_pos rfl, zero_mul, Nat.cast_zero]
    exact ⟨le_rfl, Nat.cast_nonneg _⟩
  · next hzero =>
    have hpos : 0 < b.mantissa := Nat.pos_of_ne_zero hzero
    have hden := Binary64.unitsPerOne_pos
    have hunits : Binary64.unitsPerOne ≤ b.magnitude * 10 ^ 400 :=
      unitsPerOne_le.trans (Nat.le_mul_of_pos_left _ (Binary64.magnitude_pos hpos))
    obtain ⟨hlow, hhigh⟩ := magnitude_inside hpos
    have hfound := onGrid?_isSome hden hlow hhigh (step_lt_width hb hpos (pow_point_le hden hunits))
    obtain ⟨d, hd, hholds⟩ := search_isSome (k := 17) 17 1 (by decide) (by decide) hfound
    dsimp only
    rw [value_strip, hd]
    exact hholds

/-! ## Intervals do not meet -/

theorem reach_cases (b : Binary64) :
    (reach b = 1 ∧ b.mantissa = 2 ^ 52) ∨ (reach b = 2 ∧ (b.mantissa = 2 ^ 52 → b.exponent = 0)) := by
  unfold reach
  split
  · next h => exact .inl ⟨rfl, h.1⟩
  · next h => exact .inr ⟨rfl, fun hm => Nat.eq_zero_of_not_pos fun he => h ⟨hm, he⟩⟩

/-- where the interval of a double ends, that of a greater one has not begun, or just begins; then the mantissa of one
of them is odd -/
theorem high_le_low {a b : Binary64} (ha : a.Canonical) (hb : b.Canonical) (h : a.magnitude < b.magnitude) :
    (interval a).high ≤ (interval b).low ∧
      ((interval a).high = (interval b).low → (a.mantissa + b.mantissa) % 2 = 1) := by
  have hhigh : (interval a).high = (4 * a.mantissa + 2) * 2 ^ a.exponent := rfl
  have hlow : (interval b).low = (4 * b.mantissa - reach b) * 2 ^ b.exponent := rfl
  have hplace : 0 < 2 ^ a.exponent := Nat.two_pow_pos _
  have hreach := reach_cases b
  rw [hhigh, hlow]
  rcases (Binary64.magnitude_lt_iff ha hb).1 h with hexp | ⟨hexp, hmant⟩
  · have hdigits := hb.digits (by omega)
    have hmantissa := ha.mantissa
    -- what is below the greater double starts at the power of two, and reaches half as far there
    have htwice : 4 * a.mantissa + 2 ≤ (4 * b.mantissa - reach b) * 2 := by omega
    obtain ⟨k, hk⟩ : ∃ k, b.exponent = k + 1 + a.exponent := ⟨b.exponent - a.exponent - 1, by omega⟩
    have hgrow : (4 * b.mantissa - reach b) * 2 ≤ (4 * b.mantissa - reach b) * 2 ^ (k + 1) :=
      Nat.mul_le_mul_left _ (by rw [Nat.pow_succ]; have := Nat.two_pow_pos k; omega)
    rw [hk, Nat.pow_add, ← Nat.mul_assoc]
    refine ⟨Nat.mul_le_mul_right _ (htwice.trans hgrow), fun heq => ?_⟩
    have heq' := Nat.eq_of_mul_eq_mul_right hplace heq
    omega
  · rw [← hexp]
    refine ⟨Nat.mul_le_mul_right _ (by omega), fun heq => ?_⟩
    have heq' := Nat.eq_of_mul_eq_mul_right hplace heq
    omega

/-- **The intervals** of two magnitudes have no number in common -/
theorem not_holds_of_lt {a b : Binary64} (ha : a.Canonical) (hb : b.Canonical) (h : a.magnitude < b.magnitude) {q : ℚ}
    (hqa : (interval a).Holds q) : ¬ (interval b).Holds q := by
  intro hqb
  obtain ⟨hle, hodd⟩ := high_le_low ha hb h
  have hle' : ((interval a).high : ℚ) ≤ (interval b).low := by exact_mod_cast hle
  have hden : ((interval a).den : ℚ) = (interval b).den := rfl
  have ha1 := hqa.between.2
  have hb1 := hqb.between.1
  rw [hden] at ha1
  -- the number is where the one interval ends and the other begins, so both are closed
  have hend : ((interval a).high : ℚ) = (interval b).low := le_antisymm hle' (hb1.trans ha1)
  have hca := hqa.closed (.inr (le_antisymm hqa.between.2 (hend.trans_le hb1)))
  have hcb := hqb.closed (.inl (le_antisymm (ha1.trans hle') hb1))
  have hpa : a.mantissa % 2 = 0 := beq_iff_eq.1 hca
  have hpb : b.mantissa % 2 = 0 := beq_iff_eq.1 hcb
  have := hodd (by exact_mod_cast hend)
  omega

end Shortest

/-- **Doubles** with shortest decimals of the same value have the same magnitude -/
theorem Binary64.magnitude_of_shortest {a b : Binary64} (ha : a.Canonical) (hb : b.Canonical)
    (h : a.shortest.value = b.shortest.value) : a.magnitude = b.magnitude := by
  have hqa := Shortest.shortest_holds ha
  have hqb := Shortest.shortest_holds hb
  rw [h] at hqa
  rcases Nat.lt_trichotomy a.magnitude b.magnitude with hlt | heq | hgt
  · exact absurd hqb (Shortest.not_holds_of_lt ha hb hlt hqa)
  · exact heq
  · exact absurd hqa (Shortest.not_holds_of_lt hb ha hgt hqb)

end ReportPress
