import Mathlib.Data.Rat.Floor
import Mathlib.Tactic.Linarith
import Mathlib.Tactic.Positivity
import ReportPress.Flow.Plan
import ReportPress.Proofs.Page.Length
/-!
Pages by division, on exact numbers. The instances of one run are all of one height, so on a page they stand one step
below the other for as long as that is not past the limit. How many of them a page takes is then a quotient, and the
page of an instance and its place there are a quotient and a remainder, for any number of instances and whatever the
lengths, also if the run starts past the limit or the top of a page is past it.

- `Frame.paging`: how many instances the first page takes, and each page after it. `Paging.slot`, `Paging.pages`: where
  the instances are, and on how many pages.
- `lt_fit`: how many instances a page takes.
- `slot_succ`: one step from a slot to the next, or a page break. `slots_paging`: by induction, a run.
- `place_paging`: a run from the start of a document.
-/

namespace ReportPress

/-- pages that take instances of one height, one step below the other -/
structure Paging where
  /-- instances that the first page takes -/
  first : ℕ
  /-- instances that each page after it takes -/
  later : ℕ
  /-- where they start on the first page -/
  start : ℚ
  /-- where they start on each page after it -/
  top : ℚ
  step : ℚ

namespace Paging

/-- the slot of an instance, counted from zero -/
def slot (p : Paging) (k : ℕ) : Slot ℚ :=
  if k < p.first then ⟨firstPage, p.start + k * p.step⟩
  else ⟨firstPage + 1 + (k - p.first) / p.later, p.top + ((k - p.first) % p.later : ℕ) * p.step⟩

/-- the pages of so many instances -/
def pages (p : Paging) (n : ℕ) : ℕ :=
  if n ≤ p.first then firstPage else firstPage + ⌈((n - p.first : ℕ) : ℚ) / p.later⌉₊

/-- how many instances start on a page, the first of them at a height -/
def fit (limit step y : ℚ) : ℕ := if y ≤ limit then ⌊(limit - y) / step⌋₊ + 1 else 0

end Paging

/-- the pages of a run that has all of the room; a page after the first takes one instance at least -/
def Frame.paging (room : Frame ℚ) (declared height : ℚ) : Paging :=
  ⟨Paging.fit room.limit (height + room.gap) (max room.top declared),
    max 1 (Paging.fit room.limit (height + room.gap) room.top), max room.top declared, room.top, height + room.gap⟩

namespace Paging

/-! ## Quotients and remainders -/

/-- **What a page takes**: an instance is among those that fit just if it starts at the limit or above -/
theorem lt_fit {limit step y : ℚ} (hstep : 0 < step) (k : ℕ) : k < fit limit step y ↔ y + k * step ≤ limit := by
  unfold fit
  split
  · next hy =>
    have hroom : 0 ≤ (limit - y) / step := div_nonneg (sub_nonneg.2 hy) hstep.le
    rw [Nat.lt_succ_iff, Nat.le_floor_iff hroom, le_div_iff₀ hstep, le_sub_iff_add_le']
  · next hy =>
    have hdown : (0 : ℚ) ≤ k * step := by positivity
    exact iff_of_false (Nat.not_lt_zero k) fun hle => hy (le_trans (le_add_of_nonneg_right hdown) hle)

/-- past the limit the quotient is below zero -/
theorem floor_lt_zero {limit step y : ℚ} (hstep : 0 < step) (hy : ¬ y ≤ limit) : ⌊(limit - y) / step⌋ < 0 :=
  Int.floor_lt_zero.2 (div_neg_of_neg_of_pos (sub_neg.2 (not_le.1 hy)) hstep)

theorem fit_eq_floor {limit step : ℚ} (hstep : 0 < step) (y : ℚ) :
    (fit limit step y : ℤ) = if y ≤ limit then ⌊(limit - y) / step⌋ + 1 else 0 := by
  unfold fit
  split
  · next hy =>
    have hroom : 0 ≤ (limit - y) / step := div_nonneg (sub_nonneg.2 hy) hstep.le
    rw [Nat.cast_add, Nat.cast_one, Int.natCast_floor_eq_floor hroom]
  · rfl

/-- at least one: the quotient with one added, or one if that is not above zero -/
theorem max_fit_eq_floor {limit step : ℚ} (hstep : 0 < step) (y : ℚ) :
    ((max 1 (fit limit step y) : ℕ) : ℤ) = max 1 (⌊(limit - y) / step⌋ + 1) := by
  rw [Nat.cast_max, Nat.cast_one, fit_eq_floor hstep]
  split
  · rfl
  · next hy =>
    have hneg := floor_lt_zero hstep hy
    omega

/-- one instance more stands one place further on its page, or at the start of the next one -/
theorem succ_div_mod {n : ℕ} (hn : 0 < n) (j : ℕ) :
    (j % n + 1 < n ∧ (j + 1) / n = j / n ∧ (j + 1) % n = j % n + 1) ∨
      (j % n + 1 = n ∧ (j + 1) / n = j / n + 1 ∧ (j + 1) % n = 0) := by
  have hsplit := Nat.mod_add_div j n
  rcases Nat.lt_or_eq_of_le (Nat.succ_le_of_lt (Nat.mod_lt j hn)) with hroom | hfull
  · refine .inl ⟨hroom, (Nat.div_mod_unique hn).2 ⟨?_, hroom⟩⟩
    omega
  · refine .inr ⟨hfull, (Nat.div_mod_unique hn).2 ⟨?_, hn⟩⟩
    rw [Nat.mul_add]
    omega

/-- the pages that the first of them after a round begins -/
theorem ceil_succ_div {n : ℕ} (hn : 0 < n) (j : ℕ) : ⌈((j + 1 : ℕ) : ℚ) / n⌉₊ = j / n + 1 := by
  have hpos : (0 : ℚ) < n := Nat.cast_pos.2 hn
  rw [Nat.ceil_eq_iff (Nat.succ_ne_zero _), Nat.succ_sub_one, lt_div_iff₀ hpos, div_le_iff₀ hpos]
  constructor
  · exact_mod_cast Nat.lt_succ_of_le (Nat.div_mul_le_self j n)
  · exact_mod_cast Nat.lt_mul_of_div_lt (Nat.lt_succ_self (j / n)) hn

end Paging

/-! ## Step by step -/

/-- the pages take as many instances as there is room for, and those after the first at least one -/
structure Paging.Suits (p : Paging) (room : Frame ℚ) : Prop where
  top : p.top = room.top
  first : ∀ k : ℕ, k < p.first ↔ p.start + k * p.step ≤ room.limit
  later : ∀ k : ℕ, 0 < k → (k < p.later ↔ p.top + k * p.step ≤ room.limit)
  later_pos : 0 < p.later

theorem Frame.paging_suits {room : Frame ℚ} (declared : ℚ) {height : ℚ} (hstep : 0 < height + room.gap) :
    (room.paging declared height).Suits room where
  top := rfl
  first := Paging.lt_fit hstep
  later k hk := by
    refine Iff.trans ?_ (Paging.lt_fit hstep k)
    exact ⟨fun h => (lt_max_iff.1 h).resolve_left (Nat.not_lt.2 hk), fun h => lt_max_of_lt_right h⟩
  later_pos := lt_max_of_lt_left Nat.one_pos

namespace Paging

variable {p : Paging} {room : Frame ℚ}

theorem slot_of_lt {k : ℕ} (h : k < p.first) : p.slot k = ⟨firstPage, p.start + k * p.step⟩ := if_pos h

theorem slot_add (p : Paging) (j : ℕ) :
    p.slot (p.first + j) = ⟨firstPage + 1 + j / p.later, p.top + (j % p.later : ℕ) * p.step⟩ := by
  rw [slot, if_neg (Nat.not_lt.2 (Nat.le_add_right _ _)), Nat.add_sub_cancel_left]

/-- what comes after a slot: the place one step below it, or the top of the next page if that is past the limit -/
def next (p : Paging) (room : Frame ℚ) (s : Slot ℚ) : Slot ℚ :=
  if room.limit < s.y + p.step then ⟨s.page + 1, room.top⟩ else ⟨s.page, s.y + p.step⟩

theorem add_step (y step : ℚ) (k : ℕ) : y + k * step + step = y + (k + 1 : ℕ) * step := by
  push_cast
  ring

/-- **From slot to slot**: one step below, and a page break just where the quotients have it -/
theorem slot_succ (h : p.Suits room) (k : ℕ) : p.slot (k + 1) = p.next room (p.slot k) := by
  unfold next
  by_cases hfirst : k < p.first
  · rw [slot_of_lt hfirst, add_step]
    by_cases hsame : k + 1 < p.first
    · rw [slot_of_lt hsame, if_neg (not_lt.2 ((h.first _).1 hsame))]
    · -- the first page is full
      have hlast : k + 1 = p.first + 0 := by omega
      rw [if_pos (not_le.1 ((h.first _).not.1 hsame)), hlast, slot_add]
      simp only [Nat.zero_div, Nat.zero_mod, Nat.cast_zero, zero_mul, add_zero, h.top]
  · obtain ⟨j, rfl⟩ := Nat.exists_eq_add_of_le (Nat.not_lt.1 hfirst)
    rw [Nat.add_assoc, slot_add, slot_add, add_step]
    rcases succ_div_mod h.later_pos j with ⟨hroom, hdiv, hmod⟩ | ⟨hfull, hdiv, hmod⟩
    · rw [hdiv, hmod, if_neg (not_lt.2 ((h.later _ (Nat.succ_pos _)).1 hroom))]
    · have hpast : ¬ j % p.later + 1 < p.later := by omega
      rw [hdiv, hmod, if_pos (not_le.1 ((h.later _ (Nat.succ_pos _)).not.1 hpast)), Nat.cast_zero, zero_mul, add_zero,
        h.top]
      rfl

/-- the page of the last of so many instances is the number of their pages -/
theorem slot_page (h : p.Suits room) (n : ℕ) : (p.slot n).page = p.pages (n + 1) := by
  unfold pages
  by_cases hfirst : n < p.first
  · rw [slot_of_lt hfirst, if_pos (Nat.succ_le_of_lt hfirst)]
  · obtain ⟨j, rfl⟩ := Nat.exists_eq_add_of_le (Nat.not_lt.1 hfirst)
    rw [slot_add, if_neg (by omega), Nat.add_assoc p.first, Nat.add_sub_cancel_left, ceil_succ_div h.later_pos]
    exact Nat.add_right_comm _ _ _

/-- the first slot is where the first page starts, unless that is past the limit -/
theorem slot_zero (h : p.Suits room) :
    p.slot 0 = if room.limit < p.start then ⟨firstPage + 1, room.top⟩ else ⟨firstPage, p.start⟩ := by
  have hfirst := h.first 0
  rw [Nat.cast_zero, zero_mul, add_zero] at hfirst
  by_cases hpast : room.limit < p.start
  · have hnone : p.first = 0 := Nat.eq_zero_of_not_pos (hfirst.not.2 (not_le.2 hpast))
    have hslot := slot_add p 0
    simp only [hnone, Nat.zero_div, Nat.zero_mod, Nat.cast_zero, zero_mul, add_zero, h.top] at hslot
    rw [if_pos hpast]
    exact hslot
  · rw [slot_of_lt (hfirst.2 (not_lt.1 hpast)), if_neg hpast, Nat.cast_zero, zero_mul, add_zero]

end Paging

/-! ## The cursor -/

/-- the cursor is about to take a slot: it stands there, or a page break leads there -/
def Cursor.Before (room : Frame ℚ) (c : Cursor ℚ) (s : Slot ℚ) : Prop := c.ready room = ⟨s.page, s.y, false⟩

namespace Run

variable {p : Paging} {room : Frame ℚ} {height : ℚ} {c : Cursor ℚ}

theorem check_before (page : ℕ) (y : ℚ) :
    (Cursor.check room ⟨page, y, false⟩).Before room
      (if room.limit < y then ⟨page + 1, room.top⟩ else ⟨page, y⟩) := by
  unfold Cursor.Before Cursor.check
  by_cases hpast : room.limit < y
  · have hbelow : Length.below room.limit y = true := decide_eq_true hpast
    rw [if_pos hpast, if_pos hbelow]
    rfl
  · have hbelow : ¬ Length.below room.limit y = true := by simpa [Length.below] using hpast
    rw [if_neg hpast, if_neg hbelow]
    rfl

/-- after an instance the cursor is about to take the next slot -/
theorem advance_before (hstep : p.step = height + room.gap) (s : Slot ℚ) :
    ((⟨s.page, s.y, false⟩ : Cursor ℚ).advance room height).Before room (p.next room s) := by
  rw [Paging.next, hstep]
  exact check_before s.page _

/-- **A run** takes the slots one after the other -/
theorem slots_paging (hsuits : p.Suits room) (hstep : p.step = height + room.gap) (n : ℕ) {k : ℕ}
    (h : c.Before room (p.slot k)) :
    (slots room height n c).1 = (List.range' k n).map p.slot ∧
      (slots room height n c).2.Before room (p.slot (k + n)) := by
  induction n generalizing k c with
  | zero => exact ⟨rfl, h⟩
  | succ n ih =>
    have hnext : ((c.ready room).advance room height).Before room (p.slot (k + 1)) := by
      rw [h, Paging.slot_succ hsuits]
      exact advance_before hstep _
    obtain ⟨hslots, hlast⟩ := ih hnext
    rw [Nat.add_right_comm, Nat.add_assoc] at hlast
    refine ⟨?_, hlast⟩
    rw [List.range'_succ, List.map_cons, ← hslots]
    show (⟨(c.ready room).page, (c.ready room).y⟩ : Slot ℚ) :: _ = _
    rw [h]

/-- a run ends on the page of its last instance -/
theorem slots_page (hsuits : p.Suits room) (hstep : p.step = height + room.gap) (n : ℕ) {k : ℕ}
    (h : c.Before room (p.slot k)) : (slots room height (n + 1) c).2.page = (p.slot (k + n)).page := by
  rw [slots_append]
  show ((((slots room height n c).2.ready room).advance room height)).page = _
  rw [Cursor.advance_page, (slots_paging hsuits hstep n h).2]

/-- getting from the start of a document into a section -/
theorem enter_before (declared : ℚ) (hstep : 0 < height + room.gap) :
    ((⟨firstPage, room.top, false⟩ : Cursor ℚ).enter room declared).Before room
      ((room.paging declared height).slot 0) := by
  have hslot := Paging.slot_zero (room.paging_suits declared hstep)
  show Cursor.Before room (Cursor.check room ⟨firstPage, Length.larger room.top declared, false⟩) _
  rw [Length.larger_eq_max, hslot]
  exact check_before firstPage _

/-- **A run from the start of a document** stands where division puts it, and ends on the page that it counts -/
theorem place_paging (declared : ℚ) (hstep : 0 < height + room.gap) (n : ℕ) :
    (place room ⟨declared, height, n⟩ ⟨firstPage, room.top, false⟩).1 =
        (List.range n).map (room.paging declared height).slot ∧
      (place room ⟨declared, height, n⟩ ⟨firstPage, room.top, false⟩).2.page =
        (room.paging declared height).pages n := by
  have hsuits := room.paging_suits declared hstep
  cases n with
  | zero => exact ⟨rfl, rfl⟩
  | succ n =>
    have hbefore := enter_before declared hstep
    refine ⟨?_, ?_⟩
    · rw [List.range_eq_range']
      exact (slots_paging hsuits rfl (n + 1) hbefore).1
    · refine (slots_page hsuits rfl n hbefore).trans ?_
      rw [Nat.zero_add, Paging.slot_page hsuits]

end Run

end ReportPress
