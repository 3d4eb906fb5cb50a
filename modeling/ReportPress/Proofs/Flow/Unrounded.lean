import ReportPress.Proofs.Flow.Paging
import ReportPress.Proofs.Number.Sum
/-!
A run on doubles beside the same run on exact numbers. The cursor adds and compares, and comparing doubles is comparing
their values; so as long as no place that it comes to is rounded, the two cursors go side by side, and the slots of the
one are those of the other.

- `Cursor.Reads`: the cursors side by side. It is kept by entering a section, by page breaks and by instances.
- `slots_read`: by induction, the slots of a run. `place_read`: a whole run.
-/

namespace ReportPress

open Binary64

/-- the lengths of a frame by value -/
structure Frame.Reads (room : Frame Float) (exact : Frame ℚ) : Prop where
  top : toRat? room.top = some exact.top
  limit : toRat? room.limit = some exact.limit
  gap : toRat? room.gap = some exact.gap

/-- a cursor on doubles and one on exact numbers at the same place -/
structure Cursor.Reads (c : Cursor Float) (d : Cursor ℚ) : Prop where
  page : c.page = d.page
  y : toRat? c.y = some d.y
  waiting : c.waiting = d.waiting

/-- a slot on doubles and one on exact numbers at the same place -/
structure Slot.Reads (s : Slot Float) (t : Slot ℚ) : Prop where
  page : s.page = t.page
  y : toRat? s.y = some t.y

/-- lists of slots side by side, at one index -/
theorem Slot.Reads.at_index {slots : List (Slot Float)} {slot : ℕ → Slot ℚ} {n k : ℕ}
    (h : List.Forall₂ Slot.Reads slots ((List.range n).map slot)) (hk : k < n) :
    ∃ s, slots[k]? = some s ∧ s.Reads (slot k) := by
  have hlength : slots.length = n := by rw [h.length_eq, List.length_map, List.length_range]
  have hk' : k < slots.length := hlength.symm ▸ hk
  refine ⟨slots[k], List.getElem?_eq_getElem hk', ?_⟩
  have hreads := h.get hk' (by rwa [List.length_map, List.length_range])
  simpa using hreads

/-- comparing doubles is comparing their values -/
theorem Length.below_reads {x y : Float} {p q : ℚ} (hx : toRat? x = some p) (hy : toRat? y = some q) :
    Length.below x y = Length.below p q :=
  decide_eq_decide.2 (lt_iff_toRat hx hy)

theorem Length.larger_reads {x y : Float} {p q : ℚ} (hx : toRat? x = some p) (hy : toRat? y = some q) :
    toRat? (Length.larger x y) = some (Length.larger p q) := by
  unfold Length.larger
  rw [Length.below_reads hx hy]
  split
  · exact hy
  · exact hx

namespace Cursor.Reads

variable {room : Frame Float} {exact : Frame ℚ} {c : Cursor Float} {d : Cursor ℚ}

theorem check (hroom : room.Reads exact) (h : c.Reads d) : (c.check room).Reads (d.check exact) := by
  unfold Cursor.check
  rw [Length.below_reads hroom.limit h.y]
  split
  · exact ⟨h.page, h.y, rfl⟩
  · exact h

theorem enter (hroom : room.Reads exact) (h : c.Reads d) {declared : Float} {declared' : ℚ}
    (hdeclared : toRat? declared = some declared') : (c.enter room declared).Reads (d.enter exact declared') := by
  have hfirst : (!c.waiting && c.page == firstPage) = (!d.waiting && d.page == firstPage) := by
    rw [h.page, h.waiting]
  unfold Cursor.enter
  rw [hfirst]
  split
  · exact check hroom ⟨h.page, Length.larger_reads h.y hdeclared, h.waiting⟩
  · exact h

theorem ready (hroom : room.Reads exact) (h : c.Reads d) : (c.ready room).Reads (d.ready exact) := by
  unfold Cursor.ready
  rw [h.waiting, h.page]
  split
  · exact ⟨rfl, hroom.top, rfl⟩
  · exact h

/-- an instance leads both cursors to the same place if the place is not rounded -/
theorem advance (hroom : room.Reads exact) (h : c.Reads d) {height : Float} {height' : ℚ}
    (hstep : toRat? (height + room.gap) = some (height' + exact.gap)) (hplace : IsValue (d.y + (height' + exact.gap))) :
    (c.advance room height).Reads (d.advance exact height') :=
  check hroom ⟨h.page, toRat?_add_of_isValue h.y hstep hplace, h.waiting⟩

end Cursor.Reads

namespace Run

variable {room : Frame Float} {exact : Frame ℚ} {c : Cursor Float} {d : Cursor ℚ} {height : Float} {height' : ℚ}

/-- **The slots of a run** are those on exact numbers if no place one step below them is rounded -/
theorem slots_read (hroom : room.Reads exact) (hstep : toRat? (height + room.gap) = some (height' + exact.gap)) (n : ℕ)
    (h : c.Reads d) (hplaces : ∀ t ∈ (slots exact height' n d).1, IsValue (t.y + (height' + exact.gap))) :
    List.Forall₂ Slot.Reads (slots room height n c).1 (slots exact height' n d).1 ∧
      (slots room height n c).2.Reads (slots exact height' n d).2 := by
  induction n generalizing c d with
  | zero => exact ⟨.nil, h⟩
  | succ n ih =>
    have hready := h.ready hroom
    obtain ⟨hhere, hothers⟩ := List.forall_mem_cons.1 hplaces
    obtain ⟨hslots, hlast⟩ := ih (hready.advance hroom hstep hhere) hothers
    exact ⟨.cons ⟨hready.page, hready.y⟩ hslots, hlast⟩

/-- **A whole run**, from the start of a document -/
theorem place_read {declared : Float} {declared' : ℚ} (hroom : room.Reads exact)
    (hdeclared : toRat? declared = some declared') (hheight : toRat? height = some height')
    (hstep : IsValue (height' + exact.gap)) (n : ℕ) (h : c.Reads d)
    (hplaces : ∀ t ∈ (place exact ⟨declared', height', n⟩ d).1, IsValue (t.y + (height' + exact.gap))) :
    List.Forall₂ Slot.Reads (place room ⟨declared, height, n⟩ c).1 (place exact ⟨declared', height', n⟩ d).1 ∧
      (place room ⟨declared, height, n⟩ c).2.Reads (place exact ⟨declared', height', n⟩ d).2 := by
  refine slots_read hroom (toRat?_add_of_isValue hheight hroom.gap hstep) n ?_ hplaces
  dsimp only
  split
  · exact h
  · exact h.enter hroom hdeclared

end Run

end ReportPress
