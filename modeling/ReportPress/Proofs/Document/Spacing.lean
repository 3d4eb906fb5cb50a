import Mathlib.Data.Prod.Lex
import ReportPress.Proofs.Document.Paging
import ReportPress.Proofs.Flow.Spacing
/-!
That the instances of a document do not overlap. On exact numbers the cursor goes through the document in one direction,
down a page and from each page to the next; so whatever it leaves behind it ends before what comes later starts, by the
lexicographic order of pages and heights. On doubles the document's instances take the slots of the same runs, with the
sums rounded.

- `Run.placed`: several runs, each with its slots. `Run.Apart`: no two of their instances overlap, and none on the first
  page stands above the height that its section is declared at.
- `Cursor.Forward`: a part of the way of the cursor, with the instances that it leaves behind. Parts of the way are put
  together by `Forward.append`; `slots_forward` is a run, by induction on its instances, and `placed_forward` several
  runs. `placed_read`: doubles beside exact numbers.
- `render_apart`: a finished document.
-/

namespace ReportPress

open Binary64

/-! ## The way of the cursor -/

namespace Run

/-- several runs, each with its slots -/
def placed {α : Type} [Length α] (room : Frame α) : List (Run α) → Cursor α → List (Run α × List (Slot α))
  | [], _ => []
  | r :: rest, c => (r, (r.place room c).1) :: placed room rest (r.place room c).2

/-- the instances of runs in their slots, each with its height -/
def boxes (stood : List (Run ℚ × List (Slot ℚ))) : List (Slot ℚ × ℚ) :=
  stood.flatMap fun g => g.2.map (·, g.1.height)

/-- no two instances overlap, and none at the head of a run is above the height that the run is declared at, if it is on
the first page -/
structure Apart (gap : ℚ) (stood : List (Run ℚ × List (Slot ℚ))) : Prop where
  clear : (boxes stood).Pairwise fun p q => q.1.page = p.1.page → p.1.y + p.2 + gap ≤ q.1.y
  declared : ∀ g ∈ stood, ∀ s, g.2.head? = some s → s.page = firstPage → g.1.declared ≤ s.y

end Run

/-- how far along a document a slot is: pages one after the other, and each from the top down -/
def Slot.along (s : Slot ℚ) : ℕ ×ₗ ℚ := toLex (s.page, s.y)

/-- where an instance ends, and the gap behind it -/
def Slot.ending (gap : ℚ) (b : Slot ℚ × ℚ) : ℕ ×ₗ ℚ := toLex (b.1.page, b.1.y + (b.2 + gap))

namespace Cursor

variable {room : Frame ℚ} {c d e : Cursor ℚ}

def along (c : Cursor ℚ) : ℕ ×ₗ ℚ := toLex (c.page, c.y)

theorem along_check (c : Cursor ℚ) : (c.check room).along = c.along := by
  unfold along
  rw [check_page, check_y]

theorem along_le_enter (declared : ℚ) : c.along ≤ (c.enter room declared).along := by
  unfold enter
  split
  · rw [along_check, Length.larger_eq_max]
    exact Prod.Lex.toLex_le_toLex.2 (.inr ⟨rfl, le_max_left _ _⟩)
  · exact le_rfl

theorem along_le_ready : c.along ≤ (c.ready room).along := by
  unfold ready
  split
  · exact Prod.Lex.toLex_le_toLex.2 (.inl (Nat.lt_succ_self c.page))
  · exact le_rfl

theorem page_le_of_along_le (h : c.along ≤ d.along) : c.page ≤ d.page := by
  rcases Prod.Lex.toLex_le_toLex.1 h with hlater | ⟨hsame, -⟩
  · exact hlater.le
  · exact hsame.le

theorem along_advance (height : ℚ) : (c.advance room height).along = Slot.ending room.gap (⟨c.page, c.y⟩, height) :=
  along_check _

/-- the way of the cursor from `c` to `d`, and the instances that it puts on it: they stand between the two, each ends
before the next one starts, and all of them before `d` -/
structure Forward (gap : ℚ) (c : Cursor ℚ) (bs : List (Slot ℚ × ℚ)) (d : Cursor ℚ) : Prop where
  onward : c.along ≤ d.along
  ahead : ∀ b ∈ bs, c.along ≤ b.1.along
  passed : ∀ b ∈ bs, Slot.ending gap b ≤ d.along
  clear : bs.Pairwise fun p q => Slot.ending gap p ≤ q.1.along

namespace Forward

variable {gap : ℚ} {as bs : List (Slot ℚ × ℚ)}

theorem move (h : c.along ≤ d.along) : Forward gap c [] d :=
  ⟨h, fun _ hb => absurd hb List.not_mem_nil, fun _ hb => absurd hb List.not_mem_nil, .nil⟩

/-- two parts of the way, one after the other -/
theorem append (h : Forward gap c as d) (k : Forward gap d bs e) : Forward gap c (as ++ bs) e := by
  refine ⟨h.onward.trans k.onward, fun b hb => ?_, fun b hb => ?_, ?_⟩
  · rcases List.mem_append.1 hb with hb | hb
    · exact h.ahead b hb
    · exact h.onward.trans (k.ahead b hb)
  · rcases List.mem_append.1 hb with hb | hb
    · exact (h.passed b hb).trans k.onward
    · exact k.passed b hb
  · exact List.pairwise_append.2 ⟨h.clear, k.clear, fun p hp q hq => (h.passed p hp).trans (k.ahead q hq)⟩

/-- one instance, and a page break before it if there is one due -/
theorem box {height : ℚ} (hheight : 0 ≤ height) (hgap : 0 ≤ room.gap) :
    Forward room.gap c [(⟨(c.ready room).page, (c.ready room).y⟩, height)] ((c.ready room).advance room height) := by
  have hdown : (c.ready room).along ≤ ((c.ready room).advance room height).along := by
    rw [along_advance]
    exact Prod.Lex.toLex_le_toLex.2 (.inr ⟨rfl, le_add_of_nonneg_right (add_nonneg hheight hgap)⟩)
  refine ⟨along_le_ready.trans hdown, fun b hb => ?_, fun b hb => ?_, List.pairwise_singleton _ _⟩
  · rw [List.mem_singleton.1 hb]
    exact along_le_ready
  · rw [List.mem_singleton.1 hb, along_advance]

end Forward

end Cursor

/-! ## Runs -/

namespace Run

variable {room : Frame ℚ} {c : Cursor ℚ}

/-- **The slots of a run** lead the cursor forward -/
theorem slots_forward {height : ℚ} (hheight : 0 ≤ height) (hgap : 0 ≤ room.gap) (n : ℕ) (c : Cursor ℚ) :
    Cursor.Forward room.gap c ((slots room height n c).1.map (·, height)) (slots room height n c).2 := by
  induction n generalizing c with
  | zero => exact .move le_rfl
  | succ n ih => exact (Cursor.Forward.box hheight hgap).append (ih _)

/-- a whole run -/
theorem place_forward {r : Run ℚ} (hheight : 0 ≤ r.height) (hgap : 0 ≤ room.gap) (c : Cursor ℚ) :
    Cursor.Forward room.gap c ((r.place room c).1.map (·, r.height)) (r.place room c).2 := by
  have hentered : c.along ≤ (if r.count = 0 then c else c.enter room r.declared).along := by
    split
    · exact le_rfl
    · exact Cursor.along_le_enter _
  exact (Cursor.Forward.move hentered).append (slots_forward hheight hgap _ _)

/-- the first slot of a run, if it is on the first page, is not above the height that the run is declared at -/
theorem declared_le_head {r : Run ℚ} (hbegun : firstPage ≤ c.page) {s : Slot ℚ}
    (hs : (r.place room c).1.head? = some s) (hpage : s.page = firstPage) : r.declared ≤ s.y := by
  unfold place at hs
  cases hcount : r.count with
  | zero =>
    rw [hcount] at hs
    cases hs
  | succ n =>
    rw [hcount, if_neg (Nat.succ_ne_zero n)] at hs
    cases hs
    rw [Cursor.ready_enter_y hbegun hpage, Length.larger_eq_max]
    exact le_max_right _ _

/-- several runs lead the cursor forward -/
theorem placed_forward (hgap : 0 ≤ room.gap) (runs : List (Run ℚ)) (hheights : ∀ r ∈ runs, 0 ≤ r.height)
    (c : Cursor ℚ) : ∃ d, Cursor.Forward room.gap c (boxes (placed room runs c)) d := by
  induction runs generalizing c with
  | nil => exact ⟨c, .move le_rfl⟩
  | cons r rest ih =>
    obtain ⟨hhere, hrest⟩ := List.forall_mem_cons.1 hheights
    obtain ⟨d, hd⟩ := ih hrest (r.place room c).2
    refine ⟨d, ?_⟩
    rw [placed, boxes, List.flatMap_cons]
    exact (place_forward hhere hgap c).append hd

theorem declared_le_heads (hgap : 0 ≤ room.gap) (runs : List (Run ℚ)) (hheights : ∀ r ∈ runs, 0 ≤ r.height)
    (hbegun : firstPage ≤ c.page) :
    ∀ g ∈ placed room runs c, ∀ s, g.2.head? = some s → s.page = firstPage → g.1.declared ≤ s.y := by
  induction runs generalizing c with
  | nil => exact fun _ hg => absurd hg List.not_mem_nil
  | cons r rest ih =>
    obtain ⟨hhere, hrest⟩ := List.forall_mem_cons.1 hheights
    have honward := (place_forward hhere hgap c).onward
    refine List.forall_mem_cons.2 ⟨fun s hs => declared_le_head hbegun hs, ih hrest ?_⟩
    exact hbegun.trans (Cursor.page_le_of_along_le honward)

/-- **Several runs** on exact numbers do not overlap -/
theorem placed_apart (hgap : 0 ≤ room.gap) (runs : List (Run ℚ)) (hheights : ∀ r ∈ runs, 0 ≤ r.height)
    (hbegun : firstPage ≤ c.page) : Apart room.gap (placed room runs c) := by
  obtain ⟨d, hd⟩ := placed_forward hgap runs hheights c
  refine ⟨hd.clear.imp fun {p q} hclear hpage => ?_, declared_le_heads hgap runs hheights hbegun⟩
  rcases Prod.Lex.toLex_le_toLex.1 hclear with hlater | ⟨-, hbelow⟩
  · exact absurd hpage hlater.ne'
  · rwa [add_assoc]

end Run

/-! ## Documents -/

/-- a run on doubles and one on exact numbers, of as many instances -/
structure Run.Reads (r : Run Float) (exact : Run ℚ) : Prop where
  declared : toRat? r.declared = some exact.declared
  height : toRat? r.height = some exact.height
  count : r.count = exact.count

/-- **The slots of several runs** are those on exact numbers if no place one step below them is rounded -/
theorem Run.placed_read {room : Frame Float} {exact : Frame ℚ} (hroom : room.Reads exact) {runs : List (Run Float)}
    {exactly : List (Run ℚ)} (hruns : List.Forall₂ Run.Reads runs exactly)
    (hsteps : ∀ e ∈ exactly, IsValue (e.height + exact.gap)) {c : Cursor Float} {d : Cursor ℚ} (h : c.Reads d)
    (hplaces : ∀ b ∈ boxes (placed exact exactly d), IsValue (b.1.y + (b.2 + exact.gap))) :
    List.Forall₂ Slot.Reads ((placed room runs c).flatMap Prod.snd) ((placed exact exactly d).flatMap Prod.snd) := by
  induction hruns generalizing c d with
  | nil => exact .nil
  | @cons r e rest others hhere _ ih =>
    obtain ⟨declared, height, count⟩ := r
    obtain ⟨declared', height', count'⟩ := e
    obtain ⟨hdeclared, hheight, hcount⟩ := hhere
    obtain rfl : count = count' := hcount
    obtain ⟨hstep, hsteps⟩ := List.forall_mem_cons.1 hsteps
    rw [placed, boxes, List.flatMap_cons, List.forall_mem_append, List.forall_mem_map] at hplaces
    obtain ⟨hslots, hlast⟩ := place_read hroom hdeclared hheight hstep count h hplaces.1
    rw [placed, placed, List.flatMap_cons, List.flatMap_cons]
    exact List.rel_append hslots (ih hsteps hlast hplaces.2)

/-- the slot of a site -/
def Slot.ofSite (site : ℕ × Point) : Slot Float := ⟨site.1, site.2.y⟩

/-- outlines stand in the slots of their runs -/
theorem Outline.stand_slots (room : Frame Float) (outlines : List Outline) (c : Cursor Float) :
    (stand room outlines c).1.map Slot.ofSite = (Run.placed room (outlines.map run) c).flatMap Prod.snd := by
  induction outlines generalizing c with
  | nil => rfl
  | cons o rest ih =>
    have hhere : ((o.run.place room c).1.map (site o.position.x)).map Slot.ofSite = (o.run.place room c).1 := by
      rw [List.map_map]
      exact List.map_id _
    rw [stand, List.map_append, hhere, ih, List.map_cons, Run.placed, List.flatMap_cons]

/-- what is not below zero as a double is not by value -/
theorem nonneg_of_not_lt_zero {x : Float} {p : ℚ} (hx : toRat? x = some p) (h : ¬ x < 0.0) : 0 ≤ p := by
  have hzero : toRat? 0.0 = some 0 := by decide +kernel
  rwa [lt_iff_toRat hx hzero, not_lt] at h

/-- runs of no negative height are so by value -/
theorem Run.heights_nonneg {runs : List (Run Float)} {exactly : List (Run ℚ)}
    (h : List.Forall₂ Run.Reads runs exactly) (hheights : ∀ r ∈ runs, ¬ r.height < 0.0) :
    ∀ e ∈ exactly, 0 ≤ e.height := by
  induction h with
  | nil => exact fun _ he => absurd he List.not_mem_nil
  | cons hhere _ ih =>
    obtain ⟨hhead, hrest⟩ := List.forall_mem_cons.1 hheights
    exact List.forall_mem_cons.2 ⟨nonneg_of_not_lt_zero hhere.height hhead, ih hrest⟩

/-- the runs of sections have the heights of the sections -/
theorem Section.exists_of_mem_outlines {root : Value} {sections : List Section} {o : Outline}
    (h : o ∈ outlines root sections) : ∃ s ∈ sections, o = s.outline root := by
  obtain ⟨s, hs, rfl⟩ := List.mem_map.1 (List.mem_of_mem_filter h)
  exact ⟨s, List.mem_of_mem_filter hs, rfl⟩

/-- **The instances of a finished document** take the slots of the runs of its sections. With sections of no negative
height and no negative gap they do not overlap: on exact numbers, of two instances on one page the later one starts where
the earlier one ends, one gap further down, or below, whether they are of one section or of two; and the first instance
of each section, if it is on the first page, starts where its section is declared, or below. On doubles the slots are the
same if no place is rounded, and the instances do not overlap in any case, with the sums rounded. -/
theorem Renderer.render_apart {r : Renderer} {t : Template} {record : Value} {d : Rendered}
    (hdone : r.render t record = .done d) (hheight : ∀ s ∈ t.sections, ¬ s.dimensions.height < 0.0)
    (hgap : ¬ r.settings.layout.repeatGap < 0.0) :
    let runs := (Section.outlines record t.sortedSections).map Outline.run
    let stood := Run.placed (r.room t) runs ⟨firstPage, (r.room t).top, false⟩
    (flowingSites d.flow.placements).map Slot.ofSite = stood.flatMap Prod.snd ∧
    (∀ (exact : Frame ℚ) (exactly : List (Run ℚ)), (r.room t).Reads exact → List.Forall₂ Run.Reads runs exactly →
      let stoodExactly := Run.placed exact exactly ⟨firstPage, exact.top, false⟩
      Run.Apart exact.gap stoodExactly ∧
      ((∀ e ∈ exactly, IsValue (e.height + exact.gap)) →
        (∀ b ∈ Run.boxes stoodExactly, IsValue (b.1.y + (b.2 + exact.gap))) →
        List.Forall₂ Slot.Reads (stood.flatMap Prod.snd) (stoodExactly.flatMap Prod.snd))) ∧
    d.flow.Spread r.settings.layout.repeatGap record t.sortedSections := by
  refine ⟨?_, fun exact exactly hroom hruns => ⟨?_, ?_⟩, ?_⟩
  · obtain ⟨hsites, -⟩ := render_sites hdone
    rw [hsites, Outline.stand_slots]
    rfl
  · have hheights : ∀ e ∈ exactly, 0 ≤ e.height := by
      refine Run.heights_nonneg hruns fun run hrun => ?_
      obtain ⟨o, ho, rfl⟩ := List.mem_map.1 hrun
      obtain ⟨s, hs, rfl⟩ := Section.exists_of_mem_outlines ho
      exact hheight s ((Order.sort_perm _ _).mem_iff.1 hs)
    exact Run.placed_apart (nonneg_of_not_lt_zero hroom.gap hgap) exactly hheights le_rfl
  · exact fun hsteps => Run.placed_read hroom hruns hsteps ⟨rfl, hroom.top, rfl⟩
  · obtain ⟨w, hprepare, hlaid⟩ := render_done hdone
    obtain ⟨htemplate, hsettings, -, -, hpages, -⟩ := prepare_ready (newCanvas_family t) hprepare
    rw [← htemplate] at hheight ⊢
    rw [← hsettings] at hgap ⊢
    exact layOut_apart d.job record w d.flow hpages hheight hgap hlaid

namespace Sample

/-- the rows by value: declared at 60, each 90 high -/
def exactRows : List (Run ℚ) := [⟨60, 90, 3⟩]

theorem exactRows_reads :
    List.Forall₂ Run.Reads ((Section.outlines root list.sortedSections).map Outline.run) exactRows := by
  have hrow : (rows.outline root).run.Reads ⟨60, 90, 3⟩ := by
    constructor <;> decide +kernel
  exact .cons hrow .nil

end Sample

/-- the first two rows are on one page, where they are declared and one step below, with a height of 90 and a gap of 10
in between -/
theorem render_apart_sample :
    (∀ s ∈ Sample.list.sections, ¬ s.dimensions.height < 0.0) ∧ ¬ Sample.bare.settings.layout.repeatGap < 0.0 ∧
      let stood := Run.placed Sample.millimetres Sample.exactRows ⟨firstPage, 15, false⟩
      Run.Apart 10 stood ∧
      (Run.boxes stood).map (fun b => (b.1.page, b.1.y, b.2)) = [(1, 60, 90), (1, 160, 90), (2, 15, 90)] ∧
      ∃ d, Sample.bare.render Sample.list Sample.root = .done d ∧
        d.flow.Spread Sample.bare.settings.layout.repeatGap Sample.root Sample.list.sortedSections := by
  obtain ⟨d, hd, -⟩ :=
    Sample.done_of_pages (o := Sample.bare.render Sample.list Sample.root) (n := 2) (by decide +kernel)
  have hheight : ∀ s ∈ Sample.list.sections, ¬ s.dimensions.height < 0.0 := by decide +kernel
  have hgap : ¬ Sample.bare.settings.layout.repeatGap < 0.0 := by decide +kernel
  obtain ⟨-, hexact, hspread⟩ := Renderer.render_apart hd hheight hgap
  obtain ⟨hapart, -⟩ := hexact _ _ Sample.millimetres_reads Sample.exactRows_reads
  exact ⟨hheight, hgap, hapart, by decide +kernel, d, hd, hspread⟩

end ReportPress
