import ReportPress.Proofs.Document.Geometry
import ReportPress.Proofs.Flow.Unrounded
/-!
The pages of a document with one repeated section, by division. Its instances have all the room to themselves, so a
finished document stands as one run does: on exact numbers the page of an instance is a quotient and its place there a
remainder, and so it is on doubles wherever no place is rounded.

- `outlines_of_single`: the one outline that counts. `stand_single`: what it stands for.
- `render_paging`: a finished document.
-/

namespace ReportPress

open Binary64

/-- a section that repeats and has instances, the only one to repeat, is the only one to flow -/
theorem Section.outlines_of_single {t : Template} {s : Section} (record : Value)
    (h : t.sections.filter (·.isRepeatable) = [s]) :
    Section.outlines record t.sortedSections = [s.outline record].filter (·.count ≠ 0) := by
  have hperm : (t.sortedSections.filter (·.isRepeatable)).Perm [s] := by
    rw [← h]
    exact (Order.sort_perm _ t.sections).filter _
  unfold Section.outlines
  rw [List.perm_singleton.1 hperm]
  rfl

/-- an outline by itself stands for its run; without an instance it stands for nothing -/
theorem Outline.stand_single (room : Frame Float) (o : Outline) (c : Cursor Float) :
    Outline.stand room ([o].filter (·.count ≠ 0)) c =
      ((o.run.place room c).1.map (Outline.site o.position.x), (o.run.place room c).2) := by
  by_cases hcount : o.count = 0
  · have hplace : o.run.place room c = ([], c) := by
      unfold Run.place Outline.run
      dsimp only
      rw [hcount]
      rfl
    rw [List.filter_cons_of_neg (by simpa using hcount), hplace]
    rfl
  · rw [List.filter_cons_of_pos (by simpa using hcount)]
    show ((o.run.place room c).1.map _ ++ [], _) = _
    rw [List.append_nil]
    rfl

namespace Renderer

/-- **A finished document with one repeated section** stands as the run of its instances does. On exact numbers the run
is told by division: the first page takes the instances that start at the limit or above, each page after it takes those
but one at least, and so the page of an instance is a quotient and its place there a remainder. On doubles it is the
same run, with the same places and the same pages if none of the places is rounded. -/
theorem render_paging {r : Renderer} {t : Template} {record : Value} {d : Rendered} {s : Section} {exact : Frame ℚ}
    {declared height : ℚ} (hdone : r.render t record = .done d) (hone : t.sections.filter (·.isRepeatable) = [s])
    (hroom : (r.room t).Reads exact) (hdeclared : toRat? s.position.y = some declared)
    (hheight : toRat? s.dimensions.height = some height) (hstep : 0 < height + exact.gap) :
    let n := (s.instances record).length
    let p := exact.paging declared height
    let stood := (s.outline record).run.place (r.room t) ⟨firstPage, (r.room t).top, false⟩
    let exactly := Run.place exact ⟨declared, height, n⟩ ⟨firstPage, exact.top, false⟩
    ((p.first : ℤ) = if p.start ≤ exact.limit then ⌊(exact.limit - p.start) / p.step⌋ + 1 else 0) ∧
    (p.later : ℤ) = max 1 (⌊(exact.limit - exact.top) / p.step⌋ + 1) ∧
    (exactly.1 = (List.range n).map p.slot ∧ exactly.2.page = p.pages n) ∧
    (flowingSites d.flow.placements = stood.1.map (Outline.site s.position.x) ∧ d.pages = stood.2.page) ∧
    (IsValue p.step → (∀ k < n, IsValue ((p.slot k).y + p.step)) →
      (flowingSites d.flow.placements).length = n ∧ d.pages = p.pages n ∧
      ∀ k < n, ∃ y, (flowingSites d.flow.placements)[k]? = some ((p.slot k).page, ⟨s.position.x, y⟩) ∧
        toRat? y = some (p.slot k).y) := by
  intro n p stood exactly
  have hexact : exactly.1 = (List.range n).map p.slot ∧ exactly.2.page = p.pages n :=
    Run.place_paging declared hstep n
  obtain ⟨hsites, hpages⟩ := render_sites hdone
  rw [Section.outlines_of_single record hone, Outline.stand_single] at hsites hpages
  refine ⟨Paging.fit_eq_floor hstep _, Paging.max_fit_eq_floor hstep _, hexact, ⟨hsites, hpages⟩, ?_⟩
  intro hwhole hplaces
  have hread : List.Forall₂ Slot.Reads stood.1 exactly.1 ∧ stood.2.Reads exactly.2 := by
    refine Run.place_read hroom hdeclared hheight hwhole n ⟨rfl, hroom.top, rfl⟩ ?_
    intro slot hslot
    rw [hexact.1] at hslot
    obtain ⟨k, hk, rfl⟩ := List.mem_map.1 hslot
    exact hplaces k (List.mem_range.1 hk)
  rw [hexact.1] at hread
  have hlength : stood.1.length = n := by
    rw [hread.1.length_eq, List.length_map, List.length_range]
  refine ⟨?_, ?_, ?_⟩
  · rw [hsites, List.length_map]
    exact hlength
  · rw [hpages, ← hexact.2]
    exact hread.2.page
  · intro k hk
    obtain ⟨slot, hslot, hreads⟩ := Slot.Reads.at_index hread.1 hk
    refine ⟨slot.y, ?_, hreads.y⟩
    rw [hsites, List.getElem?_map]
    show (stood.1[k]?).map _ = _
    rw [hslot, ← hreads.page]
    rfl

end Renderer

namespace Sample

/-- the room of the list, in millimetres; the height of the page is measured in points, so the limit is not quite 252 -/
def millimetres : Frame ℚ := ⟨15, 4433232349208335 / 17592186044416, 10⟩

theorem millimetres_reads : (bare.room list).Reads millimetres := by
  constructor <;> decide +kernel

end Sample

/-- two of three rows on the first page, the last one at the top of the second -/
theorem render_paging_sample :
    ∃ d, Sample.bare.render Sample.list Sample.root = .done d ∧ (Sample.millimetres.paging 60 90).first = 2 ∧
      (flowingSites d.flow.placements).length = 3 ∧ d.pages = 2 ∧
      ∃ y, (flowingSites d.flow.placements)[2]? = some (2, ⟨10.0, y⟩) ∧ toRat? y = some 15 := by
  obtain ⟨d, hd, -⟩ :=
    Sample.done_of_pages (o := Sample.bare.render Sample.list Sample.root) (n := 2) (by decide +kernel)
  have hcount : (Sample.rows.instances Sample.root).length = 3 := by decide +kernel
  have hplaces : ∀ k < 3, IsValue (((Sample.millimetres.paging 60 90).slot k).y + (90 + 10)) := by
    intro k hk
    obtain rfl | rfl | rfl : k = 0 ∨ k = 1 ∨ k = 2 := by omega
    · exact ⟨160.0, by decide +kernel⟩
    · exact ⟨260.0, by decide +kernel⟩
    · exact ⟨115.0, by decide +kernel⟩
  have hdeclared : toRat? Sample.rows.position.y = some 60 := by decide +kernel
  have hheight : toRat? Sample.rows.dimensions.height = some 90 := by decide +kernel
  obtain ⟨-, -, -, -, hunrounded⟩ :=
    Renderer.render_paging hd rfl Sample.millimetres_reads hdeclared hheight (by decide +kernel)
  rw [hcount] at hunrounded
  obtain ⟨hlength, hpages, hsites⟩ := hunrounded ⟨100.0, by decide +kernel⟩ hplaces
  refine ⟨d, hd, by decide +kernel, hlength, hpages.trans (by decide +kernel), ?_⟩
  obtain ⟨y, hsite, hy⟩ := hsites 2 (by decide)
  have hpage : ((Sample.millimetres.paging 60 90).slot 2).page = 2 := by decide +kernel
  have htop : ((Sample.millimetres.paging 60 90).slot 2).y = 15 := by decide +kernel
  rw [hpage] at hsite
  rw [htop] at hy
  exact ⟨y, hsite, hy⟩

end ReportPress
