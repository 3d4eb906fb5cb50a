import ReportPress.Proofs.Document.Completion
import ReportPress.Proofs.Flow.Outline
/-!
What moves a flowing instance: the size of the page, its margins, the settings of the layout, and the outlines of the
repeated sections in the order in which they are visited. Two documents that agree in these agree in where instances
flow and in how many pages there are, whatever else is painted, and whether or not it can be.

- `Section.shell`: what placement reads of a section. `Template.shells_sortedSections`: the shells of the repeated
  sections in visiting order, from those in the order they are declared.
- `render_sites`: a finished document has its flowing instances where the outlines stand.
- `render_flow_alike`: two finished documents side by side.
-/

namespace ReportPress

namespace Section

/-- a section without what placement does not read. Of a section that repeats, what is left is where it is declared, how
high it is, and what decides how many instances it has; of another one, the height it is declared at. -/
def shell (s : Section) : Section :=
  if s.isRepeatable then
    { id := "", name := "", kind := .content, position := s.position, dimensions := ⟨0.0, s.dimensions.height⟩
      dataBinding := s.dataBinding, isRepeatable := true, conditions := s.conditions }
  else { id := "", name := "", kind := .content, position := ⟨0.0, s.position.y⟩, dimensions := ⟨0.0, 0.0⟩ }

theorem shell_y (s : Section) : s.shell.position.y = s.position.y := by
  unfold shell
  split <;> rfl

theorem shell_isRepeatable (s : Section) : s.shell.isRepeatable = s.isRepeatable := by
  unfold shell
  cases h : s.isRepeatable <;> rfl

theorem shell_above (s u : Section) : s.shell.above u.shell = s.above u := by
  unfold above
  rw [shell_y, shell_y]

theorem shell_outline {s : Section} (root : Value) (h : s.isRepeatable = true) : s.shell.outline root = s.outline root := by
  have hinstances : s.shell.instances root = s.instances root := by
    unfold shell instances
    rw [h]
    rfl
  unfold outline
  rw [hinstances, shell, if_pos h]

/-- the shells of the sections that repeat, in the order of the sections -/
def shells (sections : List Section) : List Section := (sections.filter (·.isRepeatable)).map shell

theorem outlines_shells (root : Value) (sections : List Section) :
    outlines root sections = ((shells sections).map (·.outline root)).filter (·.count ≠ 0) := by
  unfold outlines shells
  rw [List.map_map]
  congr 1
  apply List.map_congr_left
  intro s hs
  exact (shell_outline root (List.of_mem_filter hs)).symm

/-- the shells of the sections that repeat, from the shells of all sections -/
theorem shells_eq_filter (sections : List Section) : shells sections = (sections.map shell).filter (·.isRepeatable) := by
  have hkept : (fun s : Section => s.isRepeatable) ∘ shell = fun s => s.isRepeatable := funext shell_isRepeatable
  rw [List.filter_map, hkept, shells]

/-- leaving out the sections that do not repeat, and all but the shells of the others, keeps sorted sections sorted -/
theorem shells_sorted {xs ys : List Section} {p : Section → Prop} (h : Order.Sorted above p xs ys) :
    Order.Sorted above (fun b => ∃ a, p a ∧ shell a = b) (shells xs) (shells ys) :=
  (h.filter (·.isRepeatable)).map shell_above

end Section

/-- the shells of all sections in visiting order are the shells, sorted -/
theorem Template.map_shell_sortedSections (t : Template) :
    t.sortedSections.map Section.shell = Order.sort Section.above (t.sections.map Section.shell) :=
  (Order.sort_map Section.shell_above t.sections).symm

/-- the shells in visiting order depend on the shells in the order they are declared alone -/
theorem Template.shells_sortedSections {t t' : Template}
    (hy : ∀ s ∈ t.sections ++ t'.sections, s.position.y.isNaN = false)
    (hsame : Section.shells t.sections = Section.shells t'.sections) :
    Section.shells t.sortedSections = Section.shells t'.sortedSections := by
  have hsorted : Order.Sorted Section.above _ _ _ := Section.shells_sorted
    (Order.sort_sorted above_isWeak t.sections fun s hs => hy s (List.mem_append_left _ hs))
  have hsorted' : Order.Sorted Section.above _ _ _ := Section.shells_sorted
    (Order.sort_sorted above_isWeak t'.sections fun s hs => hy s (List.mem_append_right _ hs))
  rw [← hsame] at hsorted'
  have hweak : Order.IsWeakOn Section.above fun b => ∃ a : Section, a.position.y.isNaN = false ∧ a.shell = b := by
    apply above_isWeak.mono
    rintro b ⟨a, ha, rfl⟩
    rw [Section.shell_y]
    exact ha
  refine hsorted.unique hweak ?_ hsorted'
  intro b hb
  obtain ⟨a, ha, rfl⟩ := List.mem_map.1 hb
  exact ⟨a, hy a (List.mem_append_left _ (List.mem_of_mem_filter ha)), rfl⟩

/-- two documents have as many pages, and their flowing instances at the same places -/
structure Rendered.FlowsAs (d d' : Rendered) : Prop where
  pages : d.pages = d'.pages
  sites : flowingSites d.flow.placements = flowingSites d'.flow.placements

namespace Renderer

/-- the room for flowing instances on each page of a document -/
def room (r : Renderer) (t : Template) : Frame Float :=
  ⟨t.config.margins.top, (newCanvas t).height - t.config.margins.bottom - r.settings.layout.footerReserve,
    r.settings.layout.repeatGap⟩

/-- **A finished document** has its flowing instances where the outlines of its sections stand, and ends on the page on
which they end -/
theorem render_sites {r : Renderer} {t : Template} {record : Value} {d : Rendered}
    (h : r.render t record = .done d) :
    let stood := Outline.stand (r.room t) (Section.outlines record t.sortedSections)
      ⟨firstPage, t.config.margins.top, false⟩
    flowingSites d.flow.placements = stood.1 ∧ d.pages = stood.2.page := by
  obtain ⟨w, hprepare, hlaid⟩ := render_done h
  obtain ⟨htemplate, hsettings, -, -, hpages, -⟩ := prepare_ready (newCanvas_family t) hprepare
  have hheight : w.canvas.height = (newCanvas t).height := prepare_height (newCanvas_family t) hprepare
  have hroom : Flow.frame d.job w.canvas = r.room t := by
    unfold Flow.frame room Job.usableBottom
    rw [htemplate, hsettings, hheight]
  have hfirst : w.canvas.pages = firstPage := hpages
  have hsites := layOut_sites hlaid
  rw [hroom, htemplate, hfirst] at hsites
  exact hsites

/-- the room does not depend on what is painted -/
theorem room_congr {r r' : Renderer} {t t' : Template} (hlayout : r.settings.layout = r'.settings.layout)
    (hsize : t.config.pageSize = t'.config.pageSize) (hheld : t.config.orientation = t'.config.orientation)
    (hmargins : t.config.margins = t'.config.margins) : r.room t = r'.room t' := by
  have hheight : (newCanvas t).height = (newCanvas t').height := by
    show (Canvas.new t.config.orientation t.config.pageSize).height =
      (Canvas.new t'.config.orientation t'.config.pageSize).height
    rw [hsize, hheld]
  unfold room
  rw [hlayout, hmargins, hheight]

/-- **Where instances flow depends on the outlines alone.** Two finished documents on pages of one size, with the same
margins and the same settings of the layout, flow alike if the repeated sections that have instances, in the order in
which they are visited, have the same outlines. In particular this is so for one record and templates whose sections
differ at most in what is painted, or do not repeat and are declared at the same height; and if all sections are declared
at heights that are numbers, those that do not repeat play no part at all. -/
theorem render_flow_alike {r r' : Renderer} {t t' : Template} {record record' : Value} {d d' : Rendered}
    (hlayout : r.settings.layout = r'.settings.layout) (hsize : t.config.pageSize = t'.config.pageSize)
    (hheld : t.config.orientation = t'.config.orientation) (hmargins : t.config.margins = t'.config.margins)
    (h : r.render t record = .done d) (h' : r'.render t' record' = .done d') :
    (Section.outlines record t.sortedSections = Section.outlines record' t'.sortedSections → d.FlowsAs d') ∧
    (record = record' → t.sections.map Section.shell = t'.sections.map Section.shell → d.FlowsAs d') ∧
    (record = record' → (∀ s ∈ t.sections ++ t'.sections, s.position.y.isNaN = false) →
      Section.shells t.sections = Section.shells t'.sections → d.FlowsAs d') := by
  obtain ⟨hsites, hpages⟩ := render_sites h
  obtain ⟨hsites', hpages'⟩ := render_sites h'
  have hroom := room_congr hlayout hsize hheld hmargins
  have houtlines : Section.outlines record t.sortedSections = Section.outlines record' t'.sortedSections →
      d.FlowsAs d' := by
    intro heq
    refine ⟨?_, ?_⟩
    · rw [hpages, hpages', hroom, heq, hmargins]
    · rw [hsites, hsites', hroom, heq, hmargins]
  have hshells : record = record' → Section.shells t.sortedSections = Section.shells t'.sortedSections →
      d.FlowsAs d' := by
    rintro rfl heq
    apply houtlines
    rw [Section.outlines_shells, Section.outlines_shells, heq]
  refine ⟨houtlines, ?_, ?_⟩
  · intro hrecord hmap
    apply hshells hrecord
    rw [Section.shells_eq_filter, Section.shells_eq_filter, Template.map_shell_sortedSections,
      Template.map_shell_sortedSections, hmap]
  · intro hrecord hy hsame
    exact hshells hrecord (Template.shells_sortedSections hy hsame)

end Renderer

namespace Sample

/-- the rows, with an image that cannot be painted instead of a box, under a heading -/
def annotated : Template :=
  { id := "annotated", displayName := "Annotated", config := {}
    sections :=
      [heading, { rows with name := "Cards", components := [{ id := "photo", kind := .image, content := .int 7 }] }] }

end Sample

/-- a heading, and images that there are not, leave the rows where they are on two pages -/
theorem render_flow_alike_sample :
    ∃ d d', Sample.bare.render Sample.list Sample.root = .done d ∧
      Sample.bare.render Sample.annotated Sample.root = .done d' ∧ d.pages = 2 ∧ d'.pages = 2 ∧
      flowingSites d.flow.placements = flowingSites d'.flow.placements := by
  obtain ⟨d, hd, hpages⟩ :=
    Sample.done_of_pages (o := Sample.bare.render Sample.list Sample.root) (n := 2) (by decide +kernel)
  obtain ⟨d', hd', hpages'⟩ :=
    Sample.done_of_pages (o := Sample.bare.render Sample.annotated Sample.root) (n := 2) (by decide +kernel)
  have hconfig : Sample.list.config = Sample.annotated.config := rfl
  have halike := Renderer.render_flow_alike rfl (congrArg PageConfig.pageSize hconfig)
    (congrArg PageConfig.orientation hconfig) (congrArg PageConfig.margins hconfig) hd hd'
  exact ⟨d, d', hd, hd', hpages, hpages', (halike.2.2 rfl (by decide +kernel) rfl).sites⟩

namespace Sample

/-- a section that repeats over the rows, with nothing to paint -/
def strip (id : String) (y height : Float) : Section :=
  { id := id, name := id, kind := .content, position := ⟨10.0, y⟩, dimensions := ⟨100.0, height⟩
    dataBinding := "rows", isRepeatable := true }

/-- a section that does not repeat, declared at a height that is no number -/
def adrift : Section :=
  { id := "adrift", name := "Adrift", kind := .content, position := ⟨10.0, 0.0 / 0.0⟩, dimensions := ⟨100.0, 10.0⟩ }

def strips (sections : List Section) : Template :=
  { id := "strips", displayName := "Strips", config := {}, sections := sections }

/-- two strips, the upper one declared last -/
def ordered : Template := strips [strip "low" 200.0 60.0, strip "high" 20.0 20.0]

/-- the two strips with a section between them that is declared at no height -/
def unordered : Template := strips [strip "low" 200.0 60.0, adrift, strip "high" 20.0 20.0]

def oneRow : Value := .object .record [("rows", .list .record [.null])]

end Sample

/-- a section that does not repeat adds a page if the height it is declared at is no number: beside such a section no
other one counts as higher or lower, so the sections ahead of it and behind it are no longer put in order -/
theorem adrift_adds_page :
    Section.shells Sample.ordered.sections = Section.shells Sample.unordered.sections ∧
      ∃ d d', Sample.bare.render Sample.ordered Sample.oneRow = .done d ∧
        Sample.bare.render Sample.unordered Sample.oneRow = .done d' ∧ d.pages = 1 ∧ d'.pages = 2 := by
  obtain ⟨d, hd, hpages⟩ :=
    Sample.done_of_pages (o := Sample.bare.render Sample.ordered Sample.oneRow) (n := 1) (by decide +kernel)
  obtain ⟨d', hd', hpages'⟩ :=
    Sample.done_of_pages (o := Sample.bare.render Sample.unordered Sample.oneRow) (n := 2) (by decide +kernel)
  exact ⟨rfl, d, d', hd, hd', hpages, hpages'⟩

end ReportPress
