import ReportPress.Proofs.Number.Sum
import ReportPress.Proofs.Paint.Lines
import ReportPress.Proofs.Paint.Rows
import ReportPress.Proofs.Text.Fit
/-!
Texts in the cells of tables. A cell keeps a margin free on either side of its text, but leaves it a millimetre at
least; a text that is wider than that is cut. What is measured is the text in the font at hand, one font for the header
of a table and another for the rows below it. Both are chosen before a cell is put down and stay at hand meanwhile, so
all cells that a table leaves have texts that fit, also if painting it fails half-way.

- `agrees_fit`: on the surface, cutting to fit gives what it gives for the widths in the font at hand.
- `gauge_fit_le`: a text that was cut to the room of a cell is at most as wide as the room. `FittedCell`: such a cell.
- `Fills`: painting that keeps the font at hand and puts down such cells only. `fills_paintCells`, `fills_paintRows`: by
  induction on the cells of a row, and on the items.
- `headerStyle_font`: the font of a header. `LeavesFitted`, `leavesFitted_paintTable`: a whole table.
-/

namespace ReportPress

/-! ## Widths in the font at hand -/

namespace Canvas

theorem gauge_nil (c : Canvas) : c.gauge [] = 0.0 := by
  unfold gauge textWidth
  rcases c.checkText_spec [] with ⟨-, hok⟩ | ⟨hmissing, -⟩
  · rw [hok]
    rfl
  · exact absurd c.shows_nil hmissing

theorem gauge_of_textWidth {c : Canvas} {cs : List Char} {x : Float} (h : c.textWidth cs = .ok x) : c.gauge cs = x := by
  unfold gauge
  rw [h]

namespace SameFont

variable {c d : Canvas}

theorem textWidth (h : SameFont c d) (cs : List Char) : d.textWidth cs = c.textWidth cs :=
  textWidth_congr h.fonts h.face h.fontSize cs

theorem gauge (h : SameFont c d) : d.gauge = c.gauge := by
  funext cs
  unfold Canvas.gauge
  rw [h.textWidth]

end SameFont

end Canvas

namespace Text

variable {w : Work} {limit : Float}

theorem agrees_trimToFit (reversed : List Char) :
    Agrees w (trimToFit Painting.measure limit reversed) (trimToFit (m := Id) w.canvas.gauge limit reversed) := by
  induction reversed with
  | nil => exact .pure _
  | cons c rest ih =>
    unfold trimToFit
    exact (Agrees.measure _).bind (.ite ih (.pure _))

theorem agrees_fit (text : List Char) :
    Agrees w (fit Painting.measure limit text) (Id.run (fit w.canvas.gauge limit text)) := by
  unfold fit
  exact (Agrees.measure _).bind (.ite (.pure _) (agrees_trimToFit _))

end Text

namespace Paint

open Painting

/-! ## Cells whose texts fit -/

/-- the room for text in a cell of a width -/
def cellRoom (width : Float) : Float := Length.larger (width - 2.0 * Canvas.cellMargin) 1.0

/-- a cell of one of the widths, with a text that is at most as wide in the font as the cell has room, if these are
numbers -/
def FittedCell (font : Canvas) (widths : List Float) (call : Call) : Prop :=
  ∃ width height text fill measured, call = .cell width height text fill ∧ width ∈ widths ∧
    font.textWidth text.toList = .ok measured ∧
    ((cellRoom width).isNaN = false → measured.isNaN = false → measured ≤ cellRoom width)

/-- there is always room for an empty text -/
theorem not_cellRoom_lt_zero (width : Float) : ¬ cellRoom width < 0.0 := by
  have hone : ¬ (1.0 : Float) < 0.0 := by decide +kernel
  unfold cellRoom Length.larger
  split
  · exact hone
  · next hbelow =>
    have hnum : Binary64.read 1.0 ≠ .nan := by decide +kernel
    exact Binary64.not_lt_chain (fun hnan => absurd hnan hnum) hone (of_decide_eq_false (Bool.eq_false_iff.2 hbelow))

/-- **A text that was cut to the room of a cell** is at most as wide as the room -/
theorem gauge_fit_le (font : Canvas) (width : Float) (text : List Char) :
    (cellRoom width).isNaN = false → (font.gauge (Id.run (Text.fit font.gauge (cellRoom width) text))).isNaN = false →
      font.gauge (Id.run (Text.fit font.gauge (cellRoom width) text)) ≤ cellRoom width := by
  intro hroom hshown
  have hsound : ∀ t, Length.atMost (font.gauge t) (cellRoom width) = true →
      Length.below (cellRoom width) (font.gauge t) = false := fun t hfits =>
    decide_eq_false (Binary64.not_lt_of_le (of_decide_eq_true hfits))
  have hempty : Length.below (cellRoom width) (font.gauge []) = false := by
    rw [font.gauge_nil]
    exact decide_eq_false (not_cellRoom_lt_zero width)
  have hbelow := Text.fit_not_above hsound hempty text
  exact (Binary64.le_iff_not_lt hshown hroom).2 (of_decide_eq_false hbelow)

/-! ## Painting them -/

variable {α β : Type} {font : Canvas} {widths : List Float}

/-- from `u` to `v` the font stays at hand, and all cells that are put down have texts that fit -/
def Filled (font : Canvas) (widths : List Float) (u v : Work) : Prop :=
  font.SameFont u.canvas → font.SameFont v.canvas ∧
    ∃ line, v.canvas.cells = u.canvas.cells ++ line ∧ ∀ call ∈ line, FittedCell font widths call

theorem Filled.trans {u v w : Work} (h : Filled font widths u v) (k : Filled font widths v w) :
    Filled font widths u w := by
  intro hu
  obtain ⟨hv, line, hline, hfits⟩ := h hu
  obtain ⟨hw, more, hmore, hothers⟩ := k hv
  exact ⟨hw, line ++ more, by rw [hmore, hline, List.append_assoc], List.forall_mem_append.2 ⟨hfits, hothers⟩⟩

/-- with the font at hand, every run keeps it there and puts down only cells whose texts fit, whether it fails or not -/
structure Fills (font : Canvas) (widths : List Float) (x : Painting α) : Prop where
  run : ∀ w, Filled font widths w (x.run.run w).2

namespace Fills

theorem of_run {x : Painting α} (hx : Fills font widths x) {w v : Work} {r : Except Failure α}
    (h : x.run.run w = (r, v)) : Filled font widths w v := by
  have hfilled := hx.run w
  rwa [h] at hfilled

theorem bind {x : Painting α} {k : α → Painting β} (hx : Fills font widths x) (hk : ∀ a, Fills font widths (k a)) :
    Fills font widths (x >>= k) :=
  ⟨fun w => Effect.bind_rel (R := Filled font widths) .trans (hx.run w) fun a => (hk a).run⟩

/-- what leaves the surface alone -/
theorem idle {x : Painting α} (h : ∀ w, (x.run.run w).2.canvas = w.canvas) : Fills font widths x := by
  refine ⟨fun w hw => ?_⟩
  rw [h w]
  exact ⟨hw, [], (List.append_nil _).symm, List.forall_mem_nil _⟩

theorem call {c : Call} (hmade : c.isCarriedOut = true) (hcell : c.isCell = false) :
    Fills font widths (Painting.call c hmade) :=
  ⟨fun w hw => ⟨hw.trans (.record w.canvas c), [],
    (Canvas.cells_of_calls rfl hcell).trans (List.append_nil _).symm, List.forall_mem_nil _⟩⟩

theorem cell {width height : Float} {text : String} {fill : Bool} (hwidth : width ∈ widths)
    (hfits : (cellRoom width).isNaN = false → (font.gauge text.toList).isNaN = false →
      font.gauge text.toList ≤ cellRoom width) :
    Fills font widths (Painting.draw (·.cell width height text fill)) := by
  refine ⟨fun w hw => ?_⟩
  rw [run_draw]
  split
  · next d hd =>
    have hcells : d.cells = w.canvas.cells ++ [.cell width height text fill] := by
      unfold Canvas.cells
      rw [Canvas.calls_of_check hd, List.filter_append]
      rfl
    -- what is put down can be shown, so it has a width
    obtain ⟨measured, hmeasured⟩ : ∃ x, font.textWidth text.toList = .ok x := by
      rw [← hw.textWidth]
      rcases w.canvas.textWidth_spec text.toList with ⟨-, hok⟩ | ⟨hmissing, -⟩
      · exact hok
      · rcases w.canvas.cell_spec width height text fill with ⟨hshows, -⟩ | ⟨-, f, hf, -⟩
        · exact absurd hshows hmissing
        · cases hf.symm.trans hd
    rw [Canvas.gauge_of_textWidth hmeasured] at hfits
    refine ⟨hw.trans (.of_check hd), _, hcells, List.forall_mem_singleton.2 ?_⟩
    exact ⟨width, height, text, fill, measured, rfl, hwidth, hmeasured, hfits⟩
  · exact ⟨hw, [], (List.append_nil _).symm, List.forall_mem_nil _⟩

/-- cutting to fit, and what comes after it -/
theorem fit {limit : Float} {text : List Char} {k : List Char → Painting β}
    (hk : Fills font widths (k (Id.run (Text.fit font.gauge limit text)))) :
    Fills font widths (Text.fit Painting.measure limit text >>= k) := by
  refine ⟨fun w hw => ?_⟩
  rw [Effect.run_bind]
  have hstate : ((Text.fit Painting.measure limit text).run.run w).2 = w := (Text.gauges_fit text).state
  rcases hfit : (Text.fit Painting.measure limit text).run.run w with ⟨_ | shown, v⟩
  · rw [hfit] at hstate
    obtain rfl : v = w := hstate
    exact ⟨hw, [], (List.append_nil _).symm, List.forall_mem_nil _⟩
  · obtain ⟨rfl, rfl⟩ := Text.agrees_fit text shown v hfit
    rw [hw.gauge]
    exact hk.run v hw

end Fills

variable {j : Job} {c : Component} {s : Spot}

/-- **The cells of a row** -/
theorem fills_paintCells (x y height : Float) (fill : Bool) (cells : List (Float × String))
    (hcells : ∀ cell ∈ cells, cell.1 ∈ widths) : Fills font widths (paintCells x y height fill cells) := by
  induction cells generalizing x with
  | nil => exact .idle fun _ => rfl
  | cons cell rest ih =>
    obtain ⟨width, text⟩ := cell
    obtain ⟨hwidth, hrest⟩ := List.forall_mem_cons.1 hcells
    unfold paintCells
    refine .bind (.call rfl rfl) fun _ => .fit (.bind (.cell hwidth ?_) fun _ => ih (x + width) hrest)
    rw [String.toList_ofList]
    exact gauge_fit_le font width text.toList

theorem fills_paintRow (mark : Mark) (place : Point) (height : Float) (fill : Bool) (texts : List String) :
    Fills font widths (paintRow c mark place height widths fill texts) := by
  have hwidths : ∀ cell ∈ widths.zip texts, cell.1 ∈ widths := fun cell hcell => (List.of_mem_zip hcell).1
  exact .bind (fills_paintCells place.x place.y height fill _ hwidths) fun _ => .idle fun _ => rfl

theorem fills_encodeAll (texts : List String) : Fills font widths (encodeAll j texts) :=
  .idle fun w => by rw [run_encodeAll]

/-- **The rows of a table** -/
theorem fills_paintRows (columns : List Column) (x y : Float) (limits : RowLimits) (i : ℕ) (items : List Value) :
    Fills font widths (paintRows j c columns widths x limits y i items) := by
  induction items generalizing y i with
  | nil => exact .idle fun _ => rfl
  | cons item rest ih =>
    unfold paintRows
    split
    · exact .idle fun _ => rfl
    · refine .bind (.idle fun _ => rfl) fun texts => .bind (fills_encodeAll texts) fun shown => ?_
      exact .bind (fills_paintRow ..) fun _ => ih _ _

/-! ## The whole table -/

/-- the font of a table's header, chosen on a surface -/
def HeaderFont (j : Job) (c : Component) (canvas : Canvas) (spec : TableSpec) (font : Canvas) : Prop :=
  ∃ size, styleNumber (c.style.getD "fontSize") tableFontSize = .ok size ∧
    canvas.setFont j.family (Font.styleOf (.string spec.headerWeight)) size = .ok font

/-- the font of a table's rows, chosen after that of the header -/
def RowFont (j : Job) (c : Component) (canvas : Canvas) (spec : TableSpec) (font : Canvas) : Prop :=
  ∃ size head, styleNumber (c.style.getD "fontSize") tableFontSize = .ok size ∧
    canvas.setFont j.family (Font.styleOf (.string spec.headerWeight)) size = .ok head ∧
    head.setFont j.family "" size = .ok font

/-- the colours of a header are chosen before its font and after it, so this is the font at hand for its cells -/
theorem headerStyle_font {spec : TableSpec} {size : Float} {w v : Work} {u : Unit}
    (h : (headerStyle j c s spec size).run.run w = (.ok u, v)) :
    ∃ head, w.canvas.setFont j.family (Font.styleOf (.string spec.headerWeight)) size = .ok head ∧
      head.SameFont v.canvas := by
  unfold headerStyle at h
  obtain ⟨fill, w₁, hfill, h⟩ := Effect.run_bind_eq_ok h
  obtain ⟨border, w₂, hborder, h⟩ := Effect.run_bind_eq_ok h
  obtain ⟨_, w₃, hdraw, h⟩ := Effect.run_bind_eq_ok h
  obtain ⟨_, w₄, hline, h⟩ := Effect.run_bind_eq_ok h
  obtain ⟨_, w₅, hfilled, h⟩ := Effect.run_bind_eq_ok h
  obtain ⟨_, w₆, hfont, hcolour⟩ := Effect.run_bind_eq_ok h
  obtain ⟨-, rfl⟩ := ofExcept_eq hfill
  obtain ⟨-, rfl⟩ := ofExcept_eq hborder
  obtain ⟨c₃, hc₃, rfl⟩ := draw_eq_ok hdraw
  cases hline
  obtain ⟨c₅, hc₅, rfl⟩ := draw_eq_ok hfilled
  obtain ⟨c₆, hc₆, rfl⟩ := draw_eq_ok hfont
  obtain ⟨c₇, hc₇, rfl⟩ := draw_eq_ok hcolour
  have hbefore : w.canvas.SameFont c₅ :=
    ((Canvas.SameFont.of_check hc₃).trans (.record c₃ _)).trans (.of_check hc₅)
  obtain ⟨head, hhead, hsame⟩ := hbefore.setFont hc₆
  exact ⟨head, hhead, hsame.trans (.of_check hc₇)⟩

/-- the rows come after the request for their font, which is made with that of the header at hand -/
theorem rows_fitted {spec : TableSpec} {size : Float} {canvas head : Canvas} {u v : Work} {r : Except Failure Unit}
    {widths : List Float} {x y : Float} {limits : RowLimits} {items : List Value}
    (hsize : styleNumber (c.style.getD "fontSize") tableFontSize = .ok size)
    (hhead : canvas.setFont j.family (Font.styleOf (.string spec.headerWeight)) size = .ok head)
    (hu : head.SameFont u.canvas)
    (h : (Painting.draw (·.setFont j.family "" size) >>= fun _ =>
      paintRows j c spec.columns widths x limits y 0 items).run.run u = (r, v)) :
    ∃ rows, v.canvas.cells = u.canvas.cells ++ rows ∧
      ∀ call ∈ rows, ∃ font, RowFont j c canvas spec font ∧ FittedCell font widths call := by
  rcases Effect.run_bind_cases h with ⟨e, hfont⟩ | ⟨_, w, hfont, hrows⟩
  · exact ⟨[], by rw [(Cellless.setFont ..).of_run hfont, List.append_nil], List.forall_mem_nil _⟩
  · have hcells := (Cellless.setFont ..).of_run hfont
    obtain ⟨d, hd, rfl⟩ := draw_eq_ok hfont
    obtain ⟨font, hchosen, hsame⟩ := hu.setFont hd
    obtain ⟨-, rows, hput, hfits⟩ := (fills_paintRows spec.columns x y limits 0 items).of_run hrows hsame
    rw [hcells] at hput
    exact ⟨rows, hput, fun call hcall => ⟨font, ⟨size, head, hsize, hhead, hchosen⟩, hfits call hcall⟩⟩

/-- a cell as wide as one of the columns, whose text fits in the font of its part of the table -/
def FitsIn (j : Job) (c : Component) (IsFont : TableSpec → Canvas → Prop) (call : Call) : Prop :=
  ∃ spec font, TableSpec.read c.content j.settings.layout.tableRowHeight = .ok spec ∧ IsFont spec font ∧
    FittedCell font (columnWidths (tableWidth c) (spec.columns.map (·.width))) call

/-- from `w` to `v` there come the cells of a header and then those of rows, all of them with texts that fit -/
def LeavesFitted (j : Job) (c : Component) (w v : Work) : Prop :=
  ∃ header rows, v.canvas.cells = w.canvas.cells ++ header ++ rows ∧
    (∀ call ∈ header, FitsIn j c (HeaderFont j c w.canvas) call) ∧
    ∀ call ∈ rows, FitsIn j c (RowFont j c w.canvas) call

theorem LeavesFitted.idle {w v : Work} (h : v.canvas.cells = w.canvas.cells) : LeavesFitted j c w v :=
  ⟨[], [], by rw [h, List.append_nil, List.append_nil], List.forall_mem_nil _, List.forall_mem_nil _⟩

/-- a table that has room for its header -/
theorem leavesFitted_header {spec : TableSpec} {size y : Float} {w v : Work} {r : Except Failure Unit}
    {limits : RowLimits} {items : List Value}
    (hread : TableSpec.read c.content j.settings.layout.tableRowHeight = .ok spec)
    (hsize : styleNumber (c.style.getD "fontSize") tableFontSize = .ok size)
    (h : (do
      headerStyle j c s spec size
      let headers ← encodeAll j (spec.columns.map (·.header))
      paintRow c .tableHeader s.origin spec.rowHeight
        (columnWidths (tableWidth c) (spec.columns.map (·.width))) true headers
      Painting.draw (·.setFont j.family "" size)
      paintRows j c spec.columns (columnWidths (tableWidth c) (spec.columns.map (·.width))) s.origin.x limits y 0
        items : Painting Unit).run.run w = (r, v)) : LeavesFitted j c w v := by
  rcases Effect.run_bind_cases h with ⟨e, hstyle⟩ | ⟨_, w₁, hstyle, h₁⟩
  · exact .idle ((cellless_headerStyle spec size).of_run hstyle)
  have hstyled := (cellless_headerStyle spec size).of_run hstyle
  obtain ⟨head, hhead, hsame⟩ := headerStyle_font hstyle
  rw [Effect.run_bind, run_encodeAll] at h₁
  dsimp only at h₁
  rcases Effect.run_bind_cases h₁ with ⟨e, hrow⟩ | ⟨_, w₂, hrow, h₂⟩
  · obtain ⟨-, header, hput, hfits⟩ := (fills_paintRow ..).of_run hrow hsame
    refine ⟨header, [], by rw [hput, hstyled, List.append_nil], fun call hcall => ?_, List.forall_mem_nil _⟩
    exact ⟨spec, head, hread, ⟨size, hsize, hhead⟩, hfits call hcall⟩
  · obtain ⟨hsame', header, hput, hfits⟩ := (fills_paintRow ..).of_run hrow hsame
    obtain ⟨rows, hrows, hothers⟩ := rows_fitted hsize hhead hsame' h₂
    refine ⟨header, rows, by rw [hrows, hput, hstyled], fun call hcall => ?_, fun call hcall => ?_⟩
    · exact ⟨spec, head, hread, ⟨size, hsize, hhead⟩, hfits call hcall⟩
    · obtain ⟨font, hfont, hfitted⟩ := hothers call hcall
      exact ⟨spec, font, hread, hfont, hfitted⟩

/-- **The cells that a table leaves**, whether it is painted to its end or not -/
theorem leavesFitted_paintTable (j : Job) (c : Component) (s : Spot) (w : Work) :
    LeavesFitted j c w ((paintTable j c s).run.run w).2 := by
  rcases hrun : (paintTable j c s).run.run w with ⟨r, v⟩
  unfold paintTable at hrun
  rcases Effect.run_bind_cases hrun with ⟨e, hspec⟩ | ⟨spec, w₁, hspec, h₁⟩
  · obtain ⟨-, rfl⟩ := ofExcept_eq hspec
    exact .idle rfl
  obtain ⟨hread, rfl⟩ := ofExcept_eq hspec
  rcases Effect.run_bind_cases h₁ with ⟨e, hfound⟩ | ⟨found, w₂, hfound, h₂⟩
  · obtain ⟨-, rfl⟩ := ofExcept_eq hfound
    exact .idle rfl
  obtain ⟨-, rfl⟩ := ofExcept_eq hfound
  split at h₂
  · rcases Effect.run_bind_cases h₂ with ⟨e, hstyle⟩ | ⟨size, w₃, hstyle, h₃⟩
    · obtain ⟨-, rfl⟩ := ofExcept_eq hstyle
      exact .idle rfl
    obtain ⟨hsize, rfl⟩ := ofExcept_eq hstyle
    obtain ⟨e, hget⟩ | ⟨seen, w₄, hget, h₄⟩ := Effect.run_bind_cases h₃
    · cases hget
    cases hget
    dsimp only at h₄
    split at h₄
    · cases h₄
      exact .idle rfl
    · exact leavesFitted_header hread hsize h₄
  · cases h₂
    exact .idle rfl

/-! ## Texts cut to fit, in tables and elsewhere -/

/-- **Cutting to fit**, with any measure whose values can be compared with the limit: what is shown of a text is the
text itself if it fits, else the longest beginning of it that fits with three dots behind it, else nothing, and so it
fits if the limit is not below zero. Hence the cells of a table have texts that fit, in the font of its header or of its
rows. -/
theorem fit_longest_and_cells_fit :
    (∀ {α : Type} [Length α] (width : List Char → α) (limit : α), Text.Comparable width limit →
      ∀ text, Text.Fitting width limit text (Id.run (Text.fit width limit text)) ∧
        (width [] = Length.zero → Length.atMost Length.zero limit = true →
          Length.atMost (width (Id.run (Text.fit width limit text))) limit = true)) ∧
      ∀ (j : Job) (c : Component) (s : Spot) (w : Work), LeavesFitted j c w ((paintTable j c s).run.run w).2 := by
  refine ⟨fun width limit hcompare text => ?_, leavesFitted_paintTable⟩
  have hfitting := Text.fit_fitting hcompare text
  exact ⟨hfitting, fun hempty hlimit => hfitting.fits (hempty ▸ hlimit)⟩

namespace Narrow

/-- a table of one column, ten millimetres wide -/
def table : Component :=
  { id := "narrow", kind := .table, dimensions := some ⟨10.0, 20.0⟩, dataBinding := some "rows"
    content := .object .template [("columns", .list .template
      [.object .template [("field", .string "name"), ("header", .string "Name of the holder")]])] }

def painted : Work := ((paintTable Roster.job table Roster.spot).run.run Broken.page).2

def textOfCell : Call → String
  | .cell _ _ text _ => text
  | _ => ""

end Narrow

/-- a text of nine characters with room for six, and a table whose header is cut while the texts of its rows fit -/
theorem fit_longest_and_cells_fit_sample :
    (Text.Comparable (fun t => (t.length : ℚ)) 6 ∧
      Text.Fitting (fun t => (t.length : ℚ)) 6 "abcdefghi".toList "abc...".toList ∧
      Length.atMost (("abc...".toList.length : ℕ) : ℚ) 6 = true) ∧
      Narrow.painted.canvas.cells.map Narrow.textOfCell = ["Na...", "a", "b"] ∧
      LeavesFitted Roster.job Narrow.table Broken.page Narrow.painted := by
  have hcompare : Text.Comparable (fun t => (t.length : ℚ)) 6 := .of_linearOrder (fun _ _ => rfl) (fun _ _ => rfl) _ _
  have hshown : Id.run (Text.fit (fun t => (t.length : ℚ)) 6 "abcdefghi".toList) = "abc...".toList := by decide +kernel
  have hempty : (([] : List Char).length : ℚ) = Length.zero := by decide +kernel
  obtain ⟨hfitting, hfits⟩ := fit_longest_and_cells_fit.1 (fun t => (t.length : ℚ)) 6 hcompare "abcdefghi".toList
  rw [hshown] at hfitting hfits
  refine ⟨⟨hcompare, hfitting, hfits hempty (by decide +kernel)⟩, by decide +kernel, ?_⟩
  exact fit_longest_and_cells_fit.2 Roster.job Narrow.table Roster.spot Broken.page

end Paint

end ReportPress
