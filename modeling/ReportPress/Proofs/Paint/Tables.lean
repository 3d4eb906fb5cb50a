import ReportPress.Proofs.Document.Prepare
import ReportPress.Proofs.Number.Order
import ReportPress.Proofs.Paint.Legible
import ReportPress.Proofs.Paint.Remains
/-!
Tables that say nothing of how they look. Their header is set in bold, in the family of the document; so all depends on
whether there is a bold font of that family. With one the table is painted, its header and then as many rows as there is
room for; without one nothing of it is, and a placeholder stands in its place.

- `PlainTable`: such a table, bound to a list of objects.
- `paintRow_done`, `paintRows_done`: a row is painted and entered, and so are the rows, by induction on the items.
- `paintTable_done`, `paintTable_fails`: the whole table, with a bold font and without.
- `place_table`: what is put in the place of the table.
-/

namespace ReportPress.Paint

open Painting

/-- a table without a style, for its header or at all, that is bound to a list of objects, has the names of their fields
in its columns, and has room for its header -/
structure PlainTable (j : Job) (c : Component) (s : Spot) (canvas : Canvas) (spec : TableSpec) (items : List Value) :
    Prop where
  kind : c.kind = .table
  unstyled : c.style = []
  noHeaderStyle : ∀ owner fields, c.content = .object owner fields → Fields.get? fields "headerStyle" = none
  read : TableSpec.read c.content j.settings.layout.tableRowHeight = .ok spec
  fields : ∀ column ∈ spec.columns, '.' ∉ column.field.toList
  bound : ∃ owner, Record.resolve s.scope (c.dataBinding.getD "") = .ok (some (.list owner items))
  objects : ∀ item ∈ items, ∃ owner fields, item = .object owner fields
  room : s.origin.y + spec.rowHeight ≤ j.usableBottom canvas

/-- how many rows there are for the items: as many as may be, and as fit on the page -/
def rowsThatFit (limits : RowLimits) : Float → ℕ → List Value → ℕ
  | _, _, [] => 0
  | y, i, _ :: rest =>
    if limits.count ≤ i || y + limits.height > limits.bottom then 0
    else rowsThatFit limits (y + limits.height) (i + 1) rest + 1

variable {j : Job} {c : Component} {s : Spot} {w : Work}

/-! ## Cells -/

/-- the cells of an object have texts -/
theorem exists_cellTexts {item : Value} (hitem : ∃ owner fields, item = .object owner fields) {columns : List Column}
    (hplain : ∀ column ∈ columns, '.' ∉ column.field.toList) : ∃ texts, cellTexts item columns = .ok texts := by
  obtain ⟨owner, fields, rfl⟩ := hitem
  induction columns with
  | nil => exact ⟨[], rfl⟩
  | cons column rest ih =>
    have hcell : ∃ text, cellText (.object owner fields) column = .ok text := by
      unfold cellText
      split
      · exact ⟨_, rfl⟩
      · next hempty => exact ⟨_, by rw [Record.resolve_field hempty (hplain column List.mem_cons_self)]; rfl⟩
    obtain ⟨text, htext⟩ := hcell
    obtain ⟨texts, htexts⟩ := ih fun column hcolumn => hplain column (.tail _ hcolumn)
    refine ⟨text :: texts, ?_⟩
    unfold cellTexts
    rw [htext, htexts]
    rfl

/-! ## Rows -/

/-- **A row** whose texts can be shown is painted and entered -/
theorem paintRow_done (mark : Mark) (hmark : mark ≠ .footer ∧ mark ≠ .placeholder) (place : Point) (height : Float)
    (widths : List Float) (fill : Bool) {texts : List String} (h : ∀ t ∈ texts, w.canvas.Shows t.toList) :
    Succeeds w (paintRow c mark place height widths fill texts) fun _ v =>
      w.canvas.Keeps v.canvas ∧ SameFace w v ∧ v.issues = w.issues ∧
        v.trace = w.trace ++ [rowEntry c mark w.canvas.pages place texts] := by
  obtain ⟨u, v, hrun, hkeeps⟩ := paintRow_succeeds (c := c) mark place height widths fill h
  obtain ⟨hface, -, htrace⟩ := paintRow_entry hrun
  have hgrow := (grows_paintRow (c := c) (Q := fun _ => False) hmark place height widths fill texts).of_run hrun
  exact ⟨u, v, hrun, hkeeps, hface, hgrow.issues_eq, htrace⟩

/-- **The rows of a table** are painted one below the other as far as there is room, each entered for its item -/
theorem paintRows_done (hapart : j.Apart w.canvas.family) {columns : List Column} {widths : List Float} {x y : Float}
    {limits : RowLimits} {i : ℕ} {items : List Value} (hw : w.canvas.HasFace)
    (hcells : ∀ item ∈ items, ∃ texts, cellTexts item columns = .ok texts) :
    Succeeds w (paintRows j c columns widths x limits y i items) fun _ v => v.issues = w.issues ∧
      v.trace = w.trace ++ rowEntries j c w.canvas.family w.canvas.pages columns x limits.height y
        (items.take (rowsThatFit limits y i items)) := by
  induction items generalizing y i w with
  | nil => exact .pure ⟨rfl, (List.append_nil _).symm⟩
  | cons item rest ih =>
    unfold paintRows rowsThatFit
    split
    · exact .pure ⟨rfl, (List.append_nil _).symm⟩
    · obtain ⟨texts, htexts⟩ := hcells item List.mem_cons_self
      have hshown := hapart.shows_map hw texts
      refine Succeeds.bind (Q := fun a v => texts = a ∧ w = v) ⟨texts, w, ?_, rfl, rfl⟩ ?_
      · rw [htexts]
        rfl
      rintro _ _ ⟨rfl, rfl⟩
      refine Succeeds.bind (Q := fun a v => texts.map (j.encodeIn w.canvas.family) = a ∧ w = v)
        ⟨_, w, run_encodeAll j texts w, rfl, rfl⟩ ?_
      rintro _ _ ⟨rfl, rfl⟩
      have hrow := paintRow_done (c := c) .tableRow (by decide) ⟨x, y⟩ limits.height widths false hshown
      refine hrow.bind fun _ v hv => ?_
      obtain ⟨hkeeps, hface, hissues, htrace⟩ := hv
      have hfamily : v.canvas.family = w.canvas.family := congrArg Prod.fst hface
      have hcells' := fun next hnext => hcells next (.tail _ hnext)
      refine (ih (hfamily ▸ hapart) (hkeeps.face hw) hcells').imp fun _ u hrest => ?_
      refine ⟨hrest.1.trans hissues, ?_⟩
      rw [hrest.2, htrace, hfamily, hkeeps.pages, List.append_assoc, List.take_succ_cons, rowEntries, shownCells,
        htexts]
      rfl

/-! ## The whole table -/

/-- how many rows a table has below its header -/
def tableRows (j : Job) (s : Spot) (canvas : Canvas) (spec : TableSpec) (items : List Value) : ℕ :=
  rowsThatFit ⟨spec.rowHeight, j.usableBottom canvas, j.settings.layout.tableMaxRows⟩ (s.origin.y + spec.rowHeight) 0
    items

theorem styleOf_bold : Font.styleOf (.string "bold") = "B" := by decide

/-- what the header of a table is set in: its style, after its colours -/
def headerFont (j : Job) (weight : String) (size : Float) : Painting Unit := do
  draw (·.setFont j.family (Font.styleOf (.string weight)) size)
  draw (·.setTextColour .black)

section Whole

variable {spec : TableSpec} {items : List Value}

/-- the header is filled and bold as headers are by default -/
theorem PlainTable.header (h : PlainTable j c s w.canvas spec items) :
    spec.headerFill = .null ∧ spec.headerWeight = "bold" := by
  have hread := h.read
  unfold TableSpec.read at hread
  split at hread
  · next owner fields hcontent =>
    have hnone : Fields.getD fields "headerStyle" = .null := by
      unfold Fields.getD
      rw [h.noHeaderStyle owner fields hcontent]
      rfl
    rw [hnone] at hread
    split at hread
    · cases hread
    · obtain ⟨columns, -, hread⟩ := Effect.except_bind_eq_ok hread
      obtain ⟨height, -, hread⟩ := Effect.except_bind_eq_ok hread
      cases hread
      exact ⟨rfl, rfl⟩
    · cases hread
  · cases hread

/-- choosing a colour that is in range only makes the call -/
theorem run_colour (set : Canvas → Rgb → Except Failure Canvas) (call : Rgb → Call)
    (hset : ∀ c rgb, set c rgb = (Canvas.checkColour rgb).map fun _ => c.record (call rgb)) {rgb : Rgb}
    (h : (Canvas.checkColour rgb).isOk = true) (w : Work) :
    (draw (set · rgb)).run.run w = (.ok (), { w with canvas := w.canvas.record (call rgb) }) := by
  rw [run_draw, hset]
  cases hc : Canvas.checkColour rgb with
  | error f => rw [hc] at h; cases h
  | ok u => rfl

/-- the colours of the header are chosen, and then all is up to its font -/
theorem headerStyle_run (h : PlainTable j c s w.canvas spec items) (size : Float) :
    ∃ v, Work.Draws w v ∧ v.canvas.face = w.canvas.face ∧
      (headerStyle j c s spec size).run.run w = (headerFont j "bold" size).run.run v := by
  obtain ⟨hfill, hweight⟩ := h.header
  have hborder : c.style.getD "borderColor" = .null := by
    rw [h.unstyled]
    rfl
  refine ⟨{ w with canvas := ((w.canvas.record (.drawColour tableBorder)).record
    (.lineWidth tableLineWidth)).record (.fillColour headerFill) }, ⟨?_, rfl, rfl⟩, rfl, ?_⟩
  · exact ((Canvas.keeps_record ..).trans (Canvas.keeps_record ..)).trans (Canvas.keeps_record ..)
  · have hdraw := run_colour Canvas.setDrawColour .drawColour (fun _ _ => rfl)
      (show (Canvas.checkColour tableBorder).isOk = true by decide +kernel) w
    have hfilled := run_colour Canvas.setFillColour .fillColour (fun _ _ => rfl)
      (show (Canvas.checkColour headerFill).isOk = true by decide +kernel)
      { w with canvas := (w.canvas.record (.drawColour tableBorder)).record (.lineWidth tableLineWidth) }
    have hcall : (call (.lineWidth tableLineWidth) rfl).run.run
        { w with canvas := w.canvas.record (.drawColour tableBorder) } = (.ok (),
        { w with canvas := (w.canvas.record (.drawColour tableBorder)).record (.lineWidth tableLineWidth) }) := rfl
    have hgiven : ∀ rgb : Rgb, j.colour .null s (some rgb) = .ok (some rgb) := fun _ => rfl
    -- the steps are taken one at a time: all at once would evaluate the colours as numbers
    unfold headerStyle
    rw [hfill, hweight, hborder, Effect.run_bind, ofExcept_run, hgiven]
    dsimp only
    rw [Effect.run_bind, ofExcept_run, hgiven]
    dsimp only [Option.getD_some]
    rw [Effect.run_bind, hdraw]
    dsimp only
    rw [Effect.run_bind, hcall]
    dsimp only
    rw [Effect.run_bind, hfilled]
    rfl

/-- with a bold font of the family of the document the header has it -/
theorem headerStyle_done (hready : j.Ready w) (h : PlainTable j c s w.canvas spec items)
    (hbold : w.canvas.Knows (w.canvas.faceFor j.family "B")) (size : Float) :
    Succeeds w (headerStyle j c s spec size) fun _ v => Work.Draws w v := by
  obtain ⟨v, hdraws, hface, hrun⟩ := headerStyle_run h size
  have hknows : v.canvas.Knows (v.canvas.faceFor j.family "B") :=
    (Canvas.knows_faceFor_congr hdraws.canvas.fonts hready.named "B").2 hbold
  have hfont : Succeeds v (headerFont j "bold" size) fun _ u => Work.Draws v u := by
    unfold headerFont
    rw [styleOf_bold]
    refine (Succeeds.setFont (fun _ => hdraws.canvas.face hready.face) hknows size).bind fun _ u hu => ?_
    exact (Succeeds.setTextColour (by decide +kernel)).imp fun _ _ h => hu.2.trans h
  obtain ⟨a, u, hfont, hu⟩ := hfont
  exact ⟨a, u, hrun.trans hfont, hdraws.trans hu⟩

/-- without one the style of the header fails -/
theorem headerStyle_fails (hready : j.Ready w) (h : PlainTable j c s w.canvas spec items)
    (hbold : ¬ w.canvas.Knows (w.canvas.faceFor j.family "B")) (size : Float) :
    ∃ v, Work.Draws w v ∧ (headerStyle j c s spec size).run.run w =
      (.error (.undefinedFont ((w.canvas.faceFor j.family "B").1 ++ (w.canvas.faceFor j.family "B").2)), v) := by
  obtain ⟨v, hdraws, hface, hrun⟩ := headerStyle_run h size
  have hfor := Canvas.faceFor_congr hdraws.canvas.fonts hready.named "B"
  refine ⟨v, hdraws, hrun.trans ?_⟩
  unfold headerFont
  rw [styleOf_bold, Effect.run_bind, run_draw]
  rcases Canvas.setFont_spec (fun _ => hdraws.canvas.face hready.face) size with ⟨hknows, -⟩ | ⟨-, f, hf, -⟩
  · exact absurd ((Canvas.knows_faceFor_congr hdraws.canvas.fonts hready.named "B").1 hknows) hbold
  · rw [hf, ← hfor, (Canvas.setFont_eq_error hf).2]

/-- what there is of a table once its header has its style: the header, and the rows below it -/
def tableBody (j : Job) (c : Component) (s : Spot) (spec : TableSpec) (items : List Value) (bottom : Float) :
    Painting Unit := do
  let widths := columnWidths (tableWidth c) (spec.columns.map (·.width))
  let headers ← encodeAll j (spec.columns.map (·.header))
  paintRow c .tableHeader s.origin spec.rowHeight widths true headers
  draw (·.setFont j.family "" tableFontSize)
  paintRows j c spec.columns widths s.origin.x ⟨spec.rowHeight, bottom, j.settings.layout.tableMaxRows⟩
    (s.origin.y + spec.rowHeight) 0 items

theorem paintTable_run (h : PlainTable j c s w.canvas spec items) :
    (paintTable j c s).run.run w = (do
      headerStyle j c s spec tableFontSize
      tableBody j c s spec items (j.usableBottom w.canvas) : Painting Unit).run.run w := by
  obtain ⟨owner, hbound⟩ := h.bound
  have hsize : styleNumber (c.style.getD "fontSize") tableFontSize = .ok tableFontSize := by
    rw [h.unstyled]
    rfl
  have hroom : ¬ s.origin.y + spec.rowHeight > j.usableBottom w.canvas := Binary64.not_lt_of_le h.room
  have hget : (get : Painting Work).run.run w = (.ok w, w) := rfl
  -- what is read before anything is drawn: the columns, the items, the size of the text, the end of the page
  unfold paintTable
  rw [Effect.run_bind, ofExcept_run, h.read]
  dsimp only
  rw [Effect.run_bind, ofExcept_run, hbound]
  dsimp only
  rw [Effect.run_bind, ofExcept_run, hsize]
  dsimp only
  rw [Effect.run_bind, hget]
  dsimp only
  rw [if_neg hroom]
  rfl

/-- **A plain table** is painted if there is a bold font of the family of the document: its header, and the rows below
it that there is room for -/
theorem paintTable_done (hheader : j.Apart (headerFamily j w.canvas spec))
    (hbody : j.Apart (bodyFamily j w.canvas spec)) (hready : j.Ready w) (h : PlainTable j c s w.canvas spec items)
    (hbold : w.canvas.Knows (w.canvas.faceFor j.family "B")) :
    Succeeds w (paintTable j c s) fun _ v => v.issues = w.issues ∧
      v.trace = w.trace ++ headerEntry j c s w.canvas spec ::
        bodyEntries j c s w.canvas spec (items.take (tableRows j s w.canvas spec items)) := by
  obtain ⟨_, v, hstyle, hdraws⟩ := headerStyle_done hready h hbold tableFontSize
  have hhand : v.canvas.family = headerFamily j w.canvas spec := congrArg Prod.fst (headerStyle_face hstyle)
  have hready₁ := hready.keeps hdraws.canvas
  have hshown := (hhand ▸ hheader : j.Apart v.canvas.family).shows_map hready₁.face (spec.columns.map (·.header))
  have hpainted : Succeeds v (tableBody j c s spec items (j.usableBottom w.canvas)) fun _ u => u.issues = w.issues ∧
      u.trace = w.trace ++ headerEntry j c s w.canvas spec ::
        bodyEntries j c s w.canvas spec (items.take (tableRows j s w.canvas spec items)) := by
    refine Succeeds.bind (Q := fun a u => (spec.columns.map (·.header)).map (j.encodeIn v.canvas.family) = a ∧ v = u)
      ⟨_, v, run_encodeAll j _ v, rfl, rfl⟩ ?_
    rintro _ _ ⟨rfl, rfl⟩
    refine (paintRow_done .tableHeader (by decide) _ _ _ true hshown).bind fun _ v₂ hrow => ?_
    obtain ⟨hkeeps₂, -, hissues₂, htrace₂⟩ := hrow
    have hready₂ := hready₁.keeps hkeeps₂
    refine (Succeeds.setFont (fun _ => hready₂.face) hready₂.family tableFontSize).bind fun _ v₃ hfont => ?_
    obtain ⟨hface₃, hdraws₃⟩ := hfont
    have hkeeps := (hdraws.canvas.trans hkeeps₂).trans hdraws₃.canvas
    -- the family at hand is asked for again without a style, so it is resolved a second time
    have hfamily : v₃.canvas.family = bodyFamily j w.canvas spec := by
      refine congrArg Prod.fst (hface₃.trans ?_)
      exact Canvas.faceFor_congr (c := { w.canvas with family := headerFamily j w.canvas spec })
        (hdraws.canvas.trans hkeeps₂).fonts hready.named ""
    refine (paintRows_done (hfamily ▸ hbody) (hdraws₃.canvas.face hready₂.face) fun item hitem =>
      exists_cellTexts (h.objects item hitem) h.fields).imp fun _ u hrows => ?_
    obtain ⟨hissues, htrace⟩ := hrows
    refine ⟨hissues.trans (hdraws₃.issues.trans (hissues₂.trans hdraws.issues)), ?_⟩
    rw [htrace, hdraws₃.trace, htrace₂, hdraws.trace, hfamily, hkeeps.pages, hhand, hdraws.canvas.pages,
      List.append_assoc]
    rfl
  obtain ⟨_, u, hrun, hu⟩ := hpainted
  refine ⟨(), u, ?_, hu⟩
  rw [paintTable_run h, Effect.run_bind, hstyle]
  exact hrun

/-- without a bold font of the family it fails before anything is entered -/
theorem paintTable_fails (hready : j.Ready w) (h : PlainTable j c s w.canvas spec items)
    (hbold : ¬ w.canvas.Knows (w.canvas.faceFor j.family "B")) :
    ∃ v, Work.Draws w v ∧ (paintTable j c s).run.run w =
      (.error (.undefinedFont ((w.canvas.faceFor j.family "B").1 ++ (w.canvas.faceFor j.family "B").2)), v) := by
  obtain ⟨v, hdraws, hfails⟩ := headerStyle_fails hready h hbold tableFontSize
  exact ⟨v, hdraws, by rw [paintTable_run h, Effect.run_bind, hfails]⟩

/-! ## In its place -/

/-- **In the place of a plain table** whose conditions hold there is the table, if there is a bold font of the family of
the document -/
theorem place_table (hheader : j.Apart (headerFamily j w.canvas spec))
    (hbody : j.Apart (bodyFamily j w.canvas spec)) (hready : j.Ready w) (h : PlainTable j c s w.canvas spec items)
    (hholds : (decision c s).1 = .ok true) (hbold : w.canvas.Knows (w.canvas.faceFor j.family "B")) :
    Succeeds w (place j c s) fun _ v => v.issues = w.issues ∧
      v.trace = w.trace ++ headerEntry j c s w.canvas spec ::
        bodyEntries j c s w.canvas spec (items.take (tableRows j s w.canvas spec items)) := by
  have hnoted : j.Ready { w with notes := w.notes ++ (decision c s).2 } := ⟨hready.face, hready.named, hready.family⟩
  obtain ⟨_, v, hrun, hv⟩ :=
    paintTable_done (w := { w with notes := w.notes ++ (decision c s).2 }) hheader hbody hnoted h hbold
  refine ⟨(), v, ?_, hv⟩
  rw [place_run, hholds]
  dsimp only
  rw [attempt_run, paint, h.kind]
  dsimp only
  rw [hrun]

/-- without one there is a placeholder, and the issue tells of the font -/
theorem place_table_fails (hready : j.Ready w) (h : PlainTable j c s w.canvas spec items)
    (hholds : (decision c s).1 = .ok true) (hbold : ¬ w.canvas.Knows (w.canvas.faceFor j.family "B")) :
    Succeeds w (place j c s) fun _ v => v.issues = w.issues ++
        [⟨c.id, .table, w.canvas.pages,
          .undefinedFont ((w.canvas.faceFor j.family "B").1 ++ (w.canvas.faceFor j.family "B").2)⟩] ∧
      v.trace = w.trace ++ (placeholderEntry c s.origin w.canvas.pages).toList := by
  have hnoted : j.Ready { w with notes := w.notes ++ (decision c s).2 } := ⟨hready.face, hready.named, hready.family⟩
  obtain ⟨v, hdraws, hrun⟩ := paintTable_fails hnoted h hbold
  obtain ⟨_, u, hback, -, hissues, htrace⟩ := fallBack_run c s.origin ⟨c.id, .table, v.canvas.pages,
    .undefinedFont ((w.canvas.faceFor j.family "B").1 ++ (w.canvas.faceFor j.family "B").2)⟩ v
  refine ⟨(), u, ?_, ?_, ?_⟩
  · rw [place_run, hholds]
    dsimp only
    rw [attempt_run, paint, h.kind]
    dsimp only
    rw [hrun]
    exact hback
  · rw [hissues, hdraws.issues, hdraws.canvas.pages]
  · rw [htrace, hdraws.trace, hdraws.canvas.pages]

end Whole

end ReportPress.Paint
