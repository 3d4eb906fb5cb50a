import ReportPress.Proofs.Paint.Steady
import ReportPress.Proofs.Paint.Style
/-!
Components do not hand anything on to one another but the page. What a component makes of a document does not depend on
the font, the colours and the width of lines that are at hand when its turn comes: it brings to hand all that it draws
with. That fails for what stands for the font at hand: a family without a name, and a size of zero where texts are
measured.

- `AsksInFull`: the component asks for neither.
- `steady_paint`: one lemma for each kind of component, put together from those for its parts.
- `render_unmoved`: the same calls, entries and issue in any two documents that agree in all else.
- `zero_size_moves_lines`: a text that asks for a size of zero, broken into other lines after another text.
-/

namespace ReportPress

namespace Paint

/-- the size of the font of a table -/
def tableFont (c : Component) : Except Failure Float := styleNumber (c.style.getD "fontSize") tableFontSize

/-- the font of the component is asked for in full: by a name for its family, and, where texts are measured, in a size
that is not zero, for zero stands for the size at hand -/
structure AsksInFull (j : Job) (c : Component) : Prop where
  textFamily : c.kind = .text → (requestedFont j c).1 ≠ ""
  textSize : c.kind = .text → wraps c = true → ∀ size, fontSize j c = .ok size → (size == 0.0) = false
  tableFamily : c.kind = .table → j.family ≠ ""
  tableSize : c.kind = .table → ∀ size, tableFont c = .ok size → (size == 0.0) = false

variable {b : Pair} {K : List Tool} {j : Job} {c : Component} {s : Spot}

/-! ## Texts -/

theorem steady_applyStyle (hfamily : (requestedFont j c).1 ≠ "")
    (hsize : b.measured → ∀ size, fontSize j c = .ok size → (size == 0.0) = false) :
    Steady b [] (applyStyle j c s) [.textColour, .font] := by
  rw [applyStyle_eq]
  refine .ofExcept_bind fun size hread => (Steady.ofExcept _).bind fun colour => ?_
  refine (Steady.setFont hfamily _ fun hmeasured => hsize hmeasured size hread).bind fun _ => ?_
  exact (Steady.setTextColour _).bind fun _ => .pure _

theorem steady_styleText (hfamily : (requestedFont j c).1 ≠ "")
    (hsize : b.measured → ∀ size, fontSize j c = .ok size → (size == 0.0) = false) :
    Steady b [] (styleText j c s) [.textColour, .font] := by
  refine (steady_applyStyle hfamily hsize).orElse fun f => (Steady.note _).bind fun _ => ?_
  refine (Steady.setFont (by decide) _ fun _ => ?_).bind fun _ => (Steady.setTextColour _).bind fun _ => .pure _
  decide +kernel

theorem steady_encode (hfont : .font ∈ K) (text : String) : Steady b K (j.encode text) K := by
  refine .aside (fun u => by rw [j.run_encode]) fun v w ⟨calls, h, htools⟩ => ?_
  have hfamily : v.canvas.family = w.canvas.family := congrArg Prod.fst (h.chosen (htools .font hfont)).1
  rw [j.run_encode, j.run_encode, hfamily]
  exact ⟨rfl, h.level⟩

theorem steady_textLines (hmeasured : wraps c = true → b.measured) (hfont : .font ∈ K) (text : String) :
    Steady b K (textLines c text) K := by
  unfold textLines
  unfold wraps at hmeasured
  cases hsize : c.size? with
  | none => exact .pure _
  | some size =>
    rw [hsize] at hmeasured
    refine .ite (fun hwidth => ?_) fun _ => .pure _
    exact .wrap (.measure (hmeasured (decide_eq_true hwidth)) hfont) _ _

theorem steady_paintLines (htools : [.font, .textColour] ⊆ K) (origin : Point) (step : Float) (i : ℕ)
    (lines : List (List Char)) : Steady b K (paintLines origin step i lines) K := by
  induction lines generalizing i with
  | nil => exact .pure _
  | cons line rest ih =>
    unfold paintLines
    refine .ite (fun _ => ih _) fun _ => ?_
    exact (Steady.text htools _ _ _).bind fun _ => ih _

theorem steady_paintText (hfamily : (requestedFont j c).1 ≠ "")
    (hsize : b.measured → ∀ size, fontSize j c = .ok size → (size == 0.0) = false)
    (hmeasured : wraps c = true → b.measured) : Steady b [] (paintText j c s) [] := by
  refine (Steady.ofExcept _).bind fun text => .ite (fun _ => .pure _) fun _ => ?_
  refine (steady_styleText hfamily hsize).bind fun size => (steady_encode (by simp) text).bind fun shown => ?_
  refine (steady_textLines hmeasured (by simp) shown).bind fun lines => ?_
  refine (steady_paintLines (by simp) _ _ _ lines).bind fun _ => ?_
  exact (Steady.setTextColour _).bind fun _ => (Steady.record _ _ _ _).weaken (List.nil_subset _)

/-! ## Tables -/

theorem steady_paintCells (hmeasured : b.measured) {fill : Bool} (htools : (Call.cell 0.0 0.0 "" fill).uses ⊆ K)
    (x y height : Float) (cells : List (Float × String)) : Steady b K (paintCells x y height fill cells) K := by
  induction cells generalizing x with
  | nil => exact .pure _
  | cons cell rest ih =>
    unfold paintCells
    refine (Steady.call (c := .moveTo x y) rfl nofun (List.nil_subset K)).bind fun _ => ?_
    refine (Steady.fit (.measure hmeasured (htools (by simp [Call.uses]))) _ _).bind fun shown => ?_
    exact (Steady.cell htools _ _ _).bind fun _ => ih _

theorem steady_encodeAll (hfont : .font ∈ K) (texts : List String) : Steady b K (encodeAll j texts) K := by
  induction texts with
  | nil => exact .pure _
  | cons t rest ih =>
    unfold encodeAll
    exact (steady_encode hfont t).bind fun shown => ih.bind fun others => .pure _

theorem steady_paintRow (hmeasured : b.measured) {fill : Bool} (htools : (Call.cell 0.0 0.0 "" fill).uses ⊆ K)
    (mark : Mark) (place : Point) (height : Float) (widths : List Float) (texts : List String) :
    Steady b K (paintRow c mark place height widths fill texts) K :=
  (steady_paintCells hmeasured htools _ _ _ _).bind fun _ => .record _ _ _ _

theorem steady_paintRows (hmeasured : b.measured) (htools : (Call.cell 0.0 0.0 "" false).uses ⊆ K)
    (columns : List Column) (widths : List Float) (x : Float) (limits : RowLimits) (y : Float) (i : ℕ)
    (rows : List Value) : Steady b K (paintRows j c columns widths x limits y i rows) K := by
  induction rows generalizing y i with
  | nil => exact .pure _
  | cons row rest ih =>
    unfold paintRows
    refine .ite (fun _ => .pure _) fun _ => (Steady.ofExcept _).bind fun cells => ?_
    refine (steady_encodeAll (htools (by simp [Call.uses])) cells).bind fun texts => ?_
    exact (steady_paintRow hmeasured htools _ _ _ _ texts).bind fun _ => ih _ _

theorem steady_headerStyle (hfamily : j.family ≠ "") (spec : TableSpec) {size : Float}
    (hsize : b.measured → (size == 0.0) = false) :
    Steady b [] (headerStyle j c s spec size) [.textColour, .font, .fillColour, .lineWidth, .drawColour] := by
  refine (Steady.ofExcept _).bind fun fill => (Steady.ofExcept _).bind fun border => ?_
  refine (Steady.setDrawColour _).bind fun _ => (Steady.lineWidth _).bind fun _ => ?_
  refine (Steady.setFillColour _).bind fun _ => (Steady.setFont hfamily _ hsize).bind fun _ => ?_
  exact .setTextColour _

theorem steady_paintTable (hfamily : j.family ≠ "") (hsize : ∀ size, tableFont c = .ok size → (size == 0.0) = false)
    (hmeasured : b.measured) : Steady b [] (paintTable j c s) [] := by
  refine (Steady.ofExcept _).bind fun spec => (Steady.ofExcept _).bind fun found => ?_
  split
  · refine .ofExcept_bind fun size hread => ?_
    refine .get (fun v w h => ?_) fun u => ?_
    · have hbottom : j.usableBottom v.canvas = j.usableBottom w.canvas := by
        rw [Job.usableBottom, Job.usableBottom, h.canvas.height]
      rw [hbottom]
    · refine .ite (fun _ => .pure _) fun _ => (steady_headerStyle hfamily spec fun _ => hsize size hread).bind fun _ => ?_
      refine (steady_encodeAll (by simp) _).bind fun headers => ?_
      refine (steady_paintRow hmeasured (by simp [Call.uses]) _ _ _ _ headers).bind fun _ => ?_
      refine (Steady.setFont hfamily _ fun _ => hsize size hread).bind fun _ => ?_
      exact (steady_paintRows hmeasured (by simp [Call.uses]) _ _ _ _ _ _ _).weaken (List.nil_subset _)
  · exact .pure _

/-! ## Shapes and images -/

/-- the tools of an outline and of a filling -/
def shapeTools (stroke fill : Option Rgb) : List Tool :=
  (if stroke.isSome then [.lineWidth, .drawColour] else []) ++ if fill.isSome then [.fillColour] else []

theorem steady_chooseFill (fill : Option Rgb) : Steady b [] (chooseFill fill) (shapeTools none fill) := by
  cases fill with
  | none => exact .pure _
  | some rgb => exact .setFillColour rgb

theorem steady_chooseStroke (width : Value) (stroke fill : Option Rgb) :
    Steady b (shapeTools none fill) (chooseStroke width stroke) (shapeTools stroke fill) := by
  cases stroke with
  | none => exact .pure _
  | some rgb =>
    refine (Steady.setDrawColour rgb).bind fun _ => (Steady.ofExcept _).bind fun x => ?_
    exact .lineWidth x

/-- the letters of a shape's style call for the tools that were brought to hand -/
theorem rect_uses (x y w h : Float) (stroke fill : Option Rgb) :
    (Call.rect x y w h (shapeStyle stroke fill)).uses ⊆ shapeTools stroke fill := by
  cases stroke <;> cases fill <;> simp [Call.uses, shapeStyle, shapeTools]

theorem steady_paintRectangle : Steady b [] (paintRectangle j c s) [] := by
  refine (Steady.ofExcept _).bind fun fill => (Steady.ofExcept _).bind fun stroke => ?_
  refine (steady_chooseFill fill).bind fun _ => (steady_chooseStroke _ stroke fill).bind fun _ => ?_
  refine .ite (fun _ => (Steady.pure _).weaken (List.nil_subset _)) fun _ => ?_
  refine (Steady.call rfl (by simp [Call.tool?]) (rect_uses ..)).bind fun _ => ?_
  exact (Steady.record _ _ _ _).weaken (List.nil_subset _)

theorem steady_paintLine : Steady b [] (paintLine j c s) [] := by
  refine (Steady.ofExcept _).bind fun colour => (Steady.setDrawColour _).bind fun _ => ?_
  refine (Steady.ofExcept _).bind fun width => (Steady.lineWidth width).bind fun _ => ?_
  refine (Steady.call rfl (by simp [Call.tool?]) (by simp [Call.uses])).bind fun _ => ?_
  exact (Steady.record _ _ _ _).weaken (List.nil_subset _)

theorem steady_paintImage : Steady b [] (paintImage j c s) [] := by
  refine (Steady.ofExcept _).bind fun named => ?_
  split
  · exact .pure _
  · refine (Steady.load _ _).bind fun image => (Steady.image _ _ _ _).bind fun _ => ?_
    exact .record _ _ _ _

/-! ## Components -/

/-- painting the component measures texts -/
def measures (c : Component) : Prop := c.kind = .table ∨ c.kind = .text ∧ wraps c = true

theorem steady_paint (hfull : AsksInFull j c) (s : Spot) (hmeasured : b.measured ↔ measures c) :
    Steady b [] (paint j c s) [] := by
  unfold paint
  cases hkind : c.kind with
  | text =>
    refine steady_paintText (hfull.textFamily hkind) (fun h => ?_) fun hwraps => hmeasured.2 (.inr ⟨hkind, hwraps⟩)
    rcases hmeasured.1 h with htable | ⟨-, hwraps⟩
    · cases hkind.symm.trans htable
    · exact hfull.textSize hkind hwraps
  | image => exact steady_paintImage
  | table => exact steady_paintTable (hfull.tableFamily hkind) (hfull.tableSize hkind) (hmeasured.2 (.inl hkind))
  | rectangle => exact steady_paintRectangle
  | line => exact steady_paintLine
  | chart => exact .pure _

theorem steady_render (hfull : AsksInFull j c) (s : Spot) (hmeasured : b.measured ↔ measures c) :
    Steady b [] (render j c s) [] := by
  refine (Steady.ofNoting _).bind fun holds => .ite (fun _ => .tryCatch ?_ fun f => ?_) fun _ => .pure _
  · exact (steady_paint hfull s hmeasured).bind fun _ => .pure _
  · refine .get (fun v w h => ?_) fun u => .pure _
    rw [h.canvas.pages]

/-- **Painting a component** whose font is asked for in full, in two documents that agree in all but what is at hand and
what was drawn: the same calls, which draw with nothing but what they have brought to hand, the same entries, and the
same issue -/
theorem render_unmoved (hfull : AsksInFull j c) (s : Spot) {v w : Work} (h : v.Level w) :
    ∃ r v' w' calls entries, (render j c s).run.run v = (r, v') ∧ (render j c s).run.run w = (r, w') ∧
      v'.canvas.calls = v.canvas.calls ++ calls ∧ w'.canvas.calls = w.canvas.calls ++ calls ∧ SelfContained calls ∧
      v'.trace = v.trace ++ entries ∧ w'.trace = w.trace ++ entries ∧ v'.Level w' := by
  have hstart : Pair.At ⟨measures c, v, w⟩ [] v w := by
    refine ⟨[], ⟨h, (List.append_nil _).symm, (List.append_nil _).symm, .nil, ?_⟩, by simp⟩
    rintro ⟨c, hc, -⟩
    cases hc
  have hends := (steady_render (b := ⟨measures c, v, w⟩) hfull s Iff.rfl).ends v w hstart
  obtain ⟨entries, htrace, -⟩ := ((grows_render (c := c) (Q := fun _ => True) j s).run v).trace
  rcases hv : (render j c s).run.run v with ⟨r, v'⟩
  rcases hw : (render j c s).run.run w with ⟨t, w'⟩
  rw [hv] at htrace
  rw [hv, hw] at hends
  obtain ⟨rfl, calls, hafter, -⟩ := hends.alike
  refine ⟨r, v', w', calls, entries, rfl, rfl, hafter.left, hafter.right, hafter.contained, htrace, ?_, hafter.level⟩
  rw [← hafter.level.trace, htrace, h.trace]

namespace Words

/-- two words in a room that is just as wide as they are in ten points -/
def words (style : Fields) : Component :=
  { id := "words", kind := .text, content := .string "ab ab", dimensions := some ⟨8.8265, 10.0⟩, style := style }

def job : Job :=
  { template := { id := "words", displayName := "Words", config := {}, sections := [] }, settings := {}
    assets := { fetchers := { web := fun _ => .silence } } }

def spot : Spot := ⟨⟨10.0, 20.0⟩, .null, none⟩

/-- a page with a font at hand -/
def page (family : String) (size : Float) : Work :=
  { canvas := { width := 210.0, height := 297.0, pages := 1, family := family, fontSize := size } }

def rendered (style : Fields) (w : Work) : Except Failure (Option Issue) × Work :=
  (render job (words style) spot).run.run w

theorem level {family other : String} {x y : Float} (h : Canvas.isBuiltIn (family, "") = true)
    (h' : Canvas.isBuiltIn (other, "") = true) : (page family x).Level (page other y) :=
  ⟨⟨rfl, rfl, rfl, rfl, .inr (.inl h), .inr (.inl h')⟩, rfl, rfl, rfl, rfl⟩

/-- without a style of their own the words ask for the default font -/
theorem asksInFull : AsksInFull job (words []) := by
  refine ⟨fun _ => by decide +kernel, fun _ _ size hsize => ?_, nofun, nofun⟩
  obtain rfl : defaultFontSize = size := by injection hsize
  decide +kernel

end Words

/-- in courier or in helvetica, large or small: the words are set in ten points -/
theorem render_unmoved_sample : AsksInFull Words.job (Words.words []) ∧
    (Words.page "courier" 24.0).Level (Words.page "helvetica" 8.0) ∧
    ∃ r v' w' calls entries, Words.rendered [] (Words.page "courier" 24.0) = (r, v') ∧
      Words.rendered [] (Words.page "helvetica" 8.0) = (r, w') ∧ v'.canvas.calls = [] ++ calls ∧
      w'.canvas.calls = [] ++ calls ∧ SelfContained calls ∧ v'.trace = [] ++ entries ∧ w'.trace = [] ++ entries ∧
      v'.Level w' := by
  have hlevel : (Words.page "courier" 24.0).Level (Words.page "helvetica" 8.0) :=
    Words.level (by decide +kernel) (by decide +kernel)
  exact ⟨Words.asksInFull, hlevel, render_unmoved Words.asksInFull Words.spot hlevel⟩

/-- the text `0` as a size is a size, and it is zero: the words are set in the size at hand, and broken where that is too
large -/
theorem zero_size_moves_lines :
    (Words.page "helvetica" 10.0).Level (Words.page "helvetica" 24.0) ∧
      (Words.rendered [("fontSize", .string "0")] (Words.page "helvetica" 10.0)).2.trace.map (·.text) = ["ab ab"] ∧
      (Words.rendered [("fontSize", .string "0")] (Words.page "helvetica" 24.0)).2.trace.map (·.text) ≠ ["ab ab"] := by
  refine ⟨Words.level ?_ ?_, ?_, ?_⟩ <;> decide +kernel

end Paint

end ReportPress
