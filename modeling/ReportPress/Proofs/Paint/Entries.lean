import ReportPress.Flow.Footer
import ReportPress.Proofs.Paint.Growth
import ReportPress.Proofs.Text.Gauge
/-!
Which entries painting adds to the trace. Whatever becomes of a component, all that is entered on its behalf bears its
name and is no footer, and only the fallback enters placeholders; what a footer enters is a footer. Beyond that, painting
only makes the work grow.

- `Job.run_encode`: a text is encoded for the family at hand.
- `grows_paint`: the painters of components.
- `grows_place`: painting a component, the issue and the placeholder of a failure included.
- `grows_footer`: drawing a footer.
-/

namespace ReportPress

/-- an entry on behalf of a component -/
def Painted.IsOf (c : Component) (p : Painted) : Prop := p.component = c.id ∧ p.mark ≠ .footer

/-- an entry of a component's own painter -/
def Painted.IsBodyOf (c : Component) (p : Painted) : Prop :=
  p.component = c.id ∧ p.mark ≠ .footer ∧ p.mark ≠ .placeholder

theorem Painted.IsBodyOf.isOf {c : Component} {p : Painted} (h : p.IsBodyOf c) : p.IsOf c := ⟨h.1, h.2.1⟩

/-- an entry of a footer -/
def Painted.IsFooter (p : Painted) : Prop := p.component = Footer.component ∧ p.mark = .footer

theorem Painting.grows_of_gauges {α : Type} {P : Painted → Prop} {Q : Issue → Prop} {x : Painting α}
    {fits : Work → Prop} {R : Work → α → Prop} (h : ∀ w, Gauges w x (fits w) (R w)) : Grows P Q x := by
  refine ⟨fun w => ?_⟩
  rw [(h w).state]
  exact .refl w

/-- a text as a font of the family can show it -/
def Job.encodeIn (j : Job) (family text : String) : String :=
  if j.fileFamilies.contains family then text else Text.latin text

theorem Job.run_encode (j : Job) (text : String) (w : Work) :
    (j.encode text).run.run w = (.ok (j.encodeIn w.canvas.family text), w) := by
  show (ite _ (pure text) (pure (Text.latin text)) : Painting String).run.run w = _
  unfold Job.encodeIn
  split <;> rfl

namespace Paint

open Painting

variable {P : Painted → Prop} {Q : Issue → Prop} {c : Component}

theorem grows_recordOf {mark : Mark} (hmark : mark ≠ .footer ∧ mark ≠ .placeholder) (place : Point) (text : String) :
    Grows (Painted.IsBodyOf c) Q (record c.id mark place text) := grows_record place text fun _ _ _ => ⟨rfl, hmark⟩

theorem grows_encode (j : Job) (text : String) : Grows P Q (j.encode text) :=
  grows_get.bind fun _ => .ite (.pure _) (.pure _)

/-! ## Texts -/

theorem grows_styleText (j : Job) (s : Spot) : Grows P Q (styleText j c s) := by
  refine .orElse ?_ fun f => (grows_note _).bind fun _ => ?_
  · exact (grows_ofExcept _).bind fun size => (grows_ofExcept _).bind fun colour =>
      (grows_setFont ..).bind fun _ => (grows_setTextColour _).bind fun _ => .pure size
  · exact (grows_setFont ..).bind fun _ => (grows_setTextColour _).bind fun _ => .pure _

theorem grows_textLines (text : String) : Grows P Q (textLines c text) := by
  unfold textLines
  split
  · exact .ite (grows_of_gauges fun _ => Text.gauges_wrap _) (.pure _)
  · exact .pure _

theorem grows_paintLines (origin : Point) (step : Float) (i : ℕ) (lines : List (List Char)) :
    Grows P Q (paintLines origin step i lines) := by
  induction lines generalizing i with
  | nil => exact .pure ()
  | cons line rest ih =>
    unfold paintLines
    split
    · exact (Grows.pure PUnit.unit).bind fun _ => ih (i + 1)
    · exact (grows_text ..).bind fun _ => ih (i + 1)

theorem grows_paintText (j : Job) (s : Spot) : Grows (Painted.IsBodyOf c) Q (paintText j c s) := by
  refine (grows_ofExcept _).bind fun text => .ite (.pure ()) ?_
  exact (grows_styleText j s).bind fun size => (grows_encode j text).bind fun text => (grows_textLines text).bind
    fun lines => (grows_paintLines ..).bind fun _ => (grows_setTextColour _).bind fun _ => grows_recordOf (by decide) ..

/-! ## Tables -/

theorem grows_paintCells (x y height : Float) (fill : Bool) (cells : List (Float × String)) :
    Grows P Q (paintCells x y height fill cells) := by
  induction cells generalizing x with
  | nil => exact .pure ()
  | cons cell rest ih =>
    exact (grows_call _).bind fun _ => (grows_of_gauges fun _ => Text.gauges_fit _).bind fun shown =>
      (grows_cell ..).bind fun _ => ih _

theorem run_encodeAll (j : Job) (texts : List String) (w : Work) :
    (encodeAll j texts).run.run w = (.ok (texts.map (j.encodeIn w.canvas.family)), w) := by
  induction texts with
  | nil => rfl
  | cons t rest ih =>
    unfold encodeAll
    rw [Effect.run_bind, j.run_encode]
    dsimp only
    rw [Effect.run_bind, ih]
    rfl

theorem grows_encodeAll (j : Job) (texts : List String) : Grows P Q (encodeAll j texts) := by
  induction texts with
  | nil => exact .pure []
  | cons t rest ih => exact (grows_encode j t).bind fun t' => ih.bind fun rest' => .pure (t' :: rest')

theorem grows_paintRow {mark : Mark} (hmark : mark ≠ .footer ∧ mark ≠ .placeholder) (place : Point) (height : Float)
    (widths : List Float) (fill : Bool) (texts : List String) :
    Grows (Painted.IsBodyOf c) Q (paintRow c mark place height widths fill texts) :=
  (grows_paintCells ..).bind fun _ => grows_recordOf hmark ..

theorem grows_paintRows (j : Job) (columns : List Column) (widths : List Float) (x : Float) (limits : RowLimits)
    (y : Float) (i : ℕ) (rows : List Value) :
    Grows (Painted.IsBodyOf c) Q (paintRows j c columns widths x limits y i rows) := by
  induction rows generalizing y i with
  | nil => exact .pure ()
  | cons row rest ih =>
    refine .ite (.pure ()) ?_
    exact (grows_ofExcept _).bind fun cells => (grows_encodeAll j cells).bind fun texts =>
      (grows_paintRow (by decide) ..).bind fun _ => ih _ _

theorem grows_headerStyle (j : Job) (s : Spot) (spec : TableSpec) (size : Float) :
    Grows P Q (headerStyle j c s spec size) :=
  (grows_ofExcept _).bind fun _ => (grows_ofExcept _).bind fun _ => (grows_setDrawColour _).bind fun _ =>
    (grows_call _).bind fun _ => (grows_setFillColour _).bind fun _ => (grows_setFont ..).bind fun _ =>
      grows_setTextColour _

theorem grows_paintTable (j : Job) (s : Spot) : Grows (Painted.IsBodyOf c) Q (paintTable j c s) := by
  refine (grows_ofExcept _).bind fun spec => (grows_ofExcept _).bind fun found => ?_
  split
  · refine (grows_ofExcept _).bind fun size => grows_get.bind fun w => .ite (.pure ()) ?_
    exact (grows_headerStyle j s spec size).bind fun _ => (grows_encodeAll ..).bind fun headers =>
      (grows_paintRow (by decide) ..).bind fun _ => (grows_setFont ..).bind fun _ => grows_paintRows ..
  · exact .pure ()

/-! ## Shapes and images -/

theorem grows_chooseFill (fill : Option Rgb) : Grows P Q (chooseFill fill) := by
  cases fill with
  | none => exact .pure ()
  | some rgb => exact grows_setFillColour rgb

theorem grows_chooseStroke (width : Value) (stroke : Option Rgb) : Grows P Q (chooseStroke width stroke) := by
  cases stroke with
  | none => exact .pure ()
  | some rgb => exact (grows_setDrawColour rgb).bind fun _ => (grows_ofExcept _).bind fun _ => grows_call _

theorem grows_paintRectangle (j : Job) (s : Spot) : Grows (Painted.IsBodyOf c) Q (paintRectangle j c s) :=
  (grows_ofExcept _).bind fun fill => (grows_ofExcept _).bind fun stroke => (grows_chooseFill fill).bind fun _ =>
    (grows_chooseStroke _ stroke).bind fun _ => .ite (.pure ()) <|
      (grows_call _).bind fun _ => grows_recordOf (by decide) ..

theorem grows_paintLine (j : Job) (s : Spot) : Grows (Painted.IsBodyOf c) Q (paintLine j c s) :=
  (grows_ofExcept _).bind fun _ => (grows_setDrawColour _).bind fun _ => (grows_ofExcept _).bind fun _ =>
    (grows_call _).bind fun _ => (grows_call _).bind fun _ => grows_recordOf (by decide) ..

theorem grows_paintImage (j : Job) (s : Spot) : Grows (Painted.IsBodyOf c) Q (paintImage j c s) := by
  refine (grows_ofExcept _).bind fun named => ?_
  split
  · exact .pure ()
  · exact (grows_load ..).bind fun image => (grows_image _ _ _ _).bind fun _ => grows_recordOf (by decide) ..

/-! ## Any component, and footers -/

theorem grows_paint (j : Job) (s : Spot) : Grows (Painted.IsBodyOf c) Q (paint j c s) := by
  unfold paint
  split
  · exact grows_paintText j s
  · exact grows_paintImage j s
  · exact grows_paintTable j s
  · exact grows_paintRectangle j s
  · exact grows_paintLine j s
  · exact .pure ()

theorem grows_render (j : Job) (s : Spot) : Grows (Painted.IsBodyOf c) Q (render j c s) := by
  refine (grows_ofNoting _).bind fun holds => .ite ?_ (.pure none)
  exact .tryCatch ((grows_paint j s).bind fun _ => .pure none) fun f => grows_get.bind fun w => .pure _

theorem grows_paintPlaceholder (origin : Point) (label : String) :
    Grows (Painted.IsOf c) Q (paintPlaceholder c origin label) :=
  (grows_setFillColour _).bind fun _ => (grows_call _).bind fun _ => (grows_setFont ..).bind fun _ =>
    (grows_setTextColour _).bind fun _ => (grows_of_gauges fun _ => Text.gauges_fit _).bind fun _ =>
      (grows_text ..).bind fun _ => (grows_setTextColour _).bind fun _ => grows_record _ _ fun _ _ _ => ⟨rfl, nofun⟩

theorem grows_fallBack (origin : Point) {i : Issue} (h : Q i) :
    Grows (Painted.IsOf c) Q (fallBack c origin i) := by
  refine (grows_note _).bind fun _ => (grows_issue h).bind fun _ => ?_
  split
  · exact .pure ()
  · exact (grows_paintPlaceholder ..).orElse fun f => grows_note _

/-- **Painting a component** enters only what bears the component's name, and no footer -/
theorem grows_place (j : Job) (c : Component) (s : Spot) :
    Grows (Painted.IsOf c) (fun _ => True) (place j c s) := by
  refine ((grows_render j s).mono (fun _ => Painted.IsBodyOf.isOf) fun _ => id).bind fun issue => ?_
  split
  · exact .pure ()
  · exact grows_fallBack _ trivial

/-- **Drawing a footer** enters only footers, and no issue -/
theorem grows_footer (j : Job) : Grows Painted.IsFooter (fun _ => False) (Footer.draw j) := by
  refine .ite (.pure ()) (grows_get.bind fun w => ?_)
  exact (grows_setDrawColour _).bind fun _ => (grows_call _).bind fun _ => (grows_call _).bind fun _ =>
    (grows_setFont ..).bind fun _ => (grows_setTextColour _).bind fun _ => (grows_encode ..).bind fun title =>
      (grows_text ..).bind fun _ => (grows_encode ..).bind fun label => (grows_measure _).bind fun width =>
        (grows_text ..).bind fun _ => (grows_setTextColour _).bind fun _ => grows_record _ _ fun _ _ _ => ⟨rfl, rfl⟩

end Paint

end ReportPress
