import ReportPress.Paint.Job
/-!
Painting rectangles and lines. A rectangle is painted if it has a colour to be filled with, or a border with a width and
a colour; a named border stands in for what the component's own style leaves out.
-/

namespace ReportPress.Paint

def defaultRectangle : Size := ⟨50.0, 20.0⟩

def defaultLine : Size := ⟨100.0, 0.0⟩

def defaultLineWidth : Float := 0.3

/-- colour and width of a border -/
def borderOf (j : Job) (style : Fields) : Value × Value :=
  let name := style.getD "border"
  let colour := style.getD "borderColor"
  let width := style.getD "borderWidth"
  match Fields.get? j.template.styles.borders (if name.filled then name.bare else "") with
  | some b =>
    (if colour.filled then colour else .string b.colour, if width.filled then width else .float b.width)
  | none => (colour, width)

/-- chooses the colour that a shape is filled with, if it is -/
def chooseFill : Option Rgb → Painting Unit
  | none => return
  | some c => Painting.draw (·.setFillColour c)

/-- chooses colour and width of a border, if there is one -/
def chooseStroke (width : Value) : Option Rgb → Painting Unit
  | none => return
  | some c => do
    Painting.draw (·.setDrawColour c)
    Painting.call (.lineWidth (← Painting.ofExcept width.toNumber)) rfl

/-- how a shape is painted -/
def shapeStyle (stroke fill : Option Rgb) : String :=
  (if stroke.isSome then "D" else "") ++ if fill.isSome then "F" else ""

def paintRectangle (j : Job) (c : Component) (s : Spot) : Painting Unit := do
  let size := c.size?.getD defaultRectangle
  let fill ← Painting.ofExcept (j.colour (c.style.getD "fillColor") s none)
  let (colour, width) := borderOf j c.style
  let stroke ← Painting.ofExcept (if width.filled then j.colour colour s none else .ok none)
  chooseFill fill
  chooseStroke width stroke
  if fill.isNone && stroke.isNone then return
  Painting.call (.rect s.origin.x s.origin.y size.width size.height (shapeStyle stroke fill)) rfl
  Painting.record c.id .rectangle s.origin ""

def paintLine (j : Job) (c : Component) (s : Spot) : Painting Unit := do
  let size := c.size?.getD defaultLine
  let colour ← Painting.ofExcept (j.colour (c.style.getD "color") s (some .black))
  Painting.draw (·.setDrawColour (colour.getD .black))
  Painting.call (.lineWidth (← Painting.ofExcept (styleNumber (c.style.getD "width") defaultLineWidth))) rfl
  Painting.call (.line s.origin.x s.origin.y (s.origin.x + size.width) (s.origin.y + size.height)) rfl
  Painting.record c.id .line s.origin ""

end ReportPress.Paint
