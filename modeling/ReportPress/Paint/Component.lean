import ReportPress.Paint.Image
import ReportPress.Paint.Shape
import ReportPress.Paint.Table
import ReportPress.Paint.Text
/-!
Painting components. A component whose conditions do not hold is left out. One that cannot be painted is an issue, with
a note; an image or a table then has a placeholder in its place.
-/

namespace ReportPress.Paint

/-- paints by kind; charts have no form of their own yet -/
def paint (j : Job) (c : Component) (s : Spot) : Painting Unit :=
  match c.kind with
  | .text => paintText j c s
  | .image => paintImage j c s
  | .table => paintTable j c s
  | .rectangle => paintRectangle j c s
  | .line => paintLine j c s
  | .chart => return

/-- paints a component; the issue if that fails. A condition that cannot be decided is a failure -/
def render (j : Job) (c : Component) (s : Spot) : Painting (Option Issue) := do
  if ← Painting.ofNoting (Condition.allHold s.scope none c.conditions) then
    tryCatch (do paint j c s; return none) fun f => do
      return some ⟨c.id, c.kind, (← get).canvas.pages, f⟩
  else return none

/-- what a placeholder says -/
def placeholderLabel : ComponentKind → Option String
  | .image => some "Image unavailable"
  | .table => some "Table unavailable"
  | _ => none

def placeholderSize : Size := ⟨50.0, 30.0⟩

def placeholderFill : Rgb := ⟨240, 240, 240⟩

def placeholderColour : Rgb := ⟨110, 110, 110⟩

def placeholderFontSize : Float := 8.0

def paintPlaceholder (c : Component) (origin : Point) (label : String) : Painting Unit := do
  let size := c.size?.getD placeholderSize
  Painting.draw (·.setFillColour placeholderFill)
  Painting.call (.rect origin.x origin.y size.width size.height "F") rfl
  Painting.draw (·.setFont defaultFamily "" placeholderFontSize)
  Painting.draw (·.setTextColour placeholderColour)
  let text ← Text.fit Painting.measure (Length.larger (size.width - 4.0) 1.0) label.toList
  let drop := Length.smaller (size.height / 2.0) (size.height - 1.0)
  Painting.draw (·.text (origin.x + 2.0) (origin.y + drop) (String.ofList text))
  Painting.draw (·.setTextColour .black)
  Painting.record c.id .placeholder origin label

/-- enters an issue, and paints a placeholder if the component has one -/
def fallBack (c : Component) (origin : Point) (issue : Issue) : Painting Unit := do
  Painting.warn .painting
    ("Component " ++ issue.component ++ " (" ++ issue.kind.name ++ ") failed on page " ++ Nat.repr issue.page ++ ": " ++
      issue.message)
  modify fun w => { w with issues := w.issues ++ [issue] }
  match placeholderLabel c.kind with
  | none => return
  | some label =>
    (paintPlaceholder c origin label).orElse Failure.isStyleFault fun f =>
      Painting.warn .painting ("Placeholder for " ++ c.id ++ " could not be drawn: " ++ f.message)

/-- paints a component, or what stands for it -/
def place (j : Job) (c : Component) (s : Spot) : Painting Unit := do
  match ← render j c s with
  | none => return
  | some issue => fallBack c s.origin issue

end ReportPress.Paint
