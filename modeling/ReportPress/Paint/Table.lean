import ReportPress.Paint.Job
import ReportPress.Template.Table
import ReportPress.Text.Wrap
/-!
Painting tables: a header row and a row for each item of the list that the component is bound to. Rows stop where the
usable height of the page or the number of rows is used up; the texts of cells are cut to fit.
-/

namespace ReportPress.Paint

def defaultTableWidth : Float := 100.0

def tableFontSize : Float := 10.0

def headerFill : Rgb := ⟨200, 200, 200⟩

def tableBorder : Rgb := ⟨180, 180, 180⟩

def tableLineWidth : Float := 0.2

def cellText (row : Value) (column : Column) : Except Failure String :=
  if column.field = "" then .ok ""
  else (Record.resolve row column.field).map Record.displayFound

/-- the texts of cells in their columns, from `x` on -/
def paintCells (x y height : Float) (fill : Bool) : List (Float × String) → Painting Unit
  | [] => return
  | (width, text) :: rest => do
    Painting.call (.moveTo x y) rfl
    let room := Length.larger (width - 2.0 * Canvas.cellMargin) 1.0
    let shown ← Text.fit Painting.measure room text.toList
    Painting.draw (·.cell width height (String.ofList shown) fill)
    paintCells (x + width) y height fill rest

def encodeAll (j : Job) : List String → Painting (List String)
  | [] => return []
  | t :: rest => return (← j.encode t) :: (← encodeAll j rest)

def cellTexts (row : Value) : List Column → Except Failure (List String)
  | [] => .ok []
  | c :: rest => return (← cellText row c) :: (← cellTexts row rest)

/-- paints a row and enters it into the trace -/
def paintRow (c : Component) (mark : Mark) (place : Point) (height : Float) (widths : List Float) (fill : Bool)
    (texts : List String) : Painting Unit := do
  paintCells place.x place.y height fill (widths.zip texts)
  Painting.record c.id mark place (" | ".intercalate texts)

/-- where rows end: how many more there may be, and how far down -/
structure RowLimits where
  height : Float
  bottom : Float
  count : Int

/-- the rows for the items, the first at `y`; `i` counts them -/
def paintRows (j : Job) (c : Component) (columns : List Column) (widths : List Float) (x : Float) (limits : RowLimits) :
    Float → Nat → List Value → Painting Unit
  | _, _, [] => return
  | y, i, row :: rest => do
    if limits.count ≤ i || y + limits.height > limits.bottom then return
    else
      let texts ← encodeAll j (← Painting.ofExcept (cellTexts row columns))
      paintRow c .tableRow ⟨x, y⟩ limits.height widths false texts
      paintRows j c columns widths x limits (y + limits.height) (i + 1) rest

/-- the width of a table: the component's own, if there is one above zero -/
def tableWidth (c : Component) : Float :=
  match c.size? with
  | some size => if 0.0 < size.width then size.width else defaultTableWidth
  | none => defaultTableWidth

/-- colours and font of the header row -/
def headerStyle (j : Job) (c : Component) (s : Spot) (spec : TableSpec) (fontSize : Float) : Painting Unit := do
  let fill ← Painting.ofExcept (j.colour spec.headerFill s (some headerFill))
  let border ← Painting.ofExcept (j.colour (c.style.getD "borderColor") s (some tableBorder))
  Painting.draw (·.setDrawColour (border.getD tableBorder))
  Painting.call (.lineWidth tableLineWidth) rfl
  Painting.draw (·.setFillColour (fill.getD headerFill))
  Painting.draw (·.setFont j.family (Font.styleOf (.string spec.headerWeight)) fontSize)
  Painting.draw (·.setTextColour .black)

def paintTable (j : Job) (c : Component) (s : Spot) : Painting Unit := do
  let spec ← Painting.ofExcept (TableSpec.read c.content j.settings.layout.tableRowHeight)
  match ← Painting.ofExcept (Record.resolve s.scope (c.dataBinding.getD "")) with
  | some (.list _ rows) =>
    let widths := columnWidths (tableWidth c) (spec.columns.map (·.width))
    let fontSize ← Painting.ofExcept (styleNumber (c.style.getD "fontSize") tableFontSize)
    let bottom := j.usableBottom (← get).canvas
    if s.origin.y + spec.rowHeight > bottom then return
    headerStyle j c s spec fontSize
    let headers ← encodeAll j (spec.columns.map (·.header))
    paintRow c .tableHeader s.origin spec.rowHeight widths true headers
    Painting.draw (·.setFont j.family "" fontSize)
    paintRows j c spec.columns widths s.origin.x ⟨spec.rowHeight, bottom, j.settings.layout.tableMaxRows⟩
      (s.origin.y + spec.rowHeight) 0 rows
  | _ => return

end ReportPress.Paint
