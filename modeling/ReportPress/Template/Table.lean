import ReportPress.Template.Field
import ReportPress.Page.Geometry
/-!
Tables that table components describe, and the widths of their columns.

The widths always make up the whole width: columns without a width of their own share what the others leave, and all are
then stretched or shrunk together; without any width to go by, all columns are alike.
-/

namespace ReportPress

structure Column where
  field : String
  header : String
  width : Option Float := none

structure TableSpec where
  columns : List Column
  rowHeight : Float
  headerFill : Value := .null
  headerWeight : String := "bold"

namespace TableSpec

def readColumn (i : Nat) (v : Value) : Except Failure Column :=
  match v with
  | .object _ c =>
    match Fields.getD c "field" with
    | .null => finish c ""
    | .string s => finish c (Text.trim s)
    | _ => .error (.table (.columnField i))
  | _ => .error (.table (.column i))
where
  finish (c : Fields) (field : String) : Except Failure Column := do
    let header := ((Fields.get? c "header").getD (.string field)).bare
    let width ← Template.number? (Fields.getD c "width") (Template.indexed "columns" i ++ ".width")
    return ⟨field, header, width⟩

/-- the row height that is written first: of rows, else of cells -/
def heightField (c : Fields) : Value := (Fields.get? c "rowHeight").getD (Fields.getD c "cellHeight")

/-- a height above zero, else the default -/
def heightOr (default : Float) : Option Float → Float
  | some h => if 0.0 < h then h else default
  | none => default

/-- fill and weight of the header row -/
def headerStyle (v : Value) : Value × String :=
  match v with
  | .object _ h =>
    let weight := Fields.getD h "fontWeight"
    (Fields.getD h "backgroundColor", if weight.filled then weight.bare else "bold")
  | _ => (.null, "bold")

/-- the table that a component's content describes -/
def read (content : Value) (defaultHeight : Float) : Except Failure TableSpec :=
  match content with
  | .object _ c =>
    match Fields.getD c "columns" with
    | .list _ [] => .error (.table .noColumn)
    | .list _ raw => do
      let columns ← Template.mapItems readColumn 0 raw
      let height ← Template.number? (heightField c) "rowHeight"
      let (fill, weight) := headerStyle (Fields.getD c "headerStyle")
      return ⟨columns, heightOr defaultHeight height, fill, weight⟩
    | _ => .error (.table .columns)
  | _ => .error (.table .content)

end TableSpec

section Widths

variable {α : Type} [Length α]

/-- a width of zero is no width -/
def givenWidth? (w : Option α) : Option α :=
  match w with
  | some x => if Length.atMost x Length.zero && Length.atMost Length.zero x then none else some x
  | none => none

/-- the width of each column that has none of its own -/
def fillerWidth (total : α) (widths : List (Option α)) : α :=
  let given := widths.filterMap givenWidth?
  let unknown := widths.length - given.length
  if unknown = 0 then Length.zero
  else Length.larger (total - Length.sum given) Length.zero / Length.ofCount unknown

/-- the widths of columns that together are `total` wide -/
def columnWidths (total : α) (widths : List (Option α)) : List α :=
  let filler := fillerWidth total widths
  let filled := widths.map fun w => (givenWidth? w).getD filler
  let sum := Length.sum filled
  if Length.atMost sum Length.zero then List.replicate widths.length (total / Length.ofCount widths.length)
  else
    let scale := total / sum
    filled.map (· * scale)

end Widths

end ReportPress
