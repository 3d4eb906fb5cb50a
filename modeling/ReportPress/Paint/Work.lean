import ReportPress.Asset.Resolver
import ReportPress.Page.Canvas
import ReportPress.Template.Basic
/-!
Work on a document: the surface at hand, what was painted where, the issues met, the notes made, and who was asked for
images. Painting may fail at any step; what was done before the failure stays.
-/

namespace ReportPress

/-- kinds of painted things -/
inductive Mark where
  | text
  | image
  | tableHeader
  | tableRow
  | rectangle
  | line
  | placeholder
  | footer
deriving DecidableEq, Repr

def Mark.name : Mark → String
  | .text => "text"
  | .image => "image"
  | .tableHeader => "table-header"
  | .tableRow => "table-row"
  | .rectangle => "rectangle"
  | .line => "line"
  | .placeholder => "placeholder"
  | .footer => "footer"

/-- something painted: by which component, on which page, where, and its text -/
structure Painted where
  page : Nat
  component : String
  mark : Mark
  text : String
  x : Float
  y : Float

/-- a component that could not be painted -/
structure Issue where
  component : String
  kind : ComponentKind
  page : Nat
  failure : Failure

/-- what stands for a failure without words -/
def wordlessFailure : String := "AssetError"

def Issue.message (i : Issue) : String :=
  if i.failure.message = "" then wordlessFailure else i.failure.message

structure Work where
  canvas : Canvas
  trace : List Painted := []
  issues : List Issue := []
  notes : List Note := []
  requests : List Request := []

abbrev Painting (α : Type) := ExceptT Failure (StateM Work) α

namespace Painting

/-- a step on the surface -/
def draw (f : Canvas → Except Failure Canvas) : Painting Unit := fun w =>
  match f w.canvas with
  | .ok c => (.ok (), { w with canvas := c })
  | .error e => (.error e, w)

/-- a step on the surface that never fails -/
def call (c : Call) (h : c.isCarriedOut = true) : Painting Unit :=
  modify fun w => { w with canvas := w.canvas.carryOut c h }

def ofExcept (r : Except Failure α) : Painting α := fun w => (r, w)

/-- a computation with notes, as part of the work -/
def ofNoting (x : Noting α) : Painting α := fun w =>
  let (r, notes) := x.run.run w.notes
  (r, { w with notes := notes })

def note (n : Note) : Painting Unit := modify fun w => { w with notes := w.notes ++ [n] }

def warn (topic : Topic) (text : String) : Painting Unit := note ⟨.warning, topic, text⟩

/-- the width of a text in the font at hand -/
def measure (cs : List Char) : Painting Float := fun w => (w.canvas.textWidth cs, w)

/-- enters something painted into the trace, its place in thousandths of a millimetre -/
def record (component : String) (mark : Mark) (place : Point) (text : String) : Painting Unit :=
  modify fun w =>
    { w with trace := w.trace ++
        [⟨w.canvas.pages, component, mark, text, roundThousandths place.x, roundThousandths place.y⟩] }

/-- an image, with a record of who was asked for it -/
def load (assets : Assets) (source : Value) : Painting PreparedImage := fun w =>
  let (r, requests) := assets.loadAfter w.requests source
  (r, { w with requests := requests })

/-- the computation, or what follows a failure of it that is let off -/
def orElse (x : Painting α) (isLetOff : Failure → Bool) (other : Failure → Painting α) : Painting α :=
  tryCatch x fun f => if isLetOff f then other f else throw f

end Painting

end ReportPress
