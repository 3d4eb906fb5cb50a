import ReportPress.Flow.Cursor
import ReportPress.Flow.Footer
import ReportPress.Flow.Instance
import ReportPress.Paint.Component
/-!
Laying out a document. Sections are visited from the top of the page down. An anchored instance is painted where its
section is declared, on whatever page is at hand; a repeated one where the cursor is, after a page break if the cursor
waits for one. Every page break, and the end of the document, draw the footer of the page that ends.
-/

namespace ReportPress

/-- where an instance was put -/
structure Placement where
  part : Section
  content : Instance
  page : Nat
  base : Point

/-- a document while it is laid out -/
structure Flow where
  cursor : Cursor Float
  work : Work
  /-- the instances put so far -/
  placements : List Placement := []

abbrev Flowing (α : Type) := ExceptT Failure (StateM Flow) α

namespace Flow

/-- painting as a part of laying out -/
def paint (x : Painting α) : Flowing α := fun f =>
  let (r, w) := x.run.run f.work
  (r, { f with work := w })

def moveCursor (move : Cursor Float → Cursor Float) : Flowing Unit :=
  modify fun f => { f with cursor := move f.cursor }

/-- the room for flowing instances -/
def frame (j : Job) (c : Canvas) : Frame Float :=
  ⟨j.template.config.margins.top, j.usableBottom c, j.settings.layout.repeatGap⟩

/-- the start of a document whose first page is at hand -/
def start (j : Job) (w : Work) : Flow := ⟨⟨w.canvas.pages, j.template.config.margins.top, false⟩, w, []⟩

/-- paints the components of an instance, in the order they are declared -/
def paintComponents (j : Job) (base : Point) (i : Instance) : List Component → Painting Unit
  | [] => return
  | c :: rest => do
    Paint.place j c ⟨base.translate c.position, i.scope, i.index.map Int.ofNat⟩
    paintComponents j base i rest

/-- puts an instance with its upper left corner at `base`, on the page at hand -/
def put (j : Job) (s : Section) (i : Instance) (base : Point) : Flowing Unit := do
  modify fun f => { f with placements := f.placements ++ [⟨s, i, f.work.canvas.pages, base⟩] }
  paint (paintComponents j base i s.components)

/-- ends the page at hand and starts the next one -/
def breakPage (j : Job) : Flowing Unit := do
  paint (Footer.draw j)
  modify fun f =>
    let canvas := f.work.canvas.addPage
    { f with work := { f.work with canvas := canvas }, cursor := Cursor.turn (frame j canvas) canvas.pages }

/-- puts a repeated instance at the cursor; `first` tells whether it is the first of its section -/
def flow (j : Job) (s : Section) (i : Instance) (first : Bool) : Flowing Unit := do
  let room := frame j (← get).work.canvas
  if first then moveCursor (·.enter room s.position.y)
  if (← get).cursor.waiting then breakPage j
  put j s i ⟨s.position.x, (← get).cursor.y⟩
  moveCursor (·.advance room s.dimensions.height)

/-- goes through the expansion of a section -/
def placeEvents (j : Job) (s : Section) : Bool → List Event → Flowing Unit
  | _, [] => return
  | _, .stop f :: _ => throw f
  | first, .note n :: rest => do
    paint (Painting.note n)
    placeEvents j s first rest
  | first, .place i :: rest => do
    if i.isAnchored then
      put j s i s.position
      placeEvents j s first rest
    else
      flow j s i first
      placeEvents j s false rest

def placeSection (j : Job) (s : Section) (root : Value) : Flowing Unit := placeEvents j s true (s.expand root)

def placeSections (j : Job) (root : Value) : List Section → Flowing Unit
  | [] => return
  | s :: rest => do
    placeSection j s root
    placeSections j root rest

/-- the end of the document -/
def finish (j : Job) : Flowing Unit := paint (Footer.draw j)

/-- lays out a whole document -/
def layOut (j : Job) (root : Value) : Flowing Unit := do
  placeSections j root j.template.sortedSections
  finish j

end Flow

end ReportPress
