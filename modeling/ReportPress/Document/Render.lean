import ReportPress.Flow.Layout
import ReportPress.Page.Listing
import ReportPress.Template.Catalogue
/-!
From a template and a record to a document: a new surface, its fonts, and the layout of all sections. A font that cannot
be registered is left out with a note; a default font that there is not is replaced, with a note.
-/

namespace ReportPress

/-- who made the document -/
def creator : String := "reportforge"

/-- what documents are rendered with -/
structure Renderer where
  settings : Settings := {}
  files : Files
  assets : Assets
  [library : Library]

/-- a rendered document -/
structure Rendered where
  flow : Flow
  job : Job

namespace Rendered

def work (r : Rendered) : Work := r.flow.work

def pages (r : Rendered) : Nat := r.work.canvas.pages

def issues (r : Rendered) : List Issue := r.work.issues

def isClean (r : Rendered) : Bool := r.issues.isEmpty

end Rendered

namespace Renderer

/-- a document with its first page -/
def newCanvas (t : Template) : Canvas :=
  let m := t.config.margins
  Canvas.new t.config.orientation t.config.pageSize
    |>.carryOut (.margins m.left m.top m.right) rfl
    |>.carryOut .noPageBreaks rfl
    |>.carryOut (.title t.displayName) rfl
    |>.carryOut (.creator creator) rfl
    |>.addPage

/-- registers the fonts of files; the families that are registered now -/
def registerFonts (files : Files) : List (String × Path) → Painting (List String)
  | [] => return []
  | (family, path) :: rest => do
    let registered ← Painting.orElse (do Painting.draw (·.addFont files family path.text); return true)
      (fun f => f.isFileFault || f.isDrawingFault) fun f => do
        Painting.warn .documents
          ("Font " ++ family ++ " could not be registered from " ++ path.text ++ ": " ++ f.message)
        return false
    let others ← registerFonts files rest
    return if registered then family :: others else others

/-- the family that a template prefers -/
def preferredFamily (t : Template) : String :=
  let family := Text.lower (Text.trim t.config.fonts.primary)
  if family = "" then defaultFamily else family

/-- chooses the default font; the family that it is of -/
def chooseFont (t : Template) : Painting String := do
  let family := preferredFamily t
  let size := t.config.fonts.size "body" defaultFontSize
  Painting.orElse (do Painting.draw (·.setFont family "" size); return family) Failure.isDrawingFault fun _ => do
    Painting.warn .documents ("Font family " ++ family ++ " is not available; using " ++ defaultFamily)
    Painting.draw (·.setFont defaultFamily "" size)
    return defaultFamily

/-- what a document of the template is painted with, once its fonts are there -/
def prepare (r : Renderer) (t : Template) : Painting Job := do
  let families ← registerFonts r.files r.settings.fontFiles
  let family ← chooseFont t
  return ⟨t, r.settings, r.assets, family, families, r.library⟩

/-- the outcome of rendering -/
inductive Outcome where
  /-- no document was begun -/
  | refused (f : Failure) (notes : List Note)
  /-- the layout failed -/
  | failed (f : Failure) (flow : Flow)
  | done (document : Rendered)

/-- what is told of a finished document -/
def report (d : Rendered) : Note :=
  ⟨.info, .documents,
    "Rendered " ++ d.job.template.id ++ ": " ++ Nat.repr d.pages ++ " page(s), " ++ Nat.repr d.issues.length ++
      " issue(s), " ++ Nat.repr d.work.canvas.octets.size ++ " bytes"⟩

/-- lays out a document whose surface is prepared -/
def layOut (j : Job) (w : Work) (record : Value) : Outcome :=
  match (Flow.layOut j record).run.run (Flow.start j w) with
  | (.error f, flow) => .failed f flow
  | (.ok (), flow) => .done ⟨flow, j⟩

def render (r : Renderer) (t : Template) (record : Value) : Outcome :=
  match (r.prepare t).run.run { canvas := newCanvas t } with
  | (.error f, w) => .refused f w.notes
  | (.ok j, w) => layOut j w record

/-- renders the template that a key finds -/
def renderKey (r : Renderer) (c : Catalogue) (key : String) (record : Value) : Outcome :=
  match c.find? key with
  | none => .refused (.templateMissing key) []
  | some t => r.render t record

end Renderer

end ReportPress
