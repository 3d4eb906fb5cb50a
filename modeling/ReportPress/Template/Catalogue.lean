import ReportPress.Note
import ReportPress.Template.File
/-!
Catalogues of templates. Each template has its own id; a later template of the same id takes the place of the earlier
one. Templates are found by id, or else by name.
-/

namespace ReportPress

structure Catalogue where
  /-- the templates by their ids, in the order in which the ids came up -/
  entries : List (String × Template) := []

namespace Catalogue

def templates (c : Catalogue) : List Template := c.entries.map (·.2)

def size (c : Catalogue) : Nat := c.entries.length

def get? (c : Catalogue) (id : String) : Option Template := Fields.get? c.entries id

/-- the first template of a name or a display name -/
def byName? (c : Catalogue) (name : String) : Option Template :=
  c.templates.find? fun t => t.name == name || t.displayName == name

def find? (c : Catalogue) (key : String) : Option Template := (c.get? key).orElse fun _ => c.byName? key

def insert (c : Catalogue) (t : Template) : Catalogue := ⟨Fields.put t.id t c.entries⟩

theorem get?_insert (c : Catalogue) (t : Template) (id : String) :
    (c.insert t).get? id = if id = t.id then some t else c.get? id := Fields.get?_put ..

/-- adds a template; taking the place of another is noted -/
def add (c : Catalogue) (t : Template) : Noting Catalogue := do
  if Fields.contains c.entries t.id then
    Noting.note ⟨.info, .templates, "Template " ++ t.id ++ " replaced by a later definition"⟩
  return c.insert t

def ofList (ts : List Template) : Noting Catalogue := ts.foldlM add {}

/-- comes before in the order by type and then by display name -/
def before (s t : Template) : Bool :=
  s.templateType < t.templateType || (s.templateType == t.templateType && s.displayName < t.displayName)

/-- the templates in use, in order -/
def active (c : Catalogue) : List Template := Order.sort before (c.templates.filter (·.isActive))

/-- the templates of all files of a directory that are named as JSON, in the order of their names -/
def ofDirectory (files : Files) (directory : Path) : Noting Catalogue :=
  (files.listing directory ".json").foldlM
    (fun c name => do c.add (← Noting.ofExcept (Template.load files (directory.join (.relative [name]))))) {}

end Catalogue

end ReportPress
