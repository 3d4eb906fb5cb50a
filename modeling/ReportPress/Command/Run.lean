import ReportPress.Command.Basic
import ReportPress.Command.Session
import ReportPress.Config.Locate
import ReportPress.Document.Render
import ReportPress.Files.Path
import ReportPress.Template.Inspection
/-!
Running a command. A failure is told and ends the run with status 2; one that is not told, and any failure of a debug
run, leaves it with status 1.

The name of the file of a document is made from the key of its template: whatever is no letter, digit, point, low line
or dash of ASCII becomes a low line, several in a row one; the ends hold no points or low lines.
Main statement: `isSafe_of_mem_safeStem`, a name made so holds such characters only.
-/

/-! ## Names of files -/

namespace ReportPress.Command

/-- a character that file names keep -/
def isSafe (c : Char) : Bool := c.isAlphanum || c == '.' || c == '_' || c == '-'

/-- the key with one low line for each run of characters that are not safe; `inRun` within such a run -/
def replaceUnsafe : Bool → List Char → List Char
  | _, [] => []
  | inRun, c :: rest =>
    if isSafe c then c :: replaceUnsafe false rest
    else if inRun then replaceUnsafe true rest
    else '_' :: replaceUnsafe true rest

def isEdge (c : Char) : Bool := c == '.' || c == '_'

/-- without points and low lines at both ends -/
def trimEdges (cs : List Char) : List Char := ((cs.dropWhile isEdge).reverse.dropWhile isEdge).reverse

def safeStem (key : String) : List Char := trimEdges (replaceUnsafe false key.toList)

def fallbackStem : List Char := "report".toList

def fileName (key : String) : String :=
  let stem := safeStem key
  String.ofList (if stem.isEmpty then fallbackStem else stem) ++ ".pdf"

theorem isSafe_of_mem_replaceUnsafe {c : Char} {cs : List Char} {inRun : Bool} (h : c ∈ replaceUnsafe inRun cs) :
    isSafe c = true := by
  induction cs generalizing inRun with
  | nil => cases h
  | cons d rest ih =>
    unfold replaceUnsafe at h
    split at h
    · rcases List.mem_cons.1 h with rfl | h
      · assumption
      · exact ih h
    · split at h
      · exact ih h
      · rcases List.mem_cons.1 h with rfl | h
        · decide
        · exact ih h

theorem isSafe_of_mem_safeStem {c : Char} {key : String} (h : c ∈ safeStem key) : isSafe c = true := by
  have : c ∈ replaceUnsafe false key.toList :=
    List.dropWhile_subset _ (by simpa using List.dropWhile_subset _ (List.mem_reverse.1 h))
  exact isSafe_of_mem_replaceUnsafe this

end ReportPress.Command

/-! ## Runs -/

namespace ReportPress

namespace Command

open Session

def program : String := "reportforge"

def version : String := "0.0.0"

/-- the source that stands for the input -/
def inputMark : String := "-"

/-- whether notes of a level are shown -/
def shows (c : Command) : Level → Bool
  | .info => !c.quiet && 0 < c.verbosity
  | .warning => !c.quiet

def showNotes (c : Command) (notes : List Note) : Session Unit :=
  modify fun p => { p with err := p.err ++ (notes.filter fun n => c.shows n.level).flatMap Shown.ofNote }

/-- a computation whose notes are shown -/
def hear (c : Command) (x : Noting α) : Session α := do
  let (r, notes) := x.outcome
  c.showNotes notes
  ofExcept r

/-- the settings in force -/
def settings (c : Command) (w : World) : Session Settings := do
  look (Config.userPath w.environment)
  let source ← ofExcept (Config.locate w.environment w.files c.config)
  if let .file p := source then look p
  ofExcept (Config.load w.environment w.files source)

/-- the templates that come with the program, and those of a directory -/
def templatesOf (files : Files) : Option Path → Noting Catalogue
  | none => Catalogue.ofList [Inspection.report]
  | some d =>
    match files.find d with
    | .error .nameTooLong => throw (.file .nameTooLong d.text)
    | .error _ | .ok (.file _) => throw (.noTemplates d.text)
    | .ok (.directory _) => do
      let own ← Catalogue.ofDirectory files d
      Catalogue.ofList (Inspection.report :: own.templates)

/-- the templates at hand -/
def catalogue (c : Command) (w : World) (s : Settings) : Session Catalogue := do
  let directory := c.templates.or s.templatesDir
  directory.forM look
  c.hear (templatesOf w.files directory)

def parseRecord (label : String) (cs : List Char) : Except Failure Value :=
  match Json.parseChars cs with
  | .ok v => .ok v
  | .error (.malformed f place) => .error (.json (some label) f place)
  | .error (.tooLong digits) => .error (.tooManyDigits digits)

/-- the record of a source, and the directory its images count from -/
def record (w : World) (source : String) : Session (Value × Path) := do
  if source = inputMark then
    return (← ofExcept (parseRecord "stdin" (Text.plainLineFeeds w.input)), w.files.here)
  else
    let p ← ofExcept (w.environment.expand (Path.ofString source))
    look p
    let v ← ofExcept (do parseRecord p.text (← w.files.text p))
    return (v, (Path.resolve w.files.here p).parent)

/-- what documents are rendered with -/
def renderer (c : Command) (w : World) (s : Settings) (root : Path) : Session Renderer := do
  s.assets.logoPath.forM look
  s.fontFiles.forM fun f => look f.2
  let logo ← c.hear (Assets.loadLogo w.files s.assets)
  let store (path : String) : Reply := .ofExcept (Fetchers.fromDirectory w.files root path)
  return ⟨s, w.files, ⟨s.assets, { store := some store, web := w.web }, logo⟩⟩

/-- names the files that images were asked from -/
def lookAtImages (root : Path) (requests : List Request) : Session Unit :=
  requests.forM fun r => match r with
    | .store path => look (root.join (.relative (Path.partsOf path.toList)))
    | .web .. => return

/-- renders a document; the notes made are shown also if it fails -/
def document (c : Command) (r : Renderer) (root : Path) (templates : Catalogue) (key : String) (v : Value) :
    Session Rendered :=
  match r.renderKey templates key v with
  | .refused f notes => do
    c.showNotes notes
    throw f
  | .failed f flow => do
    lookAtImages root flow.work.requests
    c.showNotes flow.work.notes
    throw f
  | .done d => do
    lookAtImages root d.work.requests
    c.showNotes (d.work.notes ++ [Renderer.report d])
    return d

def save (path : Path) (content : ByteArray) : Session Unit := do
  look path.parent
  match (← get).files.write path content with
  | .ok files => modify fun p => { p with files := files, written := p.written ++ [path] }
  | .error f => throw (.file f path.text)

/-- tells of a component that could not be painted -/
def warnOf (i : Issue) : String :=
  "[yellow]Warning:[/yellow] " ++ i.kind.name ++ " " ++ i.component ++ " on page " ++ Nat.repr i.page ++ ": " ++
    i.message

def render (c : Command) (w : World) (key source : String) (output : Option Path) : Session Unit := do
  let s ← c.settings w
  let templates ← c.catalogue w s
  let (v, root) ← record w source
  let r ← c.renderer w s root
  let d ← c.document r root templates key v
  let path := output.getD (w.files.here.join (.relative [fileName key]))
  save path d.work.canvas.octets
  if !c.quiet then
    d.issues.forM fun i => remark (warnOf i)
    say (path.text ++ " [muted](" ++ Nat.repr d.pages ++ " page(s))[/muted]")

/-- the columns of the list of templates -/
def columns : List (String × (Template → String)) :=
  [("Id", (·.id)), ("Name", (·.name)), ("Type", (·.templateType)), ("Display name", (·.displayName)),
    ("Version", (·.version))]

def listTemplates (c : Command) (w : World) : Session Unit := do
  let s ← c.settings w
  let templates := (← c.catalogue w s).active
  columns.forM fun (_, cell) => templates.forM fun t => do let _ ← ofExcept (unmarked (cell t))
  let rows ← templates.mapM fun t => columns.mapM fun (_, cell) => ofExcept (unmarked (cell t))
  modify fun p =>
    { p with out := p.out ++ .line "Templates" :: .row (columns.map (·.1)) :: rows.flatMap Shown.ofCells }

def perform (c : Command) (w : World) : Session Unit :=
  match c.task with
  | .listTemplates => c.listTemplates w
  | .render key source output => c.render w key source output

/-- the end of a run that did what it should or failed -/
def conclude (c : Command) (r : Except Failure Unit) (p : Progress) : Ending :=
  match r with
  | .ok () => ⟨0, p, none⟩
  | .error f =>
    if f.isTold && !c.debug then
      match (remark ("[red]Error:[/red] " ++ f.message)).run.run p with
      | (.ok (), p) => ⟨2, p, none⟩
      | (.error f, p) => ⟨1, p, some f⟩
    else ⟨1, p, some f⟩

/-- runs what a command line asks for -/
def run (w : World) (args : List String) : Ending :=
  match read args with
  | .misuse => ⟨2, { files := w.files, err := [.usage] }, none⟩
  | .usage => ⟨0, { files := w.files, out := [.usage] }, none⟩
  | .version => ⟨0, { files := w.files, out := [.line (program ++ " " ++ version)] }, none⟩
  | .command c =>
    let (r, p) := (c.perform w).run.run { files := w.files }
    c.conclude r p

end Command

end ReportPress
