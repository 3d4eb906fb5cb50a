import ReportPress.Command.Run
/-!
The program at the command line. It runs the command on the files it has read so far, reads those that the run looked
at, and runs again until none are missing; then it writes and shows what the last run wrote and showed.
-/

namespace ReportPress.Program

def usageLines : List String :=
  ["Usage: reportforge [OPTIONS] COMMAND [ARGS]...",
   "",
   "  Render JSON report templates to PDF.",
   "",
   "Commands:",
   "  render TEMPLATE DATA [--output FILE]   render a template with a JSON record, or - for the input",
   "  templates                              list the active templates",
   "",
   "Options:",
   "  --config FILE      use this TOML settings file",
   "  --templates DIR    a directory of additional JSON templates",
   "  -v, --verbose      tell more",
   "  --quiet            hide what is no error",
   "  --debug            do not shorten failures",
   "  --no-color         no colours",
   "  --version          tell the version",
   "  --help             tell this"]

/-- the web, as long as there is no way to it -/
def noWeb (url : String) : Reply := .failed (.noRoute url)

/-- the homes of accounts, from the lines of the account file -/
def accountsOf (text : String) : List (String × String) :=
  (text.splitOn "\n").filterMap fun line =>
    match line.splitOn ":" with
    | name :: _ :: _ :: _ :: _ :: home :: _ => some (name, home)
    | _ => none

def readVariables (names : List String) : IO (List (String × String)) :=
  names.filterMapM fun name => do return (← IO.getEnv name).map fun value => (name, value)

def readEnvironment : IO Environment := do
  let settings ← readVariables ["HOME", "XDG_CONFIG_HOME", "REPORTFORGE_CONFIG"]
  let accounts ← try pure (accountsOf (← IO.FS.readFile "/etc/passwd")) catch _ => pure []
  return ⟨settings, accounts⟩

/-- the files with one more, at the absolute path -/
def put (files : Files) (place : Path) (node : Node) : Files :=
  { files with top := Node.insert node place.parts files.top }

def readFile (files : Files) (place : Path) : IO Files := do
  try return put files place (.file (← IO.FS.readBinFile place.text)) catch _ => return files

/-- the files with what there is at a path: a file, or a directory and the templates in it -/
def supply (files : Files) (path : Path) : IO Files := do
  let place := Path.resolve files.here path
  try
    let entries ← ((← IO.currentDir) / place.text).readDir
    let files := if files.isDirectory place then files else put files place (.directory [])
    let names := (entries.toList.map (·.fileName)).filter (·.endsWith ".json")
    names.foldlM (fun fs name => readFile fs (place.join (.relative [name]))) files
  catch _ => readFile files place

/-- runs until a run looks at nothing new, but no more often than the first number says -/
def settle (args : List String) : Nat → List Path → World → IO Ending
  | 0, _, w => return Command.run w args
  | rounds + 1, known, w => do
    let e := Command.run w args
    let unread := e.progress.looked.filter fun p => !known.contains p
    if unread.isEmpty then return e
    else settle args rounds (known ++ unread) { w with files := ← unread.foldlM supply w.files }

/-- whether the command reads its record from the input -/
def readsInput (args : List String) : Bool :=
  match Command.read args with
  | .command { task := .render _ source _, .. } => source == Command.inputMark
  | _ => false

partial def readInput (input : IO.FS.Stream) (sofar : String) : IO String := do
  let line ← input.getLine
  if line.isEmpty then return sofar else readInput input (sofar ++ line)

def print (stream : IO.FS.Stream) : Shown → IO Unit
  | .line t => stream.putStrLn t
  | .row cells => stream.putStrLn ("  ".intercalate cells)
  | .usage => usageLines.forM stream.putStrLn

def write (files : Files) (path : Path) : IO Unit :=
  match files.read path with
  | .ok content => IO.FS.writeBinFile path.text content
  | .error _ => return

end ReportPress.Program

open ReportPress in
def main (args : List String) : IO UInt32 := do
  let here := Path.ofString (← IO.currentDir).toString
  let input ← if Program.readsInput args then Program.readInput (← IO.getStdin) "" else pure ""
  let w : World :=
    { files := ⟨Node.insert (.directory []) here.parts (.directory []), here⟩
      environment := ← Program.readEnvironment
      input := input.toList
      web := Program.noWeb }
  let e ← Program.settle args 16 [] w
  e.progress.written.forM (Program.write e.progress.files)
  e.progress.err.forM (Program.print (← IO.getStderr))
  e.progress.out.forM (Program.print (← IO.getStdout))
  e.failure.forM fun f => do (← IO.getStderr).putStrLn f.message
  return UInt32.ofNat e.status
