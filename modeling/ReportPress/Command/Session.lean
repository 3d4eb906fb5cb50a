import ReportPress.Asset.Fetch
import ReportPress.Command.Screen
import ReportPress.Files.Home
/-!
A run of a command: the world it finds, with files, variables, an input and the web, and how far it has come. A run
shows text, may write a file, and names the files it looks at, so that whoever holds only some of them can supply these
and run again.
-/

namespace ReportPress

structure World where
  files : Files
  environment : Environment
  /-- what comes in when a record is not read from a file -/
  input : List Char := []
  web : String → Reply

/-- what a run has shown, written and looked at so far -/
structure Progress where
  files : Files
  out : List Shown := []
  err : List Shown := []
  looked : List Path := []
  written : List Path := []

/-- how a run ends -/
structure Ending where
  status : Nat
  progress : Progress
  /-- what leaves the run -/
  failure : Option Failure := none

abbrev Session (α : Type) := ExceptT Failure (StateM Progress) α

namespace Session

def look (path : Path) : Session Unit := modify fun p => { p with looked := p.looked ++ [path] }

/-- a text without its style tags -/
def unmarked (text : String) : Except Failure (List Char) :=
  match Markup.plain text.toList with
  | .ok cs => .ok cs
  | .error (f, position) => .error (.markup f position)

/-- shows a result -/
def say (text : String) : Session Unit := do
  let cs ← ofExcept (unmarked text)
  modify fun p => { p with out := p.out ++ Shown.ofText cs }

/-- shows something beside the results -/
def remark (text : String) : Session Unit := do
  let cs ← ofExcept (unmarked text)
  modify fun p => { p with err := p.err ++ Shown.ofText cs }

end Session

end ReportPress
