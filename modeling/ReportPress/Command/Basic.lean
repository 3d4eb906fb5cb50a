import ReportPress.Command.Switch
import ReportPress.Files.Path
/-!
What a command line asks for: to list the templates, to render one, to tell the version or how the program is used; or
it is misused. Options for all commands stand before the command's name, options of its own after it; of two settings
files or directories of templates the command's own counts.
-/

namespace ReportPress

inductive Task where
  | listTemplates
  /-- the key of a template, the source of the data, and where the document goes -/
  | render (template data : String) (output : Option Path)
deriving DecidableEq, Repr

structure Command where
  task : Task
  /-- the settings file -/
  config : Option String := none
  /-- a directory of templates -/
  templates : Option Path := none
  verbosity : Nat := 0
  quiet : Bool := false
  /-- failures are not told but left to the caller -/
  debug : Bool := false
deriving DecidableEq, Repr

namespace Command

inductive Reading where
  | misuse
  | usage
  | version
  | command (c : Command)
deriving DecidableEq, Repr

def help : Switch := { name := "--help" }

/-- options that all commands know -/
def shared : List Switch :=
  [{ name := "--config", takesValue := true }, { name := "--templates", takesValue := true }, help]

/-- options that stand before the command's name -/
def general : List Switch :=
  shared ++ [{ name := "--verbose", letter := some 'v' }, { name := "--debug" }, { name := "--quiet" },
    { name := "--no-color" }, { name := "--version" }]

def ofRender : List Switch := { name := "--output", letter := some 'o', takesValue := true } :: shared

/-- what is answered before anything else is looked at; the first such option counts -/
def atOnce (g : Given) : Option Reading :=
  g.choices.findSome? fun c =>
    if c.name = "--help" then some .usage
    else if c.name = "--version" then some .version
    else none

/-- the command with the options of both places -/
def withOptions (before after : Given) (task : Task) : Command :=
  let own := (after.value? "--config").filter (· ≠ "")
  { task := task
    config := own.or (before.value? "--config")
    templates := ((after.value? "--templates").or (before.value? "--templates")).map Path.ofString
    verbosity := before.count "--verbose"
    quiet := before.has "--quiet"
    debug := before.has "--debug" }

/-- reads a command's own options and words -/
def readTask (known : List Switch) (before : Given) (task : Given → Option Task) (args : List String) : Reading :=
  match Switch.scan known true args with
  | none => .misuse
  | some g =>
    match atOnce g, task g with
    | some r, _ => r
    | none, some t => .command (withOptions before g t)
    | none, none => .misuse

def listing (g : Given) : Option Task := if g.words.isEmpty then some .listTemplates else none

def rendering (g : Given) : Option Task :=
  match g.words with
  | [template, data] => some (.render template data ((g.value? "--output").map Path.ofString))
  | _ => none

/-- a word that names no command is misuse, unless it is an option that is answered at once -/
def readUnknown (args : List String) : Reading :=
  ((Switch.scan general false args).bind atOnce).getD .misuse

def read (args : List String) : Reading :=
  match Switch.scan general false args with
  | none => .misuse
  | some g =>
    match atOnce g, g.words with
    | some r, _ => r
    | none, [] => .usage
    | none, "render" :: rest => readTask ofRender g rendering rest
    | none, "templates" :: rest => readTask shared g listing rest
    | none, w :: rest => readUnknown (w :: rest)

end Command

end ReportPress
