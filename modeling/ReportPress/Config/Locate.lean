import ReportPress.Config.Reader
import ReportPress.Toml.Reader
/-!
Where the settings come from: a file that is named, else one that a variable of the environment names, else the user's
own file if there is one, else the settings that come with the program, which are the defaults.
-/

namespace ReportPress.Config

inductive Source where
  | file (p : Path)
  | packaged
deriving DecidableEq, Repr

def userFile : Path := .relative ["reportforge", "config.toml"]

/-- the user's own file: in the directory for settings that the environment names, else in the home directory -/
def userPath (env : Environment) : Path :=
  match env.value? "XDG_CONFIG_HOME" with
  | some dir =>
    if dir = "" then fallback else (Path.ofString dir).join userFile
  | none => fallback
where
  fallback : Path :=
    (Path.ofString ((env.strippedHome? "~").getD "~" ++ "/.config")).join userFile

/-- the source for an optional path given by the caller -/
def locate (env : Environment) (files : Files) (path : Option String) : Except Failure Source :=
  match path with
  | some p => if p = "" then unnamed else named p
  | none => unnamed
where
  named (p : String) : Except Failure Source := (env.expand (Path.ofString p)).map .file
  unnamed : Except Failure Source :=
    let text := Text.trim ((env.value? "REPORTFORGE_CONFIG").getD "")
    if text ≠ "" then named text
    else if files.isFile (userPath env) then .ok (.file (userPath env))
    else .ok .packaged

/-- the settings of a source -/
def load (env : Environment) (files : Files) : Source → Except Failure Settings
  | .packaged => .ok {}
  | .file p =>
    match files.read p with
    | .error f => .error (.file f p.text)
    | .ok octets =>
      match Text.Utf8.decode octets with
      | .error f => .error (.encoding f)
      | .ok cs =>
        match Toml.parseChars cs with
        | .error (.malformed f place) => .error (.toml f place)
        | .error (.tooLong n) => .error (.tooManyDigits n)
        | .ok document => read env (some p.parent) document

end ReportPress.Config
