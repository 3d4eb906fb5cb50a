import ReportPress.Failure
import ReportPress.Json.Reader
import ReportPress.Template.Reader
import ReportPress.Text.Split
/-!
Templates kept in files, one JSON object to a file. What is wrong with a file is told together with its name. A file is
text in UTF-8, in which every kind of line end counts as a line feed.
-/

/-! ## Text files -/

namespace ReportPress.Files

/-- the octets of a file that is opened by its path -/
def octets (fs : Files) (p : Path) : Except Failure ByteArray :=
  if p.parts.any fun name => name.toList.contains '\x00' then .error .nullInPath
  else
    match fs.read p with
    | .ok octets => .ok octets
    | .error f => .error (.file f p.text)

def text (fs : Files) (p : Path) : Except Failure (List Char) := do
  match Text.Utf8.decode (← fs.octets p) with
  | .ok cs => return Text.plainLineFeeds cs
  | .error f => throw (.encoding f)

end ReportPress.Files

/-! ## Template files -/

namespace ReportPress.Template

def refuseFile {α : Type} (p : Path) (cause : String) : Except Failure α :=
  .error (.template (.inFile p.name cause))

/-- the template of a document -/
def ofDocument (p : Path) (v : Value) : Except Failure Template :=
  if !v.isObject then refuseFile p "template must be a JSON object"
  else
    match read v with
    | .ok t => .ok t
    | .error f => if f.isValueFault then refuseFile p f.message else .error f

def load (files : Files) (p : Path) : Except Failure Template :=
  match files.text p with
  | .error .nullInPath => .error .nullInPath
  | .error f => refuseFile p f.message
  | .ok cs =>
    match Json.parseChars cs with
    | .error (.malformed f place) => refuseFile p (Failure.json none f place).message
    | .error (.tooLong digits) => .error (.tooManyDigits digits)
    | .ok v => ofDocument p v

end ReportPress.Template
