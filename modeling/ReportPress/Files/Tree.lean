import ReportPress.Files.Path
import ReportPress.Text.Quoted
/-!
Files and directories. A tree is looked up name by name from the top; a step back leads to the directory above. Nothing
is below a file, and a name longer than 255 octets cannot exist.
-/

namespace ReportPress

/-- why a file cannot be used -/
inductive FileFault where
  | missing
  | notDirectory
  | isDirectory
  | nameTooLong
deriving DecidableEq, Repr

/-- the fault in words, with the path as it was given -/
def FileFault.message (path : String) : FileFault → String
  | .missing => "[Errno 2] No such file or directory: " ++ Text.quoted path
  | .notDirectory => "[Errno 20] Not a directory: " ++ Text.quoted path
  | .isDirectory => "[Errno 21] Is a directory: " ++ Text.quoted path
  | .nameTooLong => "[Errno 36] File name too long: " ++ Text.quoted path

inductive Node where
  | file (content : ByteArray)
  | directory (entries : List (String × Node))

namespace Node

def entries : Node → List (String × Node)
  | .directory es => es
  | .file _ => []

def isDirectory : Node → Bool
  | .directory _ => true
  | .file _ => false

/-- follows the names from `node`, whose directories above are `above`, nearest first -/
def walk (above : List Node) (node : Node) : List String → Except FileFault Node
  | [] => .ok node
  | name :: rest =>
    match node with
    | .file _ => .error .notDirectory
    | .directory es =>
      if name = ".." then
        match above with
        | [] => walk [] node rest
        | up :: higher => walk higher up rest
      else if 255 < name.utf8ByteSize then .error .nameTooLong
      else
        match es.lookup name with
        | some child => walk (node :: above) child rest
        | none => .error .missing

/-- goes down from a node by the octets of names; two points are a name like any other -/
def descend (node : Node) : List RawText → Except FileFault Node
  | [] => .ok node
  | name :: rest =>
    match node with
    | .file _ => .error .notDirectory
    | .directory es =>
      if 255 < name.octets.length then .error .nameTooLong
      else
        match es.find? fun e => (RawText.ofString e.1).octets == name.octets with
        | some e => e.2.descend rest
        | none => .error .missing

/-- the entries with one put in, in its place or at the end -/
def putEntry (name : String) (child : Node) : List (String × Node) → List (String × Node)
  | [] => [(name, child)]
  | e :: rest => if e.1 = name then (name, child) :: rest else e :: putEntry name child rest

/-- puts a node at the end of the names, making the directories that are missing -/
def insert (content : Node) : List String → Node → Node
  | [], _ => content
  | name :: rest, node =>
    let es := node.entries
    .directory (putEntry name (insert content rest ((es.lookup name).getD (.directory []))) es)

def remove : List String → Node → Node
  | [], node => node
  | [name], node => .directory (node.entries.filter fun e => e.1 != name)
  | name :: rest, node =>
    match node.entries.lookup name with
    | some child => .directory (putEntry name (remove rest child) node.entries)
    | none => node

end Node

/-- a tree of files, and the directory that relative paths count from -/
structure Files where
  top : Node
  here : Path

namespace Files

def empty : Files := ⟨.directory [], ⟨1, []⟩⟩

def find (fs : Files) (p : Path) : Except FileFault Node :=
  fs.top.walk [] ((Path.join fs.here p).parts)

def isFile (fs : Files) (p : Path) : Bool :=
  match fs.find p with
  | .ok (.file _) => true
  | _ => false

def isDirectory (fs : Files) (p : Path) : Bool :=
  match fs.find p with
  | .ok node => node.isDirectory
  | _ => false

def exists? (fs : Files) (p : Path) : Bool := (fs.find p).isOk

def read (fs : Files) (p : Path) : Except FileFault ByteArray :=
  match fs.find p with
  | .ok (.file content) => .ok content
  | .ok (.directory _) => .error .isDirectory
  | .error f => .error f

/-- the octets of a file whose names lead down from the top -/
def readBelow (fs : Files) (names : List RawText) : Except FileFault ByteArray :=
  match fs.top.descend names with
  | .ok (.file content) => .ok content
  | .ok (.directory _) => .error .isDirectory
  | .error f => .error f

/-- the names in a directory that end in `suffix`, in order; none if there is no such directory -/
def listing (fs : Files) (p : Path) (suffix : String) : List String :=
  match fs.find p with
  | .ok node => ((node.entries.map (·.1)).filter (·.endsWith suffix)).mergeSort (fun a b => a ≤ b)
  | .error _ => []

/-- writes a file into a directory that exists -/
def write (fs : Files) (p : Path) (content : ByteArray) : Except FileFault Files :=
  match fs.find p with
  | .ok (.directory _) => .error .isDirectory
  | .error .missing | .ok (.file _) =>
    match fs.find p.parent with
    | .ok (.directory _) =>
      .ok { fs with top := Node.insert (.file content) (Path.climb ".." [] (Path.join fs.here p).parts) fs.top }
    | .ok (.file _) => .error .notDirectory
    | .error f => .error f
  | .error f => .error f

end Files

end ReportPress
