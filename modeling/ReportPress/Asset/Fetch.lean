import ReportPress.Failure
import ReportPress.Files.Tree
import ReportPress.Text.Base64
/-!
Where images are fetched from: a store that is asked by path, such as a directory of files, and the web. Whoever is
asked answers with octets, refuses, or does not answer in time; the answer may depend on the requests made before.
Data may also be written into the name of a source: a head that ends in a word for base 64, a comma, and the octets in
base 64.
-/

namespace ReportPress

/-- what has come of a request once it is no longer waited for. How long that is, and whether the time can be waited for
at all, is up to who is asked -/
inductive Reply where
  | content (octets : ByteArray)
  | failed (f : Failure)
  | silence

/-- who was asked for what; the web together with how long to wait -/
inductive Request where
  | store (path : String)
  | web (url : String) (timeout : Float)

def Request.name : Request → String
  | .store path => path
  | .web url _ => url

structure Fetchers where
  store : Option (String → Reply) := none
  web : String → Reply
  /-- what becomes of the answer to a request after earlier ones -/
  memory : List Request → Request → Reply → Reply := fun _ _ reply => reply

def Reply.ofExcept : Except Failure ByteArray → Reply
  | .ok octets => .content octets
  | .error f => .failed f

namespace Fetchers

/-- the answer to a request after earlier ones; a store that is not there does not answer -/
def answer (f : Fetchers) (earlier : List Request) (r : Request) : Reply :=
  f.memory earlier r <|
    match r with
    | .store path => (f.store.map (· path)).getD .silence
    | .web url _ => f.web url

/-- why no file can have such a name: there is a half in it that stands for no octet, or else a null character -/
def refusal? (name : RawText) : Option Failure :=
  if name.any (·.octets?.isNone) then some (.outside "surrogates not allowed")
  else if name.contains (.char '\x00') then some .nullInPath
  else none

/-- the octets of a path below a directory. A name that no file can have is refused wherever it leads, and then steps out
of the directory are -/
def fromDirectory (files : Files) (root : Path) (path : RawText) : Except Failure ByteArray :=
  let base := Path.resolve files.here root
  let names := RawText.names (path.dropWhile (· == .char '/'))
  let place := Path.climb (RawText.ofString "..") []
    ((Path.join files.here root).parts.map RawText.ofString ++ names)
  match (root.parts.map RawText.ofString ++ names).findSome? refusal? with
  | some f => .error f
  | none =>
    if !(base.parts.map RawText.ofString).isPrefixOf place then .error (.asset (.escapes root.text path.text))
    else
      match files.readBelow place with
      | .ok octets => .ok octets
      | .error f => .error (.file f (Path.mk base.slashes (place.map RawText.text)).text)

/-- what the web has at an address -/
structure Page where
  status : Nat := 200
  octets : ByteArray := ByteArray.empty
  kind : Option String := none

/-- the page at an address; a page with a status of failure is a failure -/
def fromWeb (pages : List (String × Page)) (url : String) : Except Failure Page :=
  match pages.lookup url with
  | none => .error (.noRoute url)
  | some page => if 200 ≤ page.status && page.status < 300 then .ok page else .error (.httpStatus page.status url)

end Fetchers

end ReportPress

/-! ## Data in the name of a source -/

namespace ReportPress.DataUri

def scheme : List Char := "data:".toList

def coding : List Char := ";base64".toList

def decode (uri : String) : Except Failure ByteArray :=
  let cs := uri.toList
  match cs.dropWhile (· != ',') with
  | [] => .error (.asset .malformedUri)
  | _ :: payload =>
    let head := cs.takeWhile (· != ',')
    if !scheme.isPrefixOf head then .error (.asset .malformedUri)
    else if !coding.isSuffixOf head then .error (.asset .notBase64)
    else
      match Text.Base64.decode (String.ofList payload) with
      | some octets => .ok octets
      | none => .error (.asset .badBase64)

end ReportPress.DataUri
