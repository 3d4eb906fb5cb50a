import ReportPress.Asset.Fetch
import ReportPress.Asset.Prepare
import ReportPress.Config.Basic
import ReportPress.Note
import ReportPress.Text.Blank
/-!
From the name of an image's source to the image. A source is the word for the logo, which was loaded beforehand; data
written into the name; an address of the web; or a path that the store is asked for.
-/

namespace ReportPress

/-- the word that stands for the logo -/
def logoWord : String := "logo"

/-- what the name of a source stands for -/
inductive Source where
  | logo
  | inline (uri : String)
  | web (url : String)
  | store (path : String)
deriving DecidableEq, Repr

namespace Source

def webSchemes : List (List Char) := ["http://".toList, "https://".toList]

/-- the source of a name, the blanks around it aside; no source has a blank name -/
def ofName (name : String) : Option Source :=
  let t := Text.trim name
  let cs := t.toList
  if t = "" then none
  else if t = logoWord then some .logo
  else if DataUri.scheme.isPrefixOf cs then some (.inline t)
  else if webSchemes.any (·.isPrefixOf cs) then some (.web t)
  else some (.store t)

end Source

/-- what an image is asked for by: octets as they are, or a value, which may name a source -/
inductive Wanted where
  | octets (b : ByteArray)
  | value (v : Value)

/-- what asking for an image comes to before anyone else is asked: it is settled, or there is one request to make -/
inductive Loading where
  | settled (r : Except Failure PreparedImage)
  | asks (r : Request)

structure Assets where
  settings : AssetSettings := {}
  fetchers : Fetchers
  logo : Option PreparedImage := none

namespace Assets

/-- the octets of an answer -/
def received (name : String) : Reply → Except Failure ByteArray
  | .silence => .error (.asset (.timedOut name))
  | .failed (.asset f) => .error (.asset f)
  | .failed f => .error (.asset (.notFetched name f.message))
  | .content octets => if octets.isEmpty then .error (.asset (.emptyAsset name)) else .ok octets

/-- a fetched image, made ready within the bounds of the settings -/
def fetched (a : Assets) (name : String) (r : Reply) : Except Failure PreparedImage := do
  PreparedImage.prepare (← received name r) (some a.settings.maxImagePx) true

/-- an image that was given as octets -/
def given (octets : ByteArray) : Except Failure PreparedImage := PreparedImage.ofOctets octets none false

def seekSource (a : Assets) : Source → Loading
  | .logo =>
    match a.logo with
    | some image => .settled (.ok image)
    | none => .settled (.error (.asset .noLogo))
  | .inline uri => .settled (DataUri.decode uri >>= given)
  | .web url =>
    if a.settings.allowRemote then .asks (.web url a.settings.timeout)
    else .settled (.error (.asset (.remoteDisabled url)))
  | .store path =>
    if a.fetchers.store.isSome then .asks (.store path) else .settled (.error (.asset (.noFetcher path)))

/-- only texts that are not blank name a source -/
def seek (a : Assets) : Wanted → Loading
  | .octets b => .settled (given b)
  | .value (.string name) =>
    match Source.ofName name with
    | some source => a.seekSource source
    | none => .settled (.error (.asset .emptySource))
  | .value _ => .settled (.error (.asset .emptySource))

/-- the image that is wanted, where `ask` makes the request if there is one to make -/
def loadBy {m : Type → Type} [Monad m] (a : Assets) (ask : Request → m Reply) (w : Wanted) :
    m (Except Failure PreparedImage) :=
  match a.seek w with
  | .settled r => pure r
  | .asks r => do return a.fetched r.name (← ask r)

/-- asks the fetchers, and keeps who was asked for what -/
def ask (a : Assets) (r : Request) : StateM (List Request) Reply := fun earlier =>
  (a.fetchers.answer earlier r, earlier ++ [r])

/-- the image that a value names, and all requests by then: the earlier ones and those made for it -/
def loadAfter (a : Assets) (earlier : List Request) (v : Value) : Except Failure PreparedImage × List Request :=
  (a.loadBy a.ask (.value v)).run earlier

/-- what is settled asks nobody; else one request is made, and the answer made ready -/
theorem loadAfter_eq (a : Assets) (earlier : List Request) (v : Value) :
    a.loadAfter earlier v = match a.seek (.value v) with
      | .settled r => (r, earlier)
      | .asks r => (a.fetched r.name (a.fetchers.answer earlier r), earlier ++ [r]) := by
  unfold loadAfter loadBy
  cases a.seek (.value v) with
  | settled r => rfl
  | asks r => rfl

/-- the image that a value names, and who was asked for it -/
def load (a : Assets) (v : Value) : Except Failure PreparedImage × List Request := a.loadAfter [] v

/-- the logo of the given octets, or none, with a note, if they are no image -/
def prepareLogo (octets : ByteArray) : Noting (Option PreparedImage) :=
  match given octets with
  | .ok image => return some image
  | .error (.asset f) => do
    Noting.warn .assets ("Could not load logo: " ++ f.message)
    return none
  | .error f => throw f

/-- the logo that the settings name -/
def loadLogo (files : Files) (settings : AssetSettings) : Noting (Option PreparedImage) :=
  match settings.logoPath with
  | none => return none
  | some p =>
    match files.read p with
    | .ok octets => prepareLogo octets
    | .error f => do
      Noting.warn .assets ("Could not load logo " ++ p.text ++ ": " ++ f.message p.text)
      return none

end Assets

end ReportPress
