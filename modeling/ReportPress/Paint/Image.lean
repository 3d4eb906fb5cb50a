import ReportPress.Paint.Job
/-!
Painting images. The source of an image is what the component is bound to, if that is there and not empty, else its
content. The word for the logo stands for the logo that the template names, else for the one that was loaded; without
either nothing is painted. An image is entered into the trace only once it is on the page.
-/

namespace ReportPress.Paint

def defaultImageWidth : Float := 50.0

/-- texts this long or longer are not entered into the trace -/
def traceLimit : Nat := 200

/-- no source at all -/
def isEmptySource : Value → Bool
  | .null | .string "" => true
  | _ => false

/-- the source that a component names -/
def imageSource (c : Component) (s : Spot) : Except Failure Value := do
  let bound ← match c.dataBinding with
    | some path => Record.resolve s.scope path
    | none => pure none
  let source := match bound with
    | some v => if isEmptySource v then c.content else v
    | none => c.content
  match source with
  | .string t => if Record.hasTokens t then return .string (← Record.substitute t s.scope s.index) else return source
  | _ => return source

def isLogo : Value → Bool
  | .string t => t == logoWord
  | _ => false

/-- the source that stands behind a source: the template's own logo behind the word for the logo. Nothing if there is
nothing to paint -/
def sourceBehind (j : Job) (source : Value) : Option Value :=
  if isEmptySource source then none
  else if isLogo source then
    match j.template.config.logo with
    | some logo => if logo.source = logoWord then loadedLogo else some (.string logo.source)
    | none => loadedLogo
  else some source
where
  loadedLogo : Option Value := if j.assets.logo.isSome then some source else none

/-- the size of an image: the component's, else the logo's own, else a fixed width and the height that goes with it -/
def imageSize (j : Job) (c : Component) (asLogo : Bool) (image : PreparedImage) : Size :=
  match c.size?, j.template.config.logo, asLogo with
  | some size, _, _ => size
  | none, some logo, true => ⟨logo.width, logo.height⟩
  | none, _, _ =>
    let ratio := if image.width = 0 then 1.0 else Binary64.ofInt image.height / Binary64.ofInt image.width
    ⟨defaultImageWidth, defaultImageWidth * ratio⟩

def imageText : Value → String
  | .string t => if t.length < traceLimit then t else ""
  | _ => ""

def paintImage (j : Job) (c : Component) (s : Spot) : Painting Unit := do
  let named ← Painting.ofExcept (imageSource c s)
  match sourceBehind j named with
  | none => return
  | some source =>
    let image ← Painting.load j.assets source
    let size := imageSize j c (isLogo named) image
    Painting.draw (·.image j.library image s.origin size)
    Painting.record c.id .image s.origin (imageText source)

end ReportPress.Paint
