import ReportPress.Asset.Prepare
import ReportPress.Font.BuiltIn
import ReportPress.Font.TrueType
import ReportPress.Order.Stable
import ReportPress.Page.Colour
import ReportPress.Page.Geometry
/-!
The drawing surface of one document: its pages, the fonts it knows, the font at hand, and the calls made on it.

Each operation gives a new surface with the call added, or a failure and no surface: what fails draws nothing. A
built-in font shows Latin-1 only; a font from a file shows anything. What is taken for granted of the library that draws
has a name each: `Call.isCarriedOut`, the calls that never fail; `Canvas.isAtHand`, when a font is not chosen anew;
`Library`, on which an image depends that is turned away.
Main statements: `setFont_calls` and `text_calls`, a call that is made is the last of the calls.
-/

namespace ReportPress

/-- what can be done to the surface of a document; coordinates and sizes in millimetres, font sizes in points -/
inductive Call where
  | new (orientation : Orientation) (size : PageSize)
  | margins (left top right : Float)
  | noPageBreaks
  | title (text : String)
  | creator (text : String)
  | addPage
  | addFont (family : String)
  | font (family style : String) (size : Float)
  | textColour (c : Rgb)
  | fillColour (c : Rgb)
  | drawColour (c : Rgb)
  | lineWidth (w : Float)
  | moveTo (x y : Float)
  | text (x y : Float) (s : String)
  | line (x₁ y₁ x₂ y₂ : Float)
  | rect (x y w h : Float) (style : String)
  | cell (w h : Float) (s : String) (fill : Bool)
  | image (x y w h : Float)

/-! ## The library that draws -/

/-- calls that are carried out whatever they are given; all others may fail -/
def Call.isCarriedOut : Call → Bool
  | .new .. | .margins .. | .noPageBreaks | .title _ | .creator _ | .addPage | .lineWidth _ | .moveTo .. | .line ..
  | .rect .. => true
  | _ => false

/-- how an image is turned away: with an error of the drawing, of a value or of a file, or with any other -/
inductive Refusal where
  | told (words : String)
  | other (words : String)

/-- a refusal as a failure: those of the first kind are faults of the asset -/
def Refusal.failure : Refusal → Failure
  | .told words => .asset (.notEmbedded words)
  | .other words => .outside words

/-- which images are turned away. That depends on the image, its place and its size alone, and on what is drawn with -/
class Library where
  refusal? : PreparedImage → Point → Size → Option Refusal

namespace Library

/-- no image is turned away -/
instance lenient : Library := ⟨fun _ _ _ => none⟩

def check (l : Library) (image : PreparedImage) (place : Point) (size : Size) : Except Failure Unit :=
  match l.refusal? image place size with
  | some refusal => .error refusal.failure
  | none => .ok ()

end Library

/-! ## The surface -/

structure Canvas where
  width : Float
  height : Float
  pages : Nat := 0
  family : String := ""
  style : String := ""
  fontSize : Float := 12.0
  /-- fonts from files, by family -/
  fonts : List (String × Font.Metrics) := []
  calls : List Call := []

namespace Canvas

/-- points to a millimetre -/
def pointsPerMm : Float := 72.0 / 25.4

/-- the space that a cell keeps free on either side of its text -/
def cellMargin : Float := 0.9999999999999998

def record (c : Canvas) (call : Call) : Canvas := { c with calls := c.calls ++ [call] }

/-- a call that never fails -/
def carryOut (c : Canvas) (call : Call) (_ : call.isCarriedOut = true) : Canvas := c.record call

def new (orientation : Orientation) (size : PageSize) : Canvas :=
  let (w, h) := orientation.hold size.points
  { width := w / pointsPerMm, height := h / pointsPerMm, calls := [.new orientation size] }

def addPage (c : Canvas) : Canvas := { c with pages := c.pages + 1 }.carryOut .addPage rfl

/-- names that stand for built-in families -/
def aliases : List (String × String) :=
  [("arial", "helvetica"), ("couriernew", "courier"), ("timesnewroman", "times")]

/-- families without styles -/
def plainFamilies : List String := ["symbol", "zapfdingbats"]

def isBuiltIn (key : String × String) : Bool := (Font.builtIn.lookup key).isSome

/-- a font from a file has no styles: its key is the family alone -/
def fromFile? (c : Canvas) (family style : String) : Option Font.Metrics := c.fonts.lookup (family ++ style)

/-- the letters of a style, large and in order -/
def styleLetters (style : String) : String :=
  String.ofList (Order.sort (fun a b => decide (a < b)) (style.toList.map Char.toUpper))

/-- the family and style that a request comes down to -/
def faceFor (c : Canvas) (family style : String) : String × String :=
  let family := if family = "" then c.family else Text.lower family
  let style := styleLetters style
  match aliases.lookup family with
  | some f => if (c.fromFile? family style).isSome then (family, style) else (f, style)
  | none => if plainFamilies.contains family then (family, "") else (family, style)

/-- a size of zero stands for the size at hand -/
def sizeFor (c : Canvas) (size : Float) : Float := if size == 0.0 then c.fontSize else size

/-- the font is at hand: the same family, the same style and just the same size -/
def isAtHand (c : Canvas) (family style : String) (size : Float) : Bool :=
  family == c.family && style == c.style && c.fontSize == size

/-- chooses a font; a size of zero keeps the size, and a font that is at hand is not looked up -/
def setFont (c : Canvas) (family style : String) (size : Float) : Except Failure Canvas :=
  let (f, s) := c.faceFor family style
  let size' := c.sizeFor size
  let call := Call.font family style size
  if c.isAtHand f s size' then .ok (c.record call)
  else if isBuiltIn (f, s) || (c.fromFile? f s).isSome then
    .ok ({ c with family := f, style := s, fontSize := size' }.record call)
  else .error (.undefinedFont (f ++ s))

/-- a component as a fraction of 255 -/
def ratio (n : Int) : Except Failure Float :=
  Failure.quotientTooLarge.unlessFinite (Binary64.nearest (n < 0) n.natAbs 255)

def checkRatio (x : Float) : Except Failure Unit :=
  if 0.0 ≤ x && x ≤ 1.0 then .ok () else .error (.colourRange x)

/-- a colour that the surface takes: each component within 0 and 255; of black, and of a colour whose green is -1, only
the red is looked at -/
def checkColour (c : Rgb) : Except Failure Unit := do
  if c = Rgb.black ∨ c.green = -1 then
    checkRatio (← ratio c.red)
  else
    let r ← ratio c.red
    let g ← ratio c.green
    let b ← ratio c.blue
    checkRatio r
    checkRatio g
    checkRatio b

def setTextColour (c : Canvas) (rgb : Rgb) : Except Failure Canvas :=
  (checkColour rgb).map fun _ => c.record (.textColour rgb)

def setFillColour (c : Canvas) (rgb : Rgb) : Except Failure Canvas :=
  (checkColour rgb).map fun _ => c.record (.fillColour rgb)

def setDrawColour (c : Canvas) (rgb : Rgb) : Except Failure Canvas :=
  (checkColour rgb).map fun _ => c.record (.drawColour rgb)

/-- the first character of a text that the font at hand cannot show, and its place -/
def unencodable? (c : Canvas) (cs : List Char) : Option (Nat × Char) :=
  if (c.fromFile? c.family c.style).isSome then none
  else
    match cs.dropWhile fun x => x.toNat < 256 with
    | [] => none
    | x :: rest => some (cs.length - (rest.length + 1), x)

def checkText (c : Canvas) (cs : List Char) : Except Failure Unit :=
  match c.unencodable? cs with
  | some (i, x) => .error (.unencodable x i (c.family ++ c.style))
  | none => .ok ()

/-- the width of a character in thousandths of the font size -/
def charWidth (c : Canvas) (x : Char) : Nat :=
  match c.fromFile? c.family c.style with
  | some m => m.width x
  | none => ((Font.builtIn.lookup (c.family, c.style)).bind (·[x.toNat]?)).getD 0

/-- the width of a text in the font at hand -/
def textWidth (c : Canvas) (cs : List Char) : Except Failure Float := do
  c.checkText cs
  if cs.isEmpty then return 0.0
  else
    let units := cs.foldl (fun n x => n + c.charWidth x) 0
    return Binary64.ofInt units * c.fontSize * 0.001 / pointsPerMm

def text (c : Canvas) (x y : Float) (s : String) : Except Failure Canvas :=
  (c.checkText s.toList).map fun _ => c.record (.text x y s)

def cell (c : Canvas) (w h : Float) (s : String) (fill : Bool) : Except Failure Canvas :=
  (c.checkText s.toList).map fun _ => c.record (.cell w h s fill)

/-- puts an image on the page, unless it is turned away -/
def image (c : Canvas) (l : Library) (i : PreparedImage) (place : Point) (size : Size) : Except Failure Canvas :=
  (l.check i place size).map fun _ => c.record (.image place.x place.y size.width size.height)

/-- endings of font files -/
def fontEndings : List String := [".otb", ".otf", ".otc", ".ttf", ".ttc", ".woff", ".woff2"]

/-- registers the font of a file under a family, unless the family is known already -/
def addFont (c : Canvas) (files : Files) (family path : String) : Except Failure Canvas :=
  let ending := Text.lower (Path.extension path)
  if !fontEndings.contains ending then .error (.fontExtension ending)
  else
    let place := Path.ofString path
    if !files.exists? place then .error (.fontMissing path)
    else
      let key := Text.lower family
      let call := Call.addFont family
      if isBuiltIn (key, "") || (c.fonts.lookup key).isSome then .ok (c.record call)
      else
        match files.read place with
        | .error f => .error (.file f path)
        | .ok octets =>
          match Font.TrueType.read? octets with
          | some m => .ok ({ c with fonts := c.fonts ++ [(key, m)] }.record call)
          | none => .error .fontUnreadable

theorem record_calls (c : Canvas) (call : Call) : (c.record call).calls = c.calls ++ [call] := rfl

theorem text_calls {c c' : Canvas} {x y : Float} {s : String} (h : c.text x y s = .ok c') :
    c'.calls = c.calls ++ [.text x y s] := by
  unfold text at h
  cases hc : c.checkText s.toList with
  | error f => rw [hc] at h; cases h
  | ok u => rw [hc] at h; cases h; rfl

theorem setFont_calls {c c' : Canvas} {family style : String} {size : Float}
    (h : c.setFont family style size = .ok c') : c'.calls = c.calls ++ [.font family style size] := by
  unfold setFont at h
  dsimp only at h
  split at h
  · cases h; rfl
  · split at h
    · cases h; rfl
    · cases h

end Canvas

end ReportPress
