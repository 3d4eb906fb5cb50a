import ReportPress.Failure
import ReportPress.Text.LetterCase
/-!
Lengths on a page, in millimetres.

`Length` is what the arithmetic of widths and positions needs, so that it can be carried out on doubles, as documents
are, or on exact numbers.
-/

namespace ReportPress

/-- numbers that lengths are measured in; `below` and `atMost` are the comparisons `<` and `≤` of the numbers -/
class Length (α : Type) extends Add α, Sub α, Mul α, Div α where
  zero : α
  ofCount : Nat → α
  below : α → α → Bool
  atMost : α → α → Bool

instance : Length Float where
  zero := 0.0
  ofCount n := Binary64.ofInt n
  below x y := x < y
  atMost x y := x ≤ y

namespace Length

variable {α : Type} [Length α]

/-- the greater of two lengths, the first unless the second is above it -/
def larger (x y : α) : α := if below x y then y else x

/-- the smaller of two lengths, the first unless the second is below it -/
def smaller (x y : α) : α := if below y x then y else x

def sum (xs : List α) : α := xs.foldl (· + ·) zero

end Length

structure Point where
  x : Float := 0.0
  y : Float := 0.0

def Point.translate (p q : Point) : Point := ⟨p.x + q.x, p.y + q.y⟩

structure Size where
  width : Float
  height : Float

structure Margins where
  top : Float := 15.0
  right : Float := 15.0
  bottom : Float := 15.0
  left : Float := 15.0

inductive PageSize where
  | a4
  | a3
  | letter
deriving DecidableEq, Repr

inductive Orientation where
  | portrait
  | landscape
deriving DecidableEq, Repr

namespace PageSize

def name : PageSize → String
  | .a4 => "A4"
  | .a3 => "A3"
  | .letter => "Letter"

def all : List PageSize := [.a4, .a3, .letter]

/-- the portrait page in millimetres -/
def portrait : PageSize → Float × Float
  | .a4 => (210.0, 297.0)
  | .a3 => (297.0, 420.0)
  | .letter => (215.9, 279.4)

/-- the portrait page in points, as the drawing surface has it -/
def points : PageSize → Float × Float
  | .a4 => (595.28, 841.89)
  | .a3 => (841.89, 1190.55)
  | .letter => (612.0, 792.0)

end PageSize

namespace Orientation

def name : Orientation → String
  | .portrait => "portrait"
  | .landscape => "landscape"

def letter : Orientation → String
  | .portrait => "P"
  | .landscape => "L"

def all : List Orientation := [.portrait, .landscape]

/-- width and height as the page is held -/
def hold (o : Orientation) (size : Float × Float) : Float × Float :=
  match o with
  | .portrait => size
  | .landscape => (size.2, size.1)

end Orientation

/-- width and height of a named page; letters' case and blanks around the name do not matter -/
def pageDimensions (size orientation : String) : Except Failure (Float × Float) :=
  let key := (Text.trimChars size.toList).map Numeral.asciiLower
  match PageSize.all.find? fun s => s.name.toList.map Numeral.asciiLower == key with
  | some s => .ok (if orientation = Orientation.landscape.name then (s.portrait.2, s.portrait.1) else s.portrait)
  | none => .error (.pageSize size)

/-- millimetres to a point -/
def pointToMm : Float := 0.3527777778

/-- the height of a line of type of so many points -/
def lineHeight (points multiplier : Float) : Float := points * pointToMm * multiplier

/-- the distance of the lines of a text component -/
def textLineHeight (points : Float) : Float := lineHeight points 1.15

end ReportPress
