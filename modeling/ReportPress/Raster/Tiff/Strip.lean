import ReportPress.Raster.Tiff.Layout
/-!
Strips and tiles of plain rows. Each covers a part of the image; where it reaches over the right edge, its rows are
longer than the part. Strips are read in the order in which they lie in the file; of strips for one and the same part
that follow each other only the last is read. Rows that are too short for their pixels count only at the last strip.
-/

namespace ReportPress.Tiff

structure Strip where
  left : Nat
  top : Nat
  right : Nat
  bottom : Nat
  /-- octets of a row; zero for those that its pixels take -/
  step : Nat
  /-- the plane of samples, if they have planes of their own -/
  plane : Option Nat
  place : Int
deriving DecidableEq, Repr

namespace Strip

/-- the two strips are for the same part -/
def isTwin (s t : Strip) : Bool := { s with place := 0 } == { t with place := 0 }

/-- the size of the part; a part of no width at the left edge stands for the whole image -/
def size? (s : Strip) (image : Nat × Nat) : Option (Nat × Nat) :=
  if s.left = 0 ∧ s.right = 0 then some image
  else if s.left < s.right ∧ s.top < s.bottom ∧ s.right ≤ image.1 ∧ s.bottom ≤ image.2 then
    some (s.right - s.left, s.bottom - s.top)
  else none

def bits? (s : Strip) (layout : Layout) : Option Nat :=
  match s.plane with
  | none => layout.bits
  | some k => layout.mode.planes[k]?

/-- reads the rows; tells whether they are long enough for their pixels -/
def load (s : Strip) (b : ByteArray) (image : Nat × Nat) (layout : Layout) : Except ImageFault Bool := do
  let bits ← ImageFault.found (s.bits? layout)
  let (w, h) ← ImageFault.found (s.size? image)
  let row := (w * bits + 7) / 8
  let place := s.place.toNat
  ImageFault.demand (0 ≤ s.place && place < b.size)
  if s.step != 0 && s.step < row then return false
  ImageFault.demand (Octets.isThere b place (max s.step row * (h - 1) + row))
  return true

/-- drops strips that are followed by one for the same part -/
def withoutTwins : List Strip → List Strip
  | [] => []
  | [s] => [s]
  | s :: t :: rest => if s.isTwin t then withoutTwins (t :: rest) else s :: withoutTwins (t :: rest)

/-- reads strips one after the other -/
def loadAll (b : ByteArray) (image : Nat × Nat) (layout : Layout) : List Strip → Except ImageFault Unit
  | [] => .error .unreadable
  | [s] => do ImageFault.demand (← s.load b image layout)
  | s :: rest => do
    let _ ← s.load b image layout
    loadAll b image layout rest

end Strip

/-- how the image is cut up: the size of a strip or tile, the bits of a pixel by the directory, and how many samples
have planes of their own, if any -/
structure Cut where
  image : Nat × Nat
  width : Nat
  height : Nat
  bits : Nat
  planes : Option Nat

namespace Cut

/-- the strips at the given places, row of strips by row of strips and plane by plane -/
def strips (c : Cut) : List Int → Nat → Nat → Nat → List Strip
  | [], _, _, _ => []
  | place :: rest, x, y, layer =>
    let step := if c.image.1 < x + c.width then c.width * c.bits / (8 * c.planes.getD 1) else 0
    let here : Strip :=
      ⟨x, y, min (x + c.width) c.image.1, min (y + c.height) c.image.2, step, c.planes.map fun _ => layer, place⟩
    let next :=
      if x + c.width < c.image.1 then c.strips rest (x + c.width) y layer
      else if y + c.height < c.image.2 then c.strips rest 0 (y + c.height) layer
      else c.strips rest 0 0 (layer + 1)
    here :: next

/-- a strip that covers the image: of several only the last counts -/
def places (c : Cut) (places : List Int) : List Int :=
  if c.width = c.image.1 && c.height = c.image.2 && c.planes.isNone then places.getLast?.toList else places

/-- the strips at the given places in the order in which they are read -/
def ordered (c : Cut) (places : List Int) : List Strip :=
  Strip.withoutTwins ((c.strips (c.places places) 0 0 0).mergeSort fun s t => s.place ≤ t.place)

end Cut

end ReportPress.Tiff
