import ReportPress.Failure
import ReportPress.Number.Binary64
import ReportPress.Raster.Format
/-!
Images made ready for a page. PNG and JPEG images can be put on a page as they are; all others are coded anew as JPEG.
An image that was fetched is coded anew unless it is a JPEG within bounds, and scaled down if it is out of bounds.
Scaling down, the longer edge becomes the edge of a square; the other edge keeps the ratio of the edges as well as a
whole number can. A bound of zero is told by its fault, a negative one makes the image just unreadable.
-/

/-! ## Sizes in a square -/

namespace ReportPress.Thumbnail

/-- the whole number at least one that is next to `x`, below or above, with the lesser error; the lower one if both err
alike -/
def pick (x : Float) (error : Float → Float) : Nat :=
  let low := x.floor
  let high := x.ceil
  let best := if error high < error low then high else low
  max ((truncate? best).getD 0).toNat 1

/-- the size of an image of `width` by `height` in a square of `edge`; an image that fits keeps its size -/
def fit (edge width height : Nat) : Nat × Nat :=
  if width ≤ edge ∧ height ≤ edge then (width, height)
  else
    let m := Binary64.ofInt edge
    let aspect := Binary64.ofInt width / Binary64.ofInt height
    if m / m ≥ aspect then (pick (m * aspect) (fun n => (aspect - n / m).abs), edge)
    else (edge, pick (m / aspect) (fun n => if n == 0.0 then 0.0 else (aspect - m / n).abs))

end ReportPress.Thumbnail

/-! ## Images -/

namespace ReportPress

structure PreparedImage where
  format : ImageFormat
  width : Nat
  height : Nat
  /-- the octets as they were given; none for an image that is coded anew -/
  octets : Option ByteArray

namespace PreparedImage

/-- the longest edge that a JPEG image can have -/
def edgeLimit : Nat := 65500

/-- formats that can be put on a page -/
def embeddable : List ImageFormat := [.jpeg, .png]

/-- the size of an image in a square, if there is one; a square without an edge has no ratio of edges -/
def scaled (size : Nat × Nat) (square : Option Int) : Except ImageFault (Nat × Nat) :=
  match square with
  | none => .ok size
  | some edge =>
    if edge < 0 then .error .unreadable
    else if edge = 0 then .error .noEdge
    else .ok (Thumbnail.fit edge.toNat size.1 size.2)

/-- an image coded anew in plain colours, scaled down into a square if there is one -/
def recode (p : Picture) (square : Option Int) : Except ImageFault PreparedImage := do
  ImageFault.demand p.isFlattenable
  let (w, h) ← scaled (p.width, p.height) square
  if edgeLimit < max w h then .error .unreadable else .ok ⟨.jpeg, w, h, none⟩

/-- makes a picture ready; `convert` asks for a JPEG, `bound` is the longest edge it may have -/
def ofPicture (p : Picture) (octets : ByteArray) (bound : Option Int) (convert : Bool) :
    Except ImageFault PreparedImage :=
  let longest : Int := max p.width p.height
  let square := bound.filter fun edge => edge < longest
  let asGiven : PreparedImage := ⟨p.format, p.width, p.height, some octets⟩
  if !convert && embeddable.contains p.format then .ok asGiven
  else if p.format = .jpeg && square.isNone then .ok asGiven
  else recode p square

/-- makes an image ready -/
def prepare (octets : ByteArray) (bound : Option Int) (convert : Bool) : Except Failure PreparedImage :=
  match Picture.ofOctets octets >>= fun p => ofPicture p octets bound convert with
  | .ok image => .ok image
  | .error fault => .error (.ofImage fault)

/-- makes an image ready, within a bound that is no negative number if there is one -/
def ofOctets (octets : ByteArray) (bound : Option Nat) (convert : Bool) : Except Failure PreparedImage :=
  prepare octets (bound.map Int.ofNat) convert

end PreparedImage

end ReportPress
