import ReportPress.Raster.Octets
/-!
Why an image cannot be read, or not be made ready. Most images are just unreadable; some faults that show only after the
first image data are told in words of their own.
-/

namespace ReportPress

inductive ImageFault where
  | unreadable
  | tooManyPixels (pixels : Nat)
  /-- the numbers of an animation's parts do not follow each other -/
  | frameOrder
  /-- a frame of an animation reaches out of the image -/
  | frameBounds
  | filterCategory
  /-- what is no name stands where a chunk's name is due -/
  | chunkName (octets : List Nat)
  /-- a chunk is packed by a method that is not known -/
  | packing (method : Nat) (chunk : String)
  /-- a chunk ends before its method of packing is told -/
  | noMethod
  /-- an image is to be scaled down into a square without an edge -/
  | noEdge
deriving DecidableEq, Repr

namespace ImageFault

def message : ImageFault → String
  | .unreadable => "unreadable image data"
  | .tooManyPixels pixels =>
    "Image size (" ++ Nat.repr pixels ++ " pixels) exceeds limit of 178956970 pixels, could be decompression bomb " ++
      "DOS attack."
  | .frameOrder => "APNG contains frame sequence errors"
  | .frameBounds => "APNG contains invalid frames"
  | .filterCategory => "unknown filter category"
  | .chunkName octets => "broken PNG file (chunk " ++ Octets.quoted octets ++ ")"
  | .packing method chunk => "Unknown compression method " ++ Nat.repr method ++ " in " ++ chunk ++ " chunk"
  | .noMethod => "index out of range"
  | .noEdge => "division by zero"

/-- goes on only if the condition holds -/
def demand (holds : Bool) : Except ImageFault Unit := if holds then .ok () else .error .unreadable

/-- a value that has to be there -/
def found {α : Type} : Option α → Except ImageFault α
  | some x => .ok x
  | none => .error .unreadable

/-- any fault makes the image just unreadable -/
def plainly {α : Type} : Except ImageFault α → Except ImageFault α
  | .ok x => .ok x
  | .error _ => .error .unreadable

/-- images of more pixels are not decoded -/
def pixelLimit : Nat := 178956970

/-- goes on only with a size that is not too large -/
def demandSize (size : Nat × Nat) : Except ImageFault Unit :=
  let pixels := size.1 * size.2
  if pixelLimit < pixels then .error (.tooManyPixels pixels) else .ok ()

end ImageFault

end ReportPress
