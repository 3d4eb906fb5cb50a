import ReportPress.Raster.Png.Rows
/-!
PNG images: a signature, then chunks. The chunks up to the first one with image data are checked. The image data go on
in the chunks that follow until every row is there, or the data are broken. What follows them has to be whole chunks up
to the end chunk, which itself may be missing; an animation ends where its next frame begins. Broken data are only told
after the chunks that follow, so a fault of those comes first.
-/

namespace ReportPress.Png

/-- a stretch of image data: where it starts, and how many octets its chunk holds from there on -/
structure Source where
  start : Nat
  length : Nat
deriving DecidableEq, Repr

/-- what is known when the image data begin; an image without data has a size, but cannot be read -/
structure Opening where
  stream : Stream
  kind : Kind
  source : Option Source
  isAnimated : Bool

/-- image data that lie in no frame come before the frames of the animation -/
def countsFrames (s : Stream) (hasData : Bool) : Nat :=
  match s.frames with
  | some n => if hasData && s.area.isNone then n + 1 else n
  | none => 1

/-- the chunks from a place on, up to the first image data; such data before a kind of colour is known are passed
over -/
def scan (b : ByteArray) : Nat → Nat → Stream → Except ImageFault (Stream × Option Source)
  | 0, _, _ => .error .unreadable
  | fuel + 1, i, s =>
    match headerAt b i with
    | .cut | .misnamed _ => .error .unreadable
    | .chunk c =>
      if c.name = "IEND" then .ok (s, none)
      else if c.name = "IDAT" && s.kind.isSome then .ok (s, some ⟨c.start, c.length⟩)
      else if c.name = "fdAT" then do
        let s ← s.readPart b c
        ImageFault.demand s.kind.isSome
        return (s, some ⟨c.start + 4, c.length - 4⟩)
      else do
        let s ← (s.take? b c).getD (.ok s)
        ImageFault.demand (c.isSound b)
        scan b fuel c.next s

def isSigned (b : ByteArray) : Bool := Octets.matchesAt b 0 signature

def open_ (b : ByteArray) : Except ImageFault Opening := do
  let (s, source) ← ImageFault.plainly (scan b b.size signature.length {})
  let kind ← ImageFault.found s.kind
  ImageFault.demand (s.size.1 != 0 && s.size.2 != 0)
  return ⟨s, kind, source, 1 < countsFrames s source.isSome⟩

/-- the size of the part of the image that the first image data fill; an area of no width at the left edge stands for
the whole image -/
def Opening.filled? (o : Opening) : Option (Nat × Nat) :=
  match o.stream.area with
  | none => some o.stream.size
  | some a =>
    if a.left = 0 ∧ a.right = 0 then some o.stream.size
    else if a.left < a.right ∧ a.top < a.bottom ∧ a.right ≤ o.stream.size.1 ∧ a.bottom ≤ o.stream.size.2 then
      some (a.right - a.left, a.bottom - a.top)
    else none

/-- how reading the image data ended -/
structure Finish where
  stream : Stream
  isWhole : Bool
  /-- the place after the contents of the last chunk that was begun -/
  place : Nat

/-- goes through the stretches of image data until there is a verdict; `compressed` is what was read before -/
def readData (b : ByteArray) (rows : Rows) : Nat → ByteArray → Source → Stream → Except ImageFault Finish
  | 0, _, _, _ => .error .unreadable
  | fuel + 1, compressed, source, s =>
    let compressed := compressed ++ Octets.slice b source.start source.length
    let place := source.start + source.length
    match if source.length = 0 then Verdict.wanting else Verdict.ofData rows compressed with
    | .whole => .ok ⟨s, true, place⟩
    | .broken => .ok ⟨s, false, place⟩
    | .wanting =>
      match headerAt b (place + 4) with
      | .cut => .error .unreadable
      | .misnamed octets => .error (.chunkName octets)
      | .chunk c =>
        if c.name = "IDAT" || c.name = "DDAT" then readData b rows fuel compressed ⟨c.start, c.length⟩ s
        else if c.name = "fdAT" then do
          let s ← s.readPart b c
          readData b rows fuel compressed ⟨c.start + 4, c.length - 4⟩ s
        else .error .unreadable

/-- the chunks after the image data, from the end of the contents of the last one on -/
def readEnd (b : ByteArray) (isAnimated : Bool) : Nat → Nat → Stream → Except ImageFault Stream
  | 0, _, s => .ok s
  | fuel + 1, place, s =>
    match headerAt b (place + 4) with
    | .cut | .misnamed _ => .ok s
    | .chunk c =>
      if c.name = "IEND" || (c.name = "fcTL" && isAnimated) then .ok s
      else do
        let s ← if c.name = "fdAT" then s.readPart b c else (s.take? b c).getD (.ok s)
        ImageFault.demand (c.isThere b)
        readEnd b isAnimated fuel (c.start + c.length) s

/-- the palette has 256 colours at most -/
def Opening.paletteFits (o : Opening) : Bool := o.stream.palette.all fun n => n / 3 ≤ 256

/-- the transparency of an image with a palette fits a palette of 256 colours -/
def transparencyFits : Option Transparency → Bool
  | none => true
  | some (.entry index) => index < 256
  | some (.levels count) => count ≤ 256
  | some (.grey level) => level < 256
  | some .colour => false

/-- reads the pixels; tells whether the image can be brought to plain colours. A palette that does not fit is told at
once if the pixels are entries of it, and after all else if they are not -/
def Opening.load (o : Opening) (b : ByteArray) : Except ImageFault Bool := do
  let source ← ImageFault.found o.source
  ImageFault.demand (!o.kind.isPalette || o.paletteFits)
  let (w, h) ← ImageFault.found o.filled?
  let rows := Rows.ofSize o.kind o.stream.interlaced w h
  let finish ← readData b rows (b.size + 1) ByteArray.empty source o.stream
  let s ← readEnd b o.isAnimated b.size finish.place finish.stream
  ImageFault.demand finish.isWhole
  ImageFault.demand (o.stream.palette.isNone || (o.kind.takesPalette && o.paletteFits))
  return !o.kind.isPalette || transparencyFits s.transparency

end ReportPress.Png
