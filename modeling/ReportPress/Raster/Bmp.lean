import ReportPress.Raster.Fault
/-!
Bitmaps of the BMP form: a head that tells where the pixels are, then rows of pixels, each filled up to a multiple of
four octets. All rows have to be there, but not the filling of the last. A palette that holds nothing but a scale of
grey is left out, and the pixels are levels of grey.
-/

namespace ReportPress.Bmp

/-- how pixels are coded -/
inductive Packing where
  | plain
  /-- runs of pixels of four or eight bits -/
  | runs (ofHalves : Bool)
deriving DecidableEq, Repr

/-- what a pixel is -/
inductive Mode where
  | colour
  | palette
  | grey
  | blackWhite
deriving DecidableEq, Repr

structure Opening where
  width : Nat
  height : Nat
  mode : Mode
  packing : Packing
  /-- bits of a pixel as the rows are laid out -/
  depth : Nat
  /-- octets of the palette, and of one of its colours -/
  palette : Nat × Nat
  /-- where the pixels start -/
  start : Nat
deriving DecidableEq, Repr

/-- what the head says -/
structure Head where
  /-- octets of the head -/
  size : Nat
  width : Nat
  height : Nat
  depth : Nat
  packing : Nat
  colours : Nat

def oldHeadSize : Nat := 12

/-- sizes of heads after the oldest one -/
def headSizes : List Nat := [40, 52, 56, 64, 108, 124]

/-- a height with all bits set at its top counts downwards -/
def heightOf (n : Nat) : Nat := if n / Nat.pow 2 24 = 255 then Nat.pow 2 32 - n else n

def head? (b : ByteArray) : Option Head :=
  let size := Octets.little32 b 14
  if !Octets.isThere b 14 size then none
  else if size = oldHeadSize then
    some ⟨size, Octets.little16 b 18, Octets.little16 b 20, Octets.little16 b 24, 0, 0⟩
  else if headSizes.contains size then
    some ⟨size, Octets.little32 b 18, heightOf (Octets.little32 b 22), Octets.little16 b 28, Octets.little32 b 30,
      Octets.little32 b 46⟩
  else none

/-- bits of a pixel that are known, up to eight of them with a palette -/
def depths : List Nat := [1, 4, 8, 16, 24, 32]

/-- the packing in which masks tell the samples of a pixel apart -/
def maskPacking : Nat := 3

/-- heads of this size or more hold the masks, and from the next size on a fourth one -/
def maskHeadSize : Nat := 52

def alphaHeadSize : Nat := 56

/-- the masks of red, green, blue and alpha that are known for pixels of 32 bits -/
def masks32 : List (List Nat) :=
  [[0xFF0000, 0xFF00, 0xFF, 0], [0xFF000000, 0xFF0000, 0xFF00, 0], [0xFF000000, 0xFF00, 0xFF, 0],
   [0xFF000000, 0xFF0000, 0xFF00, 0xFF], [0xFF, 0xFF00, 0xFF0000, 0xFF000000], [0xFF0000, 0xFF00, 0xFF, 0xFF000000],
   [0xFF000000, 0xFF00, 0xFF, 0xFF0000], [0, 0, 0, 0]]

/-- the masks of red, green and blue that are known for other pixels -/
def masksOf (depth : Nat) : List (List Nat) :=
  match depth with
  | 24 => [[0xFF0000, 0xFF00, 0xFF]]
  | 16 => [[0xF800, 0x7E0, 0x1F], [0x7C00, 0x3E0, 0x1F]]
  | _ => []

/-- the masks are known; those of the small head follow it, and have to be there -/
def Head.masksFit (h : Head) (b : ByteArray) : Bool :=
  let colours := (List.range 3).map fun k => Octets.little32 b (54 + 4 * k)
  let alpha := if alphaHeadSize ≤ h.size then Octets.little32 b 66 else 0
  Octets.isThere b 54 12 &&
    if h.depth = 32 then masks32.contains (colours ++ [alpha]) else (masksOf h.depth).contains colours

def Head.packing? (h : Head) : Option Packing :=
  match h.packing with
  | 0 | 3 => some .plain
  | 1 => some (.runs false)
  | 2 => some (.runs true)
  | _ => none

/-- octets of a colour of the palette -/
def Head.colourSize (h : Head) : Nat := if h.size = oldHeadSize then 3 else 4

/-- how many colours the palette has -/
def Head.paletteCount (h : Head) : Nat := if h.colours = 0 then Nat.pow 2 h.depth else h.colours

/-- the colours from a place on are a scale of grey: black and white, or level by level -/
def isGreyScale (b : ByteArray) (start size count : Nat) : Bool :=
  (List.range count).all fun i =>
    let level := if count = 2 then 255 * i else i % 256
    Octets.matchesAt b (start + size * i) [level, level, level]

def isSigned (b : ByteArray) : Bool := Octets.matchesAt b 0 (Octets.ofAscii "BM")

/-- palettes of more colours are refused at once -/
def paletteLimit : Nat := 65536

/-- an image with a palette, which starts at a place -/
def Head.withPalette (h : Head) (b : ByteArray) (packing : Packing) (place offset : Nat) :
    Except ImageFault Opening := do
  let count := h.paletteCount
  ImageFault.demand (0 < count && count ≤ paletteLimit)
  let length := min (h.colourSize * count) (b.size - place)
  let mode :=
    if !isGreyScale b place h.colourSize count then Mode.palette
    else if count = 2 then .blackWhite
    else .grey
  return ⟨h.width, h.height, mode, packing, h.depth, (length, h.colourSize),
    if offset = 0 then place + length else offset⟩

def open_ (b : ByteArray) : Except ImageFault Opening := do
  let h ← ImageFault.found (head? b)
  ImageFault.demand (depths.contains h.depth)
  let packing ← ImageFault.found h.packing?
  let masked := h.packing == maskPacking
  ImageFault.demand (!masked || h.masksFit b)
  ImageFault.demand (h.width != 0 && h.height != 0)
  let offset := Octets.little32 b 10
  let place := 14 + h.size + if masked && h.size < maskHeadSize then 12 else 0
  let offset := if offset = 14 + h.size && h.depth ≤ 8 then offset + 4 * h.paletteCount else offset
  if h.depth ≤ 8 then h.withPalette b packing place offset
  else return ⟨h.width, h.height, .colour, packing, h.depth, (0, h.colourSize), if offset = 0 then place else offset⟩

/-- bits of a pixel as it is taken out of a row -/
def Opening.pixelBits (o : Opening) : Nat :=
  match o.mode with
  | .colour | .palette => o.depth
  | .grey => 8
  | .blackWhite => 1

/-- the plain rows are all there, and each has room for its pixels -/
def Opening.rowsFit (o : Opening) (b : ByteArray) : Bool :=
  let row := (o.width * o.pixelBits + 7) / 8
  let step := (o.width * o.depth + 31) / 8 / 4 * 4
  row ≤ step && Octets.isThere b o.start (step * (o.height - 1) + row)

/-- the pixels of the runs, from place `i` on: `pixels` of them so far, `x` of them in the row at hand. Nothing if a run
breaks off where it must not -/
def runPixels (b : ByteArray) (o : Opening) (ofHalves : Bool) : Nat → Nat → Nat → Nat → Option Nat
  | 0, _, pixels, _ => some pixels
  | fuel + 1, i, pixels, x =>
    if o.width * o.height ≤ pixels || !Octets.isThere b i 2 then some pixels
    else
      let n := Octets.at_ b i
      let i := i + 2
      if n ≠ 0 then
        let n := min n (o.width - x)
        runPixels b o ofHalves fuel i (pixels + n) (x + n)
      else
        match Octets.at_ b (i - 1) with
        | 0 => runPixels b o ofHalves fuel i ((pixels + o.width - 1) / o.width * o.width) 0
        | 1 => some pixels
        | 2 =>
          if !Octets.isThere b i 2 then some pixels
          else if !Octets.isThere b i 4 then none
          else
            let pixels := pixels + Octets.at_ b (i + 2) + Octets.at_ b (i + 3) * o.width
            runPixels b o ofHalves fuel (i + 4) pixels (pixels % o.width)
        | n =>
          let octets := if ofHalves then n / 2 else n
          let there := min octets (b.size - i)
          let pixels := pixels + if ofHalves then 2 * there else there
          if there < octets then some pixels
          else runPixels b o ofHalves fuel (i + octets + (i + octets) % 2) pixels (x + n)

/-- runs fill an image of grey levels or of colours of a palette -/
def Opening.runsFit (o : Opening) (b : ByteArray) (ofHalves : Bool) : Bool :=
  (o.mode == .palette || o.mode == .grey) &&
    (runPixels b o ofHalves (b.size + 1) o.start 0 0).any fun pixels => o.width * o.height ≤ pixels

/-- the palette has 256 colours at most -/
def Opening.paletteFits (o : Opening) : Bool := o.mode != .palette || o.palette.1 / o.palette.2 ≤ 256

/-- reads the pixels -/
def Opening.load (o : Opening) (b : ByteArray) : Except ImageFault Unit :=
  ImageFault.demand (o.paletteFits &&
    match o.packing with
    | .plain => o.rowsFit b
    | .runs ofHalves => o.runsFit b ofHalves)

end ReportPress.Bmp
