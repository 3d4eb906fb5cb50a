import ReportPress.Raster.Tiff.Layout
import ReportPress.Raster.Tiff.Packing
import ReportPress.Raster.Tiff.Tags
/-!
Packed strips and tiles. For a packed image the directory is read more strictly: it has to be all there, and its numbers
have to be ones that a strip can have. Each strip or tile that the image needs has to be in the file and unpack to its
rows; lengths that the directory does not tell are guessed from the size of the file.
-/

namespace ReportPress.Tiff

/-- a strip or tile -/
structure Piece where
  rows : Nat
  place : Nat
  length : Nat
deriving DecidableEq, Repr

structure Packed where
  packing : Packing
  /-- bits stand in the other order -/
  isReversed : Bool
  /-- octets that are there count as right, whatever they unpack to -/
  isLenient : Bool
  /-- octets of a row -/
  row : Nat
  pieces : List Piece
deriving DecidableEq, Repr

/-- the least whole number that is not below a quotient -/
def ceilDiv (n d : Nat) : Nat := (n + d - 1) / d

/-- the numbers of an entry, none of them negative -/
def naturals? (d : Directory) (tag : Nat) : Option (List Nat) := do (← d.items? tag).mapM natural?

/-- rows of a strip; an entry of all ones stands for all rows -/
def stripRows? (d : Directory) (height : Nat) : Option Nat := do
  let rows ← natural? (← d.numberOr? rowsTag height)
  if rows = 0 || (Nat.pow 2 31 ≤ rows && rows ≠ Nat.pow 2 32 - 1) then none else some (min rows height)

/-- lengths of `count` pieces that the directory does not tell: all that it leaves free in the file, and for the last
one no more than follows its place -/
def guess? (f : Tagged) (place parts count : Nat) (places : List Nat) : Option (List Nat) := do
  let used ← Directory.spaceAt? f place
  let size := f.octets.size
  let free := (if size < used then size else size - used) / parts
  return List.replicate (count - 1) free ++ [min free (size - places[count - 1]?.getD 0)]

/-- the lengths of `count` pieces: those told, or a guess if there is one piece for each plane -/
def pieceLengths? (f : Tagged) (place parts count : Nat) (isTiled : Bool) (places : List Nat)
    (told : Option (List Nat)) : Option (List Nat) :=
  match told with
  | none => if count = parts then guess? f place parts count places else none
  | some lengths =>
    if count = 1 && !isTiled && lengths.headD 0 = 0 && places.headD 0 ≠ 0 then guess? f place parts count places
    else some lengths

/-- differences of samples that can be added up again -/
def differencesFit (d : Directory) (depth : Nat) (isReal : Bool) : Bool :=
  match (d.number? differencesTag).getD 1 with
  | 1 => true
  | 2 => [8, 16, 32, 64].contains depth
  | 3 => isReal && [16, 24, 32, 64].contains depth
  | _ => false

/-- the packing goes with the samples -/
def Packing.suits (p : Packing) (d : Directory) (depth : Nat) (isReal : Bool) : Bool :=
  match p with
  | .strings | .stream => differencesFit d depth isReal
  | .facsimile => depth == 1
  | _ => true

/-- luminance and two differences of colours: only the usual three samples of eight bits can be unpacked -/
def lenience? (form : Form) (packing : Packing) (isParted : Bool) : Option Bool :=
  if form.meaning ≠ 6 || packing.isForeign then some false
  else if form.depths = Form.eights 3 && !isParted then some true
  else none

namespace Packed

/-- the pieces that an image needs: `perPlane` of them for each of its planes, the last one of a plane may be lower -/
def needed (height rows perPlane planes : Nat) (isTiled : Bool) (places lengths : List Nat) : Option (List Piece) :=
  let count := perPlane * planes
  if lengths.length < count then none
  else
    some ((List.range count).map fun k =>
      ⟨if isTiled then rows else min rows (height - k % perPlane * rows), places[k]?.getD 0, lengths[k]?.getD 0⟩)

/-- the packed image of the directory at a place; `bands` is how many samples its pixels have when they are unpacked -/
def ofDirectory? (f : Tagged) (place : Nat) (d : Directory) (form : Form) (packing : Packing) (image : Nat × Nat)
    (bands : Nat) : Option Packed := do
  guard (f.isStrict && Directory.isWholeAt f place)
  let samples := form.depths.length
  let depth ← natural? (form.depths.headD 1)
  let isParted := isParted d
  let isTiled := (d.lookup tileWidthTag).isSome || (d.lookup tileHeightTag).isSome
  let width ← if isTiled then natural? (← d.number? tileWidthTag) else some image.1
  let rows ← if isTiled then natural? (← d.number? tileHeightTag) else stripRows? d image.2
  guard (width != 0 && rows != 0 && packing.suits d depth (form.format == [3]))
  let isLenient ← lenience? form packing isParted
  let parts := if isParted then samples else 1
  let planes := if isParted && 1 < bands then bands else 1
  guard (planes = 1 || depth = 8 || depth = 16)
  let perPlane := ceilDiv image.1 width * ceilDiv image.2 rows
  let places ← (naturals? d stripsTag).or (naturals? d tilesTag)
  let told ← if (d.lookup lengthsTag).isSome || (d.lookup tileLengthsTag).isSome then
      ((naturals? d lengthsTag).or (naturals? d tileLengthsTag)).map some
    else some none
  let lengths ← pieceLengths? f place parts (perPlane * parts) isTiled places told
  return {
    packing := packing
    isReversed := form.order == 2
    isLenient := isLenient
    row := (width * depth * (if isParted then 1 else samples) + 7) / 8
    pieces := ← needed image.2 rows perPlane planes isTiled places lengths }

/-- a piece is in the file, and unpacks to its rows -/
def pieceFits (p : Packed) (b : ByteArray) (piece : Piece) : Bool :=
  let octets := Octets.slice b piece.place piece.length
  let octets := if p.isReversed && p.packing.isReversible then ⟨octets.data.map reversed⟩ else octets
  0 < piece.length && Octets.isThere b piece.place piece.length &&
    (p.isLenient || p.packing.fills octets (p.row * piece.rows))

/-- all pieces can be unpacked -/
def fits (p : Packed) (b : ByteArray) : Bool := p.pieces.all (p.pieceFits b)

end Packed

end ReportPress.Tiff
