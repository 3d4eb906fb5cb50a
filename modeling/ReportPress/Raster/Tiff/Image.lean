import ReportPress.Raster.Tiff.Packed
import ReportPress.Raster.Tiff.Strip
/-!
TIFF images: a directory of tagged entries tells the size, the samples and where the strips or tiles of pixels are. An
image may be turned; the size is that of the image set upright.
-/

namespace ReportPress.Tiff

/-- where the pixels are -/
inductive Pixels where
  | strips (strips : List Strip)
  /-- packed strips or tiles; none if the directory is no good for them -/
  | packed (p : Option Packed)
deriving DecidableEq, Repr

structure Opening where
  /-- the size as the rows are laid out -/
  size : Nat × Nat
  layout : Layout
  pixels : Pixels
  /-- octets of the palette -/
  palette : Nat
  /-- rows and columns change places -/
  isTurned : Bool
deriving DecidableEq, Repr

/-- the format of the samples; if all have the same, it is told once -/
def format? (d : Directory) : Option (List Int) :=
  let merged (ns : List Int) : List Int :=
    match ns with
    | n :: _ :: _ => if ns.all (· == n) then [n] else ns
    | _ => ns
  match d.lookup formatTag with
  | none => some [1]
  | some (.numbers ns) => some (merged ns)
  | some (.octets xs) => if xs.length < 2 then none else some (merged (xs.map Int.ofNat))
  | some _ => none

/-- more samples of a pixel are refused -/
def samplesLimit : Int := 6

/-- the bits of each sample: those beyond the number of samples are dropped, and a single one holds for all -/
def depths? (d : Directory) (samples : Int) : Option (List Int) :=
  match d.numbersOr? depthsTag [1] with
  | none => none
  | some depths =>
    if samples < 0 || samplesLimit < samples then none
    else
      let n := samples.toNat
      let depths := match depths with
        | [depth] => List.replicate n depth
        | _ => depths.take n
      if depths.length = n then some depths else none

/-- samples that pixels of a meaning have without the extra ones -/
def usualSamples (meaning : Int) : Nat :=
  if meaning = 2 || meaning = 6 || meaning = 8 then 3 else if meaning = 5 then 4 else 1

/-- the digit that tells how the image is turned, where metadata tell it -/
def turnDigit? : List Char → Option Nat
  | [] => none
  | c :: cs =>
    let found := ["tiff:Orientation=\"".toList, "tiff:Orientation>".toList].findSome? fun start =>
      if start.isPrefixOf (c :: cs) then
        ((c :: cs).drop start.length).head?.bind fun x => if x.isDigit then some (x.toNat - 48) else none
      else none
    found.or (turnDigit? cs)

/-- the ways to lie an image may have, that put rows where columns are -/
def isTurning (turn : Int) : Bool := 5 ≤ turn && turn ≤ 8

/-- the entry for turning, or the metadata if it lacks, turn the image -/
def turns (d : Directory) : Bool :=
  match d.lookup turnTag, d.lookup metadataTag with
  | some _, _ => (d.number? turnTag).any isTurning
  | none, some (.octets xs) | none, some (.blob xs) =>
    (turnDigit? (xs.map Char.ofNat)).any fun turn => isTurning turn
  | none, _ => false

/-- the plain strips or tiles of the image -/
def plainPixels? (d : Directory) (image : Nat × Nat) (bits planes : Nat) : Option Pixels := do
  let planes := if isParted d then some planes else none
  if (d.lookup stripsTag).isSome then
    let cut : Cut := ⟨image, image.1, ← natural? (← d.numberOr? rowsTag image.2), bits, planes⟩
    return .strips (cut.ordered (← d.items? stripsTag))
  else
    let width ← natural? (← d.number? tileWidthTag)
    let cut : Cut := ⟨image, width, ← natural? (← d.number? tileHeightTag), bits, planes⟩
    return .strips (cut.ordered (← d.items? tilesTag))

def isSigned (b : ByteArray) : Bool := (Tagged.ofOctets? b).isSome

def open? (b : ByteArray) : Option Opening := do
  let f ← Tagged.ofOctets? b
  let place ← f.firstPlace?
  guard (place != 0)
  let d := Directory.readAt f place
  guard (d.lookup foreignTag).isNone
  let number ← d.numberOr? packingTag 1
  let packing ← Packing.table.lookup number
  let meaning ← if number = Packing.oldPhoto then some 6 else d.numberOr? meaningTag 0
  let order ← d.numberOr? orderTag 1
  let width ← natural? (← d.number? widthTag)
  let height ← natural? (← d.number? heightTag)
  guard (width != 0 && height != 0)
  let format ← format? d
  let extra ← d.numbersOr? extraTag []
  let samples ← d.numberOr? samplesTag
    (if number = Packing.oldPhoto && (meaning = 2 || meaning = 6) then 3 else 1)
  let depths ← depths? d samples
  let form : Form := ⟨meaning, format, order, depths, extra⟩
  let layout ← form.layout? f.isBig
  let bits := (depths.foldl (· + ·) 0).toNat
  let pixels ←
    if packing = .plain then plainPixels? d (width, height) bits (usualSamples meaning + extra.length)
    else some (.packed (Packed.ofDirectory? f place d form packing (width, height) layout.mode.bands))
  let palette ← if layout.mode.hasPalette then (d.items? paletteTag).map List.length else some 0
  return ⟨(width, height), layout, pixels, palette, turns d⟩

/-- the size of the image set upright -/
def Opening.uprightSize (o : Opening) : Nat × Nat := if o.isTurned then (o.size.2, o.size.1) else o.size

/-- reads the pixels -/
def Opening.load (o : Opening) (b : ByteArray) : Except ImageFault Unit := do
  ImageFault.demand (o.palette / 3 ≤ 256)
  match o.pixels with
  | .strips strips => Strip.loadAll b o.size o.layout strips
  | .packed p => ImageFault.demand (p.any (Packed.fits · b))

end ReportPress.Tiff
