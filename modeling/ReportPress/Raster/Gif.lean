import ReportPress.Raster.Fault
/-!
GIF images: a screen, an optional palette, and blocks of which the first image block counts. Its pixels are coded by a
growing table of strings; the image is whole if all its pixels come out before the octets end. Extensions are chains of
sub-blocks; what an extension tells about the image has to be there, all else is passed over.
-/

namespace ReportPress.Gif

/-- the first image of the file -/
structure Opening where
  /-- size of the screen, widened to hold the frame -/
  screen : Nat × Nat
  /-- where the frame lies: its left edge, and its size -/
  left : Nat
  size : Nat × Nat
  /-- bits of a code at the start, less one -/
  width : Nat
  /-- where the coded pixels start -/
  start : Nat
deriving DecidableEq, Repr

/-- the place after the chain of sub-blocks that starts at a place; a missing length ends it -/
def afterBlocks (b : ByteArray) : Nat → Nat → Nat
  | 0, i => i
  | fuel + 1, i =>
    let n := Octets.at_ b i
    if n = 0 then i + 1 else afterBlocks b fuel (i + 1 + n)

/-- the place after one sub-block -/
def afterBlock (b : ByteArray) (i : Nat) : Nat := i + 1 + Octets.at_ b i

def controlLabel : Nat := 249

def commentLabel : Nat := 254

def applicationLabel : Nat := 255

/-- the block of an extension that tells how often an animation is shown -/
def loopName : List Nat := Octets.ofAscii "NETSCAPE2.0"

/-- a block of control tells a delay, and the transparent colour if it says so; it has to be long enough for both. `n`
is how many octets of it are there -/
def controlFits (flags n : Nat) : Bool := 3 ≤ n && (flags % 2 == 0 || 4 ≤ n)

/-- the place after the extension whose label stands at a place. The first block may be empty; only a comment ends
there, any other extension goes on with the chain that follows -/
def afterExtension? (b : ByteArray) (i : Nat) : Option Nat :=
  let label := Octets.at_ b i
  let n := Octets.at_ b (i + 1)
  let block := i + 2
  let next := block + n
  if b.size ≤ i then none
  else if label = controlLabel && n ≠ 0 && !controlFits (Octets.at_ b block) (min n (b.size - block)) then none
  else if label = commentLabel then some (if n = 0 then next else afterBlocks b b.size next)
  else if label = applicationLabel && loopName.length ≤ n && Octets.matchesAt b block loopName then
    some (afterBlocks b b.size (afterBlock b next))
  else some (afterBlocks b b.size next)

/-- octets of a palette, by the octet that announces it -/
def paletteLength (flags : Nat) : Nat := if 128 ≤ flags then 3 * Nat.pow 2 (flags % 8 + 1) else 0

/-- the frame that starts at a place; a frame that widens the screen must not make it too large -/
def frameAt (b : ByteArray) (screen : Nat × Nat) (i : Nat) : Except ImageFault Opening := do
  ImageFault.demand (Octets.isThere b i 8)
  let left := Octets.little16 b i
  let size := (Octets.little16 b (i + 4), Octets.little16 b (i + 6))
  let wide := (max screen.1 (left + size.1), max screen.2 (Octets.little16 b (i + 2) + size.2))
  if wide != screen then ImageFault.demandSize wide
  let start := i + 9 + paletteLength (Octets.at_ b (i + 8))
  ImageFault.demand (Octets.isThere b start 1)
  return ⟨wide, left, size, Octets.at_ b start, start + 1⟩

/-- looks for the first image block from a place on -/
def findFrame (b : ByteArray) (screen : Nat × Nat) : Nat → Nat → Except ImageFault Opening
  | 0, _ => .error .unreadable
  | fuel + 1, i =>
    if b.size ≤ i then .error .unreadable
    else
      match Octets.at_ b i with
      | 0x2C => frameAt b screen (i + 1)
      | 0x21 =>
        match afterExtension? b (i + 1) with
        | some next => findFrame b screen fuel next
        | none => .error .unreadable
      | 0x3B => .error .unreadable
      | _ => findFrame b screen fuel (i + 1)

def isSigned (b : ByteArray) : Bool :=
  Octets.matchesAt b 0 (Octets.ofAscii "GIF87a") || Octets.matchesAt b 0 (Octets.ofAscii "GIF89a")

def open_ (b : ByteArray) : Except ImageFault Opening := do
  ImageFault.demand (Octets.isThere b 0 13)
  let screen := (Octets.little16 b 6, Octets.little16 b 8)
  let o ← findFrame b screen (b.size + 1) (13 + paletteLength (Octets.at_ b 10))
  ImageFault.demand (o.screen.1 != 0 && o.screen.2 != 0)
  return o

/-- how many pixels are coded; a frame of no width at the left edge stands for the whole screen -/
def Opening.pixels (o : Opening) : Nat :=
  if o.left + o.size.1 = 0 then o.screen.1 * o.screen.2 else o.size.1 * o.size.2

/-- the octets of the sub-blocks from a place on, up to the last one that is all there; empty ones are passed over.
`coded` holds those before -/
def codedOctets (b : ByteArray) : Nat → Nat → ByteArray → ByteArray
  | 0, _, coded => coded
  | fuel + 1, i, coded =>
    let n := Octets.at_ b i
    if Octets.isThere b i (n + 1) then codedOctets b fuel (i + 1 + n) (coded ++ Octets.slice b (i + 1) n) else coded

/-- `n` bits from a place, low bits first -/
def bits (b : ByteArray) (place : Nat) : Nat → Nat
  | 0 => 0
  | n + 1 => Octets.at_ b (place / 8) / Nat.pow 2 (place % 8) % 2 + 2 * bits b (place + 1) n

/-- codes have twelve bits at most, and the table as many entries as there are codes -/
def maxBits : Nat := 12

def tableSize : Nat := Nat.pow 2 maxBits

/-- the table of strings: how long the string of each code is -/
structure Table where
  /-- bits of a code -/
  width : Nat
  /-- the lengths of the strings of the codes after the end code -/
  lengths : Array Nat
  /-- the code before, if there is one since the table was cleared -/
  last : Option Nat

def Table.fresh (width : Nat) : Table := ⟨width + 1, #[], none⟩

/-- the length of the string of a code, if the table has it -/
def Table.lengthOf? (t : Table) (clear code : Nat) : Option Nat :=
  if code < clear then some 1 else if code < tableSize then t.lengths[code - (clear + 2)]? else none

/-- the table with a string one longer than that of the code before; a full table stays as it is -/
def Table.grow (t : Table) (clear added : Nat) : Table :=
  let next := clear + 2 + t.lengths.size
  if next < tableSize then
    { t with
      lengths := t.lengths.push added
      width := if next + 1 = Nat.pow 2 t.width && t.width < maxBits then t.width + 1 else t.width }
  else t

/-- the pixels come out in full: `left` is how many are still to come, `clear` the code that clears the table -/
def fills (b : ByteArray) (clear width : Nat) : Nat → Nat → Table → Nat → Bool
  | 0, _, _, _ => false
  | fuel + 1, place, t, left =>
    if b.size * 8 < place + t.width then false
    else
      let code := bits b place t.width
      let place := place + t.width
      if code = clear then
        fills b clear width fuel place (if t.last.isSome then Table.fresh width else t) left
      else if code = clear + 1 then false
      else
        match t.last with
        | none =>
          if clear < code then false
          else if left ≤ 1 then true
          else fills b clear width fuel place { t with last := some code } (left - 1)
        | some last =>
          let next := clear + 2 + t.lengths.size
          let added := (t.lengthOf? clear last).map (· + 1)
          match if code = next then added else t.lengthOf? clear code with
          | none => false
          | some n =>
            if left ≤ n then true
            else fills b clear width fuel place { t.grow clear (added.getD 0) with last := some code } (left - n)

/-- reads the pixels -/
def Opening.load (o : Opening) (b : ByteArray) : Except ImageFault Unit :=
  let coded := codedOctets b b.size o.start ByteArray.empty
  let clear := Nat.pow 2 o.width
  ImageFault.demand
    (o.width ≤ maxBits && o.pixels != 0 &&
      fills coded clear o.width (8 * coded.size + 1) 0 (Table.fresh o.width) o.pixels)

end ReportPress.Gif
