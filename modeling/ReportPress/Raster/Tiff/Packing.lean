import ReportPress.Raster.Inflate
/-!
Packed strips. A packed strip is whole if unpacking gives at least as many octets as its rows take: repeated octets,
strings of a growing table, or a compressed stream. Of packings that are not unpacked here only the start is looked at.
-/

namespace ReportPress.Tiff

inductive Packing where
  | plain
  /-- strings of a growing table -/
  | strings
  /-- a compressed stream -/
  | stream
  | repeats
  /-- rows of black and white for facsimile -/
  | facsimile
  /-- a format of its own, known by the octets it starts with -/
  | foreign (start : List Nat)
  /-- a packing that is known, but of no use here -/
  | useless
deriving DecidableEq, Repr

namespace Packing

/-- the number of the packing in which luminance is told apart from colour, in its old form -/
def oldPhoto : Int := 6

def table : List (Int × Packing) :=
  [(1, .plain), (2, .facsimile), (3, .facsimile), (4, .facsimile), (5, .strings), (oldPhoto, .useless),
   (7, .foreign [0xFF, 0xD8]), (8, .stream), (32771, .useless), (32773, .repeats), (32809, .useless), (32946, .stream),
   (34676, .useless), (34677, .useless), (34925, .foreign [0xFD, 0x37, 0x7A, 0x58, 0x5A, 0]),
   (50000, .foreign [0x28, 0xB5, 0x2F, 0xFD]), (50001, .foreign [0x52, 0x49, 0x46, 0x46])]

def isForeign : Packing → Bool
  | .foreign _ => true
  | _ => false

/-- octets are turned round before they are unpacked if their bits stand in the other order -/
def isReversible : Packing → Bool
  | .strings | .stream | .repeats => true
  | _ => false

end Packing

/-- repeated octets from a place on make up `left` octets: a count, and one octet to repeat or some to take over -/
def repeatsFill (b : ByteArray) : Nat → Nat → Nat → Bool
  | 0, _, left => left == 0
  | fuel + 1, i, left =>
    if left = 0 then true
    else if b.size ≤ i then false
    else
      let n := Octets.at_ b i
      if n = 128 then repeatsFill b fuel (i + 1) left
      else if 128 < n then i + 1 < b.size && repeatsFill b fuel (i + 2) (left - (257 - n))
      else
        let n := min (n + 1) left
        Octets.isThere b (i + 1) n && repeatsFill b fuel (i + 1 + n) (left - n)

namespace Strings

/-- `n` bits from a place, high bits first -/
def bits (b : ByteArray) (place : Nat) : Nat → Nat
  | 0 => 0
  | n + 1 => Octets.at_ b (place / 8) / Nat.pow 2 (7 - place % 8) % 2 * Nat.pow 2 n + bits b (place + 1) n

/-- the code that clears the table, and the code that ends the strip -/
def clear : Nat := 256

def finish : Nat := 257

def maxBits : Nat := 12

/-- the bits of a code when the table holds `n` strings besides the single octets: one more is taken one code early -/
def widthFor (n : Nat) : Nat := if n < 253 then 9 else if n < 765 then 10 else if n < 1789 then 11 else maxBits

/-- entries that the table has room for -/
def limit : Nat := 4861

/-- the strings make up `left` octets: `lengths` are those of the table, `last` is the code before -/
def fill (b : ByteArray) : Nat → Nat → Array Nat → Option Nat → Nat → Bool
  | 0, _, _, _, left => left == 0
  | fuel + 1, place, lengths, last, left =>
    let width := widthFor lengths.size
    if left = 0 then true
    else if b.size * 8 < place + width then false
    else
      let code := bits b place width
      let place := place + width
      if code = clear then fill b fuel place #[] none left
      else if code = finish then false
      else
        match last with
        | none => code < clear && fill b fuel place lengths (some code) (left - 1)
        | some last =>
          let lengthOf (c : Nat) : Nat := if c < clear then 1 else lengths[c - 258]?.getD 0
          let lengths := lengths.push (lengthOf last + 1)
          let n := if code < clear then 1 else lengths[code - 258]?.getD 0
          n != 0 && lengths.size ≤ limit && fill b fuel place lengths (some code) (left - n)

end Strings

/-- an octet with its bits in the other order -/
def reversed (x : UInt8) : UInt8 :=
  (List.range 8).foldl (fun y k => y ||| (((x >>> UInt8.ofNat k) &&& 1) <<< UInt8.ofNat (7 - k))) 0

/-- a packed strip unpacks to at least `count` octets -/
def Packing.fills (p : Packing) (b : ByteArray) (count : Nat) : Bool :=
  match p with
  | .plain => count ≤ b.size
  | .strings => Strings.fill b (8 * b.size + 1) 0 #[] none count
  | .stream =>
    let r := Inflate.run b ⟨count, count⟩
    count ≤ r.out.size && r.ending != .broken
  | .repeats => repeatsFill b (b.size + 1) 0 count
  | .facsimile => b.size != 0
  | .foreign start => Octets.matchesAt b 0 start
  | .useless => false

end ReportPress.Tiff
