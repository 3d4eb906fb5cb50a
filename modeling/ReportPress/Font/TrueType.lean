/-!
Widths read from a TrueType or OpenType file: the advance of each glyph and the glyph of each character, scaled to
thousandths of the font size. Only the tables for these two are looked at. A character without a glyph is as wide as
the first glyph of the file.
-/

namespace ReportPress.Font

/-- the widths of a font's characters -/
structure Metrics where
  widths : List (Nat × Nat)
  missing : Nat
deriving Repr

def Metrics.width (m : Metrics) (c : Char) : Nat := (m.widths.lookup c.toNat).getD m.missing

namespace TrueType

def byte (b : ByteArray) (i : Nat) : Nat := if h : i < b.size then b[i].toNat else 0

def u16 (b : ByteArray) (i : Nat) : Nat := byte b i * 256 + byte b (i + 1)

def u32 (b : ByteArray) (i : Nat) : Nat := u16 b i * 65536 + u16 b (i + 2)

/-- the first four octets of a font file -/
def versions : List Nat := [0x00010000, 0x4F54544F, 0x74727565]

/-- where a table starts, by its four-letter name read as a number -/
def table? (b : ByteArray) (tag : Nat) : Option Nat :=
  ((List.range (u16 b 4)).find? fun i => u32 b (12 + 16 * i) == tag).map fun i => u32 b (12 + 16 * i + 8)

/-- the characters from `first` to `last` as glyphs from `glyph` on -/
def rangeGlyphs (first last glyph : Nat) : List (Nat × Nat) :=
  (List.range (last + 1 - first)).map fun k => (first + k, glyph + k)

/-- characters and glyphs of a segment of a table by segments -/
def segmentGlyphs (b : ByteArray) (start count i : Nat) : List (Nat × Nat) :=
  let last := u16 b (start + 14 + 2 * i)
  let first := u16 b (start + 16 + 2 * count + 2 * i)
  let delta := u16 b (start + 16 + 4 * count + 2 * i)
  let place := start + 16 + 6 * count + 2 * i
  let offset := u16 b place
  (List.range (last + 1 - first)).filterMap fun k =>
    let c := first + k
    let g := if offset = 0 then (c + delta) % 65536
      else
        let raw := u16 b (place + offset + 2 * k)
        if raw = 0 then 0 else (raw + delta) % 65536
    if g = 0 then none else some (c, g)

/-- characters and glyphs of one table of characters -/
def subtableGlyphs (b : ByteArray) (start : Nat) : List (Nat × Nat) :=
  match u16 b start with
  | 4 =>
    let count := u16 b (start + 6) / 2
    (List.range count).flatMap (segmentGlyphs b start count)
  | 12 =>
    (List.range (u32 b (start + 12))).flatMap fun i =>
      let group := start + 16 + 12 * i
      let first := u32 b group
      let last := min (u32 b (group + 4)) 0x10FFFF
      rangeGlyphs first last (u32 b (group + 8))
  | _ => []

def charGlyphs (b : ByteArray) (start : Nat) : List (Nat × Nat) :=
  (List.range (u16 b (start + 2))).flatMap fun i => subtableGlyphs b (start + u32 b (start + 4 + 8 * i + 4))

/-- `n / d` and a thousandth, to the nearest integer -/
def scale (n d : Nat) : Nat := (2 * (1000 * n) + d / 500 + d) / (2 * d)

def read? (b : ByteArray) : Option Metrics :=
  if !versions.contains (u32 b 0) then none
  else
    match table? b 0x68656164, table? b 0x68686561, table? b 0x686D7478, table? b 0x636D6170 with
    | some head, some hhea, some hmtx, some cmap =>
      let em := u16 b (head + 18)
      let count := u16 b (hhea + 34)
      if em = 0 ∨ count = 0 then none
      else
        let advance (g : Nat) : Nat := scale (u16 b (hmtx + 4 * min g (count - 1))) em
        some ⟨(charGlyphs b cmap).map fun p => (p.1, advance p.2), advance 0⟩
    | _, _, _, _ => none

end TrueType

end ReportPress.Font
