import ReportPress.Raster.Directory
import ReportPress.Raster.Jpeg.Decoder
/-!
JPEG images: markers, most of them with a segment of a length of its own, up to the first scan. The head is read first,
and it is read more loosely than it is decoded. A segment may hold the directory of an album of images; an album is no
plain JPEG image.
-/

namespace ReportPress.Jpeg

/-- markers of frames: they hold the size of the image -/
def isFrame (m : Nat) : Bool := (0xC0 ≤ m && m ≤ 0xCF && m != 0xC4 && m != 0xC8 && m != 0xCC) || m == 0xDE

/-- markers without a segment -/
def isBare (m : Nat) : Bool := (0xD0 ≤ m && m ≤ 0xD9) || m == 0xC8 || (0xF0 ≤ m && m ≤ 0xFD)

/-- markers that are known at all -/
def isKnown (m : Nat) : Bool := 0xC0 ≤ m && m ≤ 0xFE

/-- grey, colours, and colours for print -/
def componentCounts : List Nat := [1, 3, 4]

/-- what the segments of the head have told -/
structure Head where
  size : Option (Nat × Nat) := none
  /-- the parts of a colour profile since the last frame -/
  profile : List (List Nat) := []
  /-- the directory of an album -/
  album : Option ByteArray := none
  /-- a second image widens the range of light -/
  hasGainMap : Bool := false

/-- the contents of a segment: where they start, and how many octets they are -/
structure Contents where
  start : Nat
  length : Nat

namespace Contents

def startsWith (c : Contents) (b : ByteArray) (xs : List Nat) : Bool :=
  xs.length ≤ c.length && Octets.matchesAt b c.start xs

/-- the given octets are somewhere in the contents -/
def holds (c : Contents) (b : ByteArray) (xs : List Nat) : Bool :=
  (List.range c.length).any fun k => k + xs.length ≤ c.length && Octets.matchesAt b (c.start + k) xs

end Contents

/-- precision and number of the quantization tables in the octets from `i` up to `last` fit -/
def tablesFit (b : ByteArray) (last : Nat) : Nat → Nat → Bool
  | 0, _ => true
  | fuel + 1, i =>
    if last ≤ i then true
    else
      let length := if Octets.at_ b i / 16 == 0 then 65 else 129
      i + length ≤ last && tablesFit b last fuel (i + length)

/-- a profile whose first part is too short for its number breaks the frame that follows -/
def profileFits (parts : List (List Nat)) : Bool :=
  match parts with
  | [] => true
  | p :: rest => 14 ≤ (rest.foldl (fun least q => if q < least then q else least) p).length

/-- the frame: eight bits a sample; one, three or four components; and three octets for each that is told -/
def Head.readFrame (h : Head) (b : ByteArray) (c : Contents) : Option Head :=
  if c.length < 6 || Octets.at_ b c.start != 8 || !componentCounts.contains (Octets.at_ b (c.start + 5)) ||
      (c.length - 6) % 3 != 0 || !profileFits h.profile then none
  else some { h with size := some (Octets.big16 b (c.start + 3), Octets.big16 b (c.start + 1)), profile := [] }

/-- an octet rounded up to an even place -/
def even (n : Nat) : Nat := n + n % 2

/-- blocks of resources, at a place counted from the start of the contents: each a number, a name, and a length. A
name's length has to be there; what lacks after it ends the blocks -/
def resourcesFit (b : ByteArray) (c : Contents) : Nat → Nat → Bool
  | 0, _ => true
  | fuel + 1, k =>
    if !(k + 4 ≤ c.length && Octets.matchesAt b (c.start + k) (Octets.ofAscii "8BIM")) then true
    else if c.length < k + 6 then true
    else if c.length < k + 7 then false
    else
      let after := even (k + 7 + Octets.at_ b (c.start + k + 6))
      if c.length < after + 4 then true
      else resourcesFit b c fuel (even (after + 4 + Octets.big32 b (c.start + after)))

/-- the mark of a second image that widens the range of light -/
def gainMark : List Nat := Octets.ofAscii " hdrgm:Version=\""

/-- an application's segment -/
def Head.readApplication (h : Head) (b : ByteArray) (m : Nat) (c : Contents) : Option Head :=
  let named (name : String) (nulls : Nat) : Bool := c.startsWith b (Octets.ofAscii name ++ List.replicate nulls 0)
  if m = 0xE0 && named "JFIF" 0 then if 7 ≤ c.length then some h else none
  else if m = 0xE1 then some { h with hasGainMap := h.hasGainMap || c.holds b gainMark }
  else if m = 0xE2 && named "ICC_PROFILE" 1 then
    some { h with profile := Octets.list b c.start c.length :: h.profile }
  else if m = 0xE2 && named "MPF" 1 then some { h with album := some (Octets.slice b (c.start + 4) (c.length - 4)) }
  else if m = 0xED && named "Photoshop 3.0" 1 then if resourcesFit b c c.length 14 then some h else none
  else if m = 0xEE && named "Adobe" 0 then if 7 ≤ c.length then some h else none
  else some h

/-- goes through the markers from place `i` on, up to the first scan -/
def headFrom? (b : ByteArray) : Nat → Nat → Head → Option Head
  | 0, _, _ => none
  | fuel + 1, i, h =>
    if b.size ≤ i + 1 then none
    else if Octets.at_ b i != 0xFF then headFrom? b fuel (i + 1) h
    else
      let m := Octets.at_ b (i + 1)
      let segment := i + 2
      if m == 0xFF then headFrom? b fuel (i + 1) h
      else if m == 0 then headFrom? b fuel (i + 2) h
      else if !isKnown m then none
      else if isBare m then headFrom? b fuel segment h
      else
        let length := Octets.big16 b segment
        let c : Contents := ⟨segment + 2, length - 2⟩
        let next := segment + max length 2
        if !Octets.isThere b segment (max length 2) then none
        else if m == 0xDA then some h
        else if isFrame m then (h.readFrame b c).bind (headFrom? b fuel next)
        else if m == 0xDB then if tablesFit b next length c.start then headFrom? b fuel next h else none
        else if 0xE0 ≤ m && m ≤ 0xEF then (h.readApplication b m c).bind (headFrom? b fuel next)
        else headFrom? b fuel next h

/-- what the directory of an album makes of the image -/
inductive Album where
  /-- there is none, or none that is understood -/
  | none
  | several
  /-- entries are missing -/
  | broken
deriving DecidableEq, Repr

def countTag : Nat := 0xB001

def entriesTag : Nat := 0xB002

/-- octets of an entry of an album -/
def entrySize : Nat := 16

/-- the entries of an album of `count` images, from one on: each is of a known format, told by three bits -/
def entriesFit (isBig : Bool) (entries : List Nat) : Nat → Album
  | 0 => .several
  | count + 1 =>
    let format := entries[if isBig then 0 else 3]?.getD 0
    if (entries.take entrySize).length < entrySize then .broken
    else if format % 8 != 0 then .none
    else entriesFit isBig (entries.drop entrySize) count

/-- the album that a directory tells of; a single image is none -/
def albumOf (b : ByteArray) : Album :=
  match (Tagged.ofOctets? b).filter (!·.isWide) with
  | Option.none => .none
  | some f =>
    match f.firstPlace? with
    | Option.none => .none
    | some place =>
      let d := Directory.readAt f place
      match d.number? countTag, d.lookup entriesTag with
      | some count, some (.blob entries) | some count, some (.octets entries) =>
        let isBig := Octets.matchesAt b 0 [0x4D, 0x4D, 0, 42]
        match entriesFit isBig entries count.toNat with
        | .several => if 1 < count then .several else .none
        | album => album
      | _, _ => .none

structure Opening where
  size : Nat × Nat
  isAlbum : Bool
deriving DecidableEq, Repr

def isSigned (b : ByteArray) : Bool := Octets.matchesAt b 0 [0xFF, 0xD8, 0xFF]

def open? (b : ByteArray) : Option Opening := do
  let h ← headFrom? b b.size 2 {}
  let size ← h.size
  guard (size.1 != 0 && size.2 != 0)
  match (h.album.map albumOf).getD .none with
  | .none => return ⟨size, false⟩
  | .several => return ⟨size, !h.hasGainMap⟩
  | .broken => failure

/-- reads the pixels -/
def load (b : ByteArray) : Except ImageFault Unit :=
  match decode b with
  | .ok () => .ok ()
  | .error _ => .error .unreadable

end ReportPress.Jpeg
