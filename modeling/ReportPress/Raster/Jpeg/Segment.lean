import ReportPress.Raster.Jpeg.Reader
/-!
The segments of a JPEG image as a decoder takes them: tables, the frame, and scans. A decoder knows fewer segments than
a reader of the head does, and checks them more strictly. Where the file ends within a segment, decoding is cut off.
-/

namespace ReportPress.Jpeg

structure Component where
  id : Nat
  /-- samples beside and above each other, against those of the other components -/
  across : Nat
  down : Nat
  table : Nat
deriving DecidableEq, Repr

inductive Coding where
  | sequential
  | progressive
deriving DecidableEq, Repr

structure Frame where
  coding : Coding
  /-- coded by fractions of an interval instead of by bits -/
  isArithmetic : Bool
  width : Nat
  height : Nat
  components : List Component
deriving DecidableEq, Repr

/-- a component in a scan: its index in the frame, and the codes it uses -/
structure ScanPart where
  index : Nat
  means : Nat
  coefficients : Nat
deriving DecidableEq, Repr

structure Scan where
  parts : List ScanPart
  /-- the first and the last coefficient -/
  first : Nat
  last : Nat
  /-- the lowest bit that was sent before, and that is sent now -/
  high : Nat
  low : Nat
deriving DecidableEq, Repr

/-- what the segments so far have told -/
structure Tables where
  /-- numbers of the quantization tables that are there -/
  quantizers : List Nat := []
  means : List (Nat × Code) := []
  coefficients : List (Nat × Code) := []
  /-- units between restarts; zero for none -/
  interval : Nat := 0
  frame : Option Frame := none

/-- a step that may stop decoding -/
abbrev Stepping (α : Type) := Except Stop α

def broken {α : Type} : Stepping α := .error .broken

def demand (holds : Bool) : Stepping Unit := if holds then .ok () else .error .broken

/-- the length of the segment at a place; all of it has to be there -/
def segmentAt (b : ByteArray) (i : Nat) : Stepping Nat :=
  let length := Octets.big16 b i
  if Octets.isThere b i (max length 2) then .ok length else .error .cut

namespace Tables

/-- tables of codes from a place on, `left` octets of them -/
def readCodes (b : ByteArray) : Nat → Nat → Nat → Tables → Stepping Tables
  | 0, _, _, _ => broken
  | fuel + 1, i, left, t =>
    if left ≤ 16 then if left = 0 then .ok t else broken
    else
      let number := Octets.at_ b i
      let counts := Octets.list b (i + 1) 16
      let count := counts.foldl (· + ·) 0
      if 256 < count || left < 17 + count then broken
      else
        let code := Code.ofCounts counts (Octets.list b (i + 17) count)
        let isMean := number / 16 % 2 = 0
        let number := if isMean then number else number - 16
        if 4 ≤ number then broken
        else
          readCodes b fuel (i + 17 + count) (left - 17 - count)
            (if isMean then { t with means := (number, code) :: t.means }
             else { t with coefficients := (number, code) :: t.coefficients })

/-- quantization tables from a place on -/
def readQuantizers (b : ByteArray) : Nat → Nat → Nat → Tables → Stepping Tables
  | 0, _, _, _ => broken
  | fuel + 1, i, left, t =>
    if left = 0 then .ok t
    else
      let number := Octets.at_ b i % 16
      let length := if Octets.at_ b i / 16 = 0 then 65 else 129
      if 4 ≤ number || left < length then broken
      else readQuantizers b fuel (i + length) (left - length) { t with quantizers := number :: t.quantizers }

/-- conditions for arithmetic coding: pairs of a table and a value -/
def conditionsFit (b : ByteArray) : Nat → Nat → Bool
  | _, 0 => true
  | _, 1 => false
  | i, left + 2 =>
    let number := Octets.at_ b i
    let value := Octets.at_ b (i + 1)
    number < 32 && (16 ≤ number || value % 16 ≤ value / 16) && conditionsFit b (i + 2) left

def readComponent (b : ByteArray) (i : Nat) : Component :=
  ⟨Octets.at_ b i, Octets.at_ b (i + 1) / 16, Octets.at_ b (i + 1) % 16, Octets.at_ b (i + 2)⟩

/-- the segment of a frame; there must be one frame only -/
def readFrame (b : ByteArray) (coding : Coding) (isArithmetic : Bool) (i length : Nat) (t : Tables) :
    Stepping Tables := do
  let height := Octets.big16 b (i + 3)
  let width := Octets.big16 b (i + 5)
  let count := Octets.at_ b (i + 7)
  demand (t.frame.isNone && length = 8 + 3 * count && height != 0 && width != 0 && count != 0)
  let components := (List.range count).map fun k => readComponent b (i + 8 + 3 * k)
  return { t with frame := some ⟨coding, isArithmetic, width, height, components⟩ }

end Tables

/-- the part of a scan at a place: a component's name, which must not stand before an earlier part's, and two codes -/
def readPart (b : ByteArray) (components : List Component) (i rank : Nat) : Stepping ScanPart :=
  let id := Octets.at_ b i
  let codes := Octets.at_ b (i + 1)
  match (List.range (min components.length 4)).find? fun k => rank ≤ k && (components[k]?).any (·.id == id) with
  | some index => .ok ⟨index, codes / 16, codes % 16⟩
  | none => broken

/-- the segment of a scan -/
def readScan (b : ByteArray) (i length : Nat) (t : Tables) : Stepping Scan := do
  let count := Octets.at_ b (i + 2)
  match t.frame with
  | none => broken
  | some frame =>
    demand (length = 6 + 2 * count && 1 ≤ count && count ≤ 4)
    let parts ← (List.range count).mapM fun k => readPart b frame.components (i + 3 + 2 * k) k
    demand (decide (parts.map (·.index)).Nodup)
    let after := i + 3 + 2 * count
    return ⟨parts, Octets.at_ b after, Octets.at_ b (after + 1), Octets.at_ b (after + 2) / 16,
      Octets.at_ b (after + 2) % 16⟩

/-- what ends a run of segments -/
inductive Halt where
  | scan (s : Scan)
  | finish
deriving DecidableEq, Repr

/-- markers of the frames that are decoded, and of tables -/
def isTaken (m : Nat) : Bool := [0xC0, 0xC1, 0xC2, 0xC4, 0xC9, 0xCA, 0xCC, 0xDB, 0xDD].contains m

/-- a marker's segment that is neither a scan's nor the end: the tables after it, and the place after it -/
def takeSegment (b : ByteArray) (m i : Nat) (t : Tables) : Stepping (Tables × Nat) := do
  if m = 1 || (0xD0 ≤ m && m ≤ 0xD7) then return (t, i)
  else if (0xE0 ≤ m && m ≤ 0xEF) || m = 0xFE || m = 0xDC then
    let length := Octets.big16 b i
    if Octets.isThere b i 2 then return (t, i + max length 2) else throw .cut
  else if !isTaken m then broken
  else
    let length ← segmentAt b i
    demand (2 ≤ length)
    let t ← match m with
      | 0xC0 | 0xC1 => t.readFrame b .sequential false i length
      | 0xC2 => t.readFrame b .progressive false i length
      | 0xC9 => t.readFrame b .sequential true i length
      | 0xCA => t.readFrame b .progressive true i length
      | 0xC4 => t.readCodes b length (i + 2) (length - 2)
      | 0xDB => t.readQuantizers b length (i + 2) (length - 2)
      | 0xCC => do
        demand (Tables.conditionsFit b (i + 2) (length - 2))
        pure t
      | _ => do
        demand (length = 4)
        pure { t with interval := Octets.big16 b (i + 2) }
    return (t, i + length)

/-- segments from a place on, up to the next scan or the end; `marker` is the one that came up before, or zero -/
def readSegments (b : ByteArray) : Nat → Nat → Nat → Tables → Stepping (Halt × Tables × Nat)
  | 0, _, _, _ => .error .cut
  | fuel + 1, marker, i, t =>
    match if marker = 0 then nextMarker? b b.size i else some (marker, i) with
    | none => .error .cut
    | some (m, i) =>
      if m = 0xD9 then .ok (.finish, t, i)
      else if m = 0xDA then do
        let length ← segmentAt b i
        return (.scan (← readScan b i length t), t, i + length)
      else do
        let (t, i) ← takeSegment b m i t
        readSegments b fuel 0 i t

end ReportPress.Jpeg
