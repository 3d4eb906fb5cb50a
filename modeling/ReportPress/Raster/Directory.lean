import ReportPress.Raster.Fault
/-!
Directories of tagged entries, as TIFF images and albums of JPEG images hold them. An entry is a tag, a type, a count,
and a value that stands in the entry itself or, if it is too long, elsewhere. Entries of unknown types and entries
without a value are passed over; where the octets end, the directory ends. Numbers have one order of octets; in wide
files counts and places have eight octets.
-/

namespace ReportPress

/-- octets with an order and a width of numbers -/
structure Tagged where
  octets : ByteArray
  isBig : Bool
  isWide : Bool := false

namespace Tagged

def n16 (f : Tagged) (i : Nat) : Nat := if f.isBig then Octets.big16 f.octets i else Octets.little16 f.octets i

def n32 (f : Tagged) (i : Nat) : Nat := if f.isBig then Octets.big32 f.octets i else Octets.little32 f.octets i

def n64 (f : Tagged) (i : Nat) : Nat := if f.isBig then Octets.big64 f.octets i else Octets.little64 f.octets i

/-- a count or a place -/
def word (f : Tagged) (i : Nat) : Nat := if f.isWide then f.n64 i else f.n32 i

/-- octets of a count or a place -/
def wordSize (f : Tagged) : Nat := if f.isWide then 8 else 4

/-- the four octets that such a file starts with: two letters for the order, and a number for the width; of the narrow
form the number may stand in the wrong order -/
def heads : List (List Nat × Bool × Bool) :=
  [([0x4D, 0x4D, 0, 42], true, false), ([0x49, 0x49, 42, 0], false, false), ([0x4D, 0x4D, 42, 0], true, false),
   ([0x49, 0x49, 0, 42], false, false), ([0x4D, 0x4D, 0, 43], true, false), ([0x49, 0x49, 43, 0], false, true)]

def ofOctets? (b : ByteArray) : Option Tagged :=
  (heads.find? fun h => Octets.matchesAt b 0 h.1).map fun h => ⟨b, h.2.1, h.2.2⟩

/-- the head is one that all readers take: the number for the width stands in the order of the letters, and in the wide
form the width of places follows it -/
def isStrict (f : Tagged) : Bool :=
  let b := f.octets
  Octets.matchesAt b 0 [0x4D, 0x4D, 0, 42] || Octets.matchesAt b 0 [0x49, 0x49, 42, 0] ||
    Octets.matchesAt b 0 [0x49, 0x49, 43, 0, 8, 0, 0, 0]

/-- the place of the first directory -/
def firstPlace? (f : Tagged) : Option Nat :=
  let place := if f.isWide then 8 else 4
  if Octets.isThere f.octets place f.wordSize then some (f.word place) else none

end Tagged

/-- the value of an entry -/
inductive TagValue where
  | numbers (ns : List Int)
  /-- single octets: numbers, if they are taken one by one -/
  | octets (xs : List Nat)
  /-- octets of no type -/
  | blob (xs : List Nat)
  | text (xs : List Nat)
  | fractions
deriving DecidableEq, Repr

namespace TagValue

/-- octets of an item of each type -/
def sizes : List (Nat × Nat) :=
  [(1, 1), (2, 1), (3, 2), (4, 4), (5, 8), (6, 1), (7, 1), (8, 2), (9, 4), (10, 8), (11, 4), (12, 8), (13, 4), (16, 8)]

/-- a number of `bits` bits whose highest bit stands for a negative number -/
def signed (bits n : Nat) : Int := if Nat.pow 2 (bits - 1) ≤ n then n - (Nat.pow 2 bits : Nat) else n

/-- the value of a type that starts at a place, of `count` items -/
def read (f : Tagged) (type place count : Nat) : TagValue :=
  let items (size : Nat) (item : Nat → Int) : TagValue :=
    .numbers ((List.range count).map fun k => item (place + size * k))
  match type with
  | 1 => .octets (Octets.list f.octets place count)
  | 2 => .text (Octets.list f.octets place count)
  | 3 => items 2 fun i => f.n16 i
  | 4 | 13 => items 4 fun i => f.n32 i
  | 6 => items 1 fun i => signed 8 (Octets.at_ f.octets i)
  | 7 => .blob (Octets.list f.octets place count)
  | 8 => items 2 fun i => signed 16 (f.n16 i)
  | 9 => items 4 fun i => signed 32 (f.n32 i)
  | 16 => items 8 fun i => f.n64 i
  | _ => .fractions

end TagValue

/-- the entries of a directory by their tags, the last one first -/
abbrev Directory := List (Nat × TagValue)

namespace Directory

/-- octets of an entry -/
def entrySize (f : Tagged) : Nat := 4 + 2 * f.wordSize

/-- the entry at a place: nothing if the octets end before its value does, no value if it is passed over -/
def entryAt? (f : Tagged) (i : Nat) : Option (Option (Nat × TagValue)) :=
  let count := f.word (i + 4)
  let inside := i + 4 + f.wordSize
  if !Octets.isThere f.octets i (entrySize f) then none
  else
    match TagValue.sizes.lookup (f.n16 (i + 2)) with
    | none => some none
    | some size =>
      let place := if size * count ≤ f.wordSize then inside else f.word inside
      if count = 0 then some none
      else if Octets.isThere f.octets place (size * count) then
        some (some (f.n16 i, TagValue.read f (f.n16 (i + 2)) place count))
      else none

/-- the entries from a place on, `count` of them at most; `fuel` bounds those that there can be -/
def entriesFrom (f : Tagged) : Nat → Nat → Nat → Directory → Directory
  | 0, _, _, d => d
  | fuel + 1, count, i, d =>
    if count = 0 then d
    else
      match entryAt? f i with
      | none => d
      | some entry => entriesFrom f fuel (count - 1) (i + entrySize f) (entry.toList ++ d)

/-- octets of the number of entries -/
def countSize (f : Tagged) : Nat := if f.isWide then 8 else 2

/-- how many entries the directory at a place announces -/
def countAt (f : Tagged) (place : Nat) : Nat := if f.isWide then f.n64 place else f.n16 place

/-- the directory at a place -/
def readAt (f : Tagged) (place : Nat) : Directory :=
  if Octets.isThere f.octets place (countSize f) then
    entriesFrom f f.octets.size (countAt f place) (place + countSize f) []
  else []

/-- directories of more entries are taken for broken ones -/
def countLimit : Nat := 4096

/-- all entries of the directory at a place are there, and not too many -/
def isWholeAt (f : Tagged) (place : Nat) : Bool :=
  Octets.isThere f.octets place (countSize f) && countAt f place ≤ countLimit &&
    Octets.isThere f.octets place (countSize f + entrySize f * countAt f place)

/-- octets of an item of each type there is, known or not -/
def itemSizes : List (Nat × Nat) := TagValue.sizes ++ [(17, 8), (18, 8)]

/-- octets that the head, the directory at a place and its values take; nothing if a type is not known -/
def spaceAt? (f : Tagged) (place : Nat) : Option Nat := do
  let count := countAt f place
  let head := if f.isWide then 16 else 8
  let values ← (List.range count).mapM fun k => do
    let i := place + countSize f + entrySize f * k
    let size := (← itemSizes.lookup (f.n16 (i + 2))) * f.word (i + 4)
    return if size ≤ f.wordSize then 0 else size
  return head + countSize f + entrySize f * count + f.wordSize + values.foldl (· + ·) 0

/-- the number of an entry that should hold just one: the first one it holds -/
def number? (d : Directory) (tag : Nat) : Option Int :=
  match d.lookup tag with
  | some (.numbers (n :: _)) => some n
  | _ => none

/-- as `number?`; an entry that is not there counts as the default -/
def numberOr? (d : Directory) (tag : Nat) (default : Int) : Option Int :=
  if (d.lookup tag).isSome then d.number? tag else some default

/-- the numbers of an entry; octets are none -/
def numbersOr? (d : Directory) (tag : Nat) (default : List Int) : Option (List Int) :=
  match d.lookup tag with
  | none => some default
  | some (.numbers ns) => some ns
  | some _ => none

/-- the numbers of an entry, octets among them -/
def items? (d : Directory) (tag : Nat) : Option (List Int) :=
  match d.lookup tag with
  | some (.numbers ns) => some ns
  | some (.octets xs) => some (xs.map Int.ofNat)
  | _ => none

end Directory

end ReportPress
