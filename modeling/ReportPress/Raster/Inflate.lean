import ReportPress.Raster.Octets
/-!
Compressed streams: blocks that are stored, or coded with fixed or with transmitted codes, between a head of two octets
and a checksum. Decoding goes as far as the octets allow or until there is more than the wanted output, and says how it
ended; the output made so far is kept in any case.

Codes are canonical: given how many codes there are of each length, the codes of one length are consecutive and follow
those of the shorter ones. Bits are taken from the low end of each octet.
-/

namespace ReportPress.Inflate

inductive Ending where
  /-- the last block and a right checksum -/
  | finished
  /-- the octets ran out -/
  | cut
  /-- the octets are no such stream -/
  | broken
  /-- there is as much output as was wanted, and more to come -/
  | full
deriving DecidableEq, Repr

/-- how much output is wanted, and a place in the output that is watched -/
structure Goal where
  wanted : Nat
  mark : Nat

/-- a place in the stream, counted in bits, and the output so far -/
structure State where
  place : Nat
  out : ByteArray
  /-- the place in the stream when the octet at the mark was about to come out -/
  marked : Option Nat := none

abbrev Decoding (α : Type) := ExceptT Ending (StateM State) α

/-- the next `n` bits as a number -/
def bits (b : ByteArray) : Nat → Decoding Nat
  | 0 => return 0
  | n + 1 => do
    let place := (← get).place
    if place / 8 < b.size then
      modify fun s => { s with place := place + 1 }
      let high ← bits b n
      return Octets.at_ b (place / 8) / Nat.pow 2 (place % 8) % 2 + 2 * high
    else throw .cut

/-- a canonical code: how many codes each length from one on has, and the symbols in the order of their codes -/
structure Code where
  counts : List Nat
  symbols : Array Nat

def maxLength : Nat := 15

/-- the symbols of one length, in order -/
def symbolsOf (lengths : List Nat) (n : Nat) : List Nat :=
  ((List.range lengths.length).zip lengths).filterMap fun p => if p.2 = n then some p.1 else none

namespace Code

def ofLengths (lengths : List Nat) : Code :=
  let rows := (List.range maxLength).map fun i => symbolsOf lengths (i + 1)
  ⟨rows.map List.length, rows.flatten.toArray⟩

/-- what is left of `left` codes after the given numbers of each length; nothing if there are too many -/
def spare? : List Nat → Nat → Option Nat
  | [], left => some left
  | count :: rest, left => if 2 * left < count then none else spare? rest (2 * left - count)

/-- the longest length in use -/
def longest (c : Code) : Nat := (c.counts.reverse.dropWhile (· == 0)).length

/-- all codes are in use; if `lenient`, a single code of one bit is let pass, and none at all -/
def isUsable (c : Code) (lenient : Bool) : Bool :=
  match spare? (c.counts.take c.longest) 1 with
  | none => false
  | some 0 => true
  | some _ => lenient && c.longest ≤ 1

/-- reads the next symbol: `code` is what is read so far, `first` the first code of this length, `index` the place of
its symbol -/
def symbolFrom (b : ByteArray) (symbols : Array Nat) (code first index : Nat) : List Nat → Decoding Nat
  | [] => throw .broken
  | count :: rest => do
    let code := 2 * code + (← bits b 1)
    if code < first + count then
      match symbols[index + (code - first)]? with
      | some s => return s
      | none => throw .broken
    else symbolFrom b symbols code (2 * (first + count)) (index + count) rest

def symbol (c : Code) (b : ByteArray) : Decoding Nat :=
  symbolFrom b c.symbols 0 0 0 (c.counts.take c.longest)

end Code

/-- lengths of copies: the least, and how many bits are added to it -/
def lengthTable : Array (Nat × Nat) :=
  #[(3, 0), (4, 0), (5, 0), (6, 0), (7, 0), (8, 0), (9, 0), (10, 0), (11, 1), (13, 1), (15, 1), (17, 1), (19, 2),
    (23, 2), (27, 2), (31, 2), (35, 3), (43, 3), (51, 3), (59, 3), (67, 4), (83, 4), (99, 4), (115, 4), (131, 5),
    (163, 5), (195, 5), (227, 5), (258, 0)]

/-- distances of copies -/
def distanceTable : Array (Nat × Nat) :=
  #[(1, 0), (2, 0), (3, 0), (4, 0), (5, 1), (7, 1), (9, 2), (13, 2), (17, 3), (25, 3), (33, 4), (49, 4), (65, 5),
    (97, 5), (129, 6), (193, 6), (257, 7), (385, 7), (513, 8), (769, 8), (1025, 9), (1537, 9), (2049, 10),
    (3073, 10), (4097, 11), (6145, 11), (8193, 12), (12289, 12), (16385, 13), (24577, 13)]

/-- a number of a table, with its added bits -/
def extended (b : ByteArray) (table : Array (Nat × Nat)) (entry : Nat) : Decoding Nat :=
  match table[entry]? with
  | none => throw .broken
  | some (least, n) => return least + (← bits b n)

def put (x : Nat) : Decoding Unit := modify fun s => { s with out := s.out.push (UInt8.ofNat x) }

/-- the output with `n` octets copied from `distance` octets back, one after the other -/
def copy (distance : Nat) : Nat → ByteArray → ByteArray
  | 0, out => out
  | n + 1, out => copy distance n (out.push (UInt8.ofNat (Octets.at_ out (out.size - distance))))

/-- makes way for `n` octets of output; stops if there is enough -/
def makeWay (g : Goal) (n : Nat) : Decoding Unit := do
  let size := (← get).out.size
  if g.wanted ≤ size then throw .full
  if size ≤ g.mark && g.mark < size + n then modify fun s => { s with marked := some s.place }

/-- the symbols of a block up to its end; `fuel` bounds their number -/
def codedBlock (b : ByteArray) (g : Goal) (literals distances : Code) : Nat → Decoding Unit
  | 0 => throw .cut
  | fuel + 1 => do
    let x ← literals.symbol b
    if x < 256 then
      makeWay g 1
      put x
      codedBlock b g literals distances fuel
    else if x = 256 then return
    else
      let n ← extended b lengthTable (x - 257)
      let distance ← extended b distanceTable (← distances.symbol b)
      makeWay g n
      if (← get).out.size < distance then throw .broken
      modify fun s => { s with out := copy distance n s.out }
      if g.wanted < (← get).out.size then throw .full
      codedBlock b g literals distances fuel

/-- the order in which the lengths of the codes for code lengths are sent -/
def sendOrder : List Nat := [16, 17, 18, 0, 8, 7, 9, 6, 10, 5, 11, 4, 12, 3, 13, 2, 14, 1, 15]

/-- `n` numbers of three bits -/
def shortLengths (b : ByteArray) : Nat → Decoding (List Nat)
  | 0 => return []
  | n + 1 => return (← bits b 3) :: (← shortLengths b n)

/-- code lengths, those read so far in `acc`, last first, up to `total`; `fuel` bounds the symbols -/
def codeLengths (b : ByteArray) (code : Code) (total : Nat) : Nat → List Nat → Decoding (List Nat)
  | 0, _ => throw .cut
  | fuel + 1, acc => do
    if total ≤ acc.length then return acc.reverse
    else
      let x ← code.symbol b
      if x < 16 then codeLengths b code total fuel (x :: acc)
      else
        let (repeated, n) ←
          match x, acc with
          | 16, last :: _ => do pure (last, 3 + (← bits b 2))
          | 17, _ => do pure (0, 3 + (← bits b 3))
          | 18, _ => do pure (0, 11 + (← bits b 7))
          | _, _ => throw .broken
        if total < acc.length + n then throw .broken
        else codeLengths b code total fuel (List.replicate n repeated ++ acc)

def demand (holds : Bool) : Decoding Unit := if holds then return else throw .broken

/-- the codes that a block brings along -/
def sentCodes (b : ByteArray) : Decoding (Code × Code) := do
  let head ← bits b 14
  let literalCount := head % 32 + 257
  let distanceCount := head / 32 % 32 + 1
  demand (literalCount ≤ 286 && distanceCount ≤ 30)
  let short ← shortLengths b (head / 1024 + 4)
  let code := Code.ofLengths ((List.range 19).map fun i => ((sendOrder.zip short).lookup i).getD 0)
  demand (code.isUsable false)
  let total := literalCount + distanceCount
  let lengths ← codeLengths b code total (total + 1) []
  let literals := Code.ofLengths (lengths.take literalCount)
  let distances := Code.ofLengths (lengths.drop literalCount)
  demand (lengths[256]?.getD 0 != 0)
  demand (literals.isUsable true && distances.isUsable true)
  return (literals, distances)

/-- the codes that need not be sent -/
def fixedLiterals : Code :=
  .ofLengths (List.replicate 144 8 ++ List.replicate 112 9 ++ List.replicate 24 7 ++ List.replicate 8 8)

def fixedDistances : Code := .ofLengths (List.replicate 32 5)

/-- `n` octets taken over as they are -/
def storedOctets (b : ByteArray) (g : Goal) : Nat → Decoding Unit
  | 0 => return
  | n + 1 => do
    makeWay g 1
    put (← bits b 8)
    storedOctets b g n

def storedBlock (b : ByteArray) (g : Goal) : Decoding Unit := do
  modify fun s => { s with place := (s.place + 7) / 8 * 8 }
  let count ← bits b 16
  demand (count + (← bits b 16) == 65535)
  storedOctets b g count

/-- one block; tells whether it is the last -/
def block (b : ByteArray) (g : Goal) : Decoding Bool := do
  let head ← bits b 3
  match head / 2 with
  | 0 => storedBlock b g
  | 1 => codedBlock b g fixedLiterals fixedDistances (8 * b.size)
  | 2 =>
    let (literals, distances) ← sentCodes b
    codedBlock b g literals distances (8 * b.size)
  | _ => throw .broken
  return head % 2 == 1

def blocks (b : ByteArray) (g : Goal) : Nat → Decoding Unit
  | 0 => throw .cut
  | fuel + 1 => do
    if ← block b g then return else blocks b g fuel

/-- the head of a stream: the method, the size of the window, a check, and no dictionary -/
def head (b : ByteArray) : Decoding Unit := do
  let method ← bits b 8
  let flags ← bits b 8
  demand ((method * 256 + flags) % 31 == 0 && method % 16 == 8 && method / 16 ≤ 7)
  if flags / 32 % 2 == 1 then throw .cut

/-- the checksum after the last block -/
def tail (b : ByteArray) : Decoding Unit := do
  modify fun s => { s with place := (s.place + 7) / 8 * 8 }
  let place := (← get).place / 8
  if Octets.isThere b place 4 then demand (Octets.big32 b place == Checksum.sums (← get).out) else throw .cut

structure Result where
  out : ByteArray
  ending : Ending
  /-- octets were left when the one at the mark was about to come out -/
  hadMore : Bool

/-- decodes a stream until there is more output than wanted, the octets run out, or the stream ends -/
def run (b : ByteArray) (g : Goal) : Result :=
  let (outcome, s) := (do head b; blocks b g (8 * b.size); tail b : Decoding Unit).run.run ⟨0, ByteArray.empty, none⟩
  let ending := match outcome with
    | .ok () => Ending.finished
    | .error ending => ending
  ⟨s.out, ending, s.marked.any fun place => (place + 7) / 8 < b.size⟩

end ReportPress.Inflate
