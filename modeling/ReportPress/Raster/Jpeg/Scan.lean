import ReportPress.Raster.Jpeg.Segment
/-!
The coded data of a scan. They are units of blocks; a block is a mean and 63 other coefficients. Of the coefficients
only that they are there matters, and whether they are zero where a later scan refines them. Units may come in stretches
between restart markers; a stretch that is starved leaves the rest of its units as they are.
-/

namespace ReportPress.Jpeg

/-- what a scan decodes with -/
structure Plan where
  octets : ByteArray
  interval : Nat

/-- decides what to do about a marker that is not the restart that was due: go on behind it, look for the next, or leave
it where it is -/
def resync (b : ByteArray) (due : Nat) : Nat → Decoding Unit
  | 0 => throw .cut
  | fuel + 1 => do
    let r ← get
    let m := r.marker
    let ahead := (m + 8 - due) % 8
    if m < 0xC0 || (0xD0 ≤ m && m ≤ 0xD7 && (ahead = 6 || ahead = 7)) then
      match nextMarker? b b.size r.place with
      | some (m, next) => do
        set { r with marker := m, place := next }
        resync b due fuel
      | none => throw .cut
    else if m < 0xD0 || 0xD7 < m || ahead = 1 || ahead = 2 then return
    else set { r with marker := 0 }

/-- passes the restart that is due: the bits taken in are dropped, and the data are starved no more unless a marker is
left -/
def passRestart (p : Plan) : Decoding Unit := do
  let r ← get
  let (m, place) ← if r.marker ≠ 0 then pure (r.marker, r.place) else
    match nextMarker? p.octets p.octets.size r.place with
    | some found => pure found
    | none => throw .cut
  set { r with marker := m, place := place, left := 0 }
  if m = 0xD0 + r.restart then modify fun r => { r with marker := 0 } else resync p.octets r.restart p.octets.size
  modify fun s => { s with
    restart := (s.restart + 1) % 8
    run := 0
    toGo := p.interval
    starved := s.starved && s.marker ≠ 0 }

/-- what comes before a unit, and what it counts for -/
def unit {α : Type} (p : Plan) (decode : Decoding α) : Decoding α := do
  if p.interval ≠ 0 && (← get).toGo = 0 then passRestart p
  let x ← decode
  modify fun r => { r with toGo := r.toGo - 1 }
  return x

/-- `n` units, one after the other -/
def units (p : Plan) (decode : Decoding Unit) : Nat → Decoding Unit
  | 0 => return
  | n + 1 => do
    unit p decode
    units p decode n

/-- does nothing if the data are starved -/
def unlessStarved (decode : Decoding Unit) : Decoding Unit := do if !(← get).starved then decode

/-- the codes of a block's mean and of its other coefficients -/
structure BlockCodes where
  mean : Code
  others : Code

/-- the difference of a mean to the one before -/
def mean (b : ByteArray) (quick : Bool) (c : Code) : Decoding Unit := do
  let n ← symbol b quick c
  if n ≠ 0 then
    let _ ← bits b quick n

/-- the coefficients from `k` on; `fuel` bounds their number -/
def coefficients (b : ByteArray) (quick : Bool) (c : Code) : Nat → Nat → Decoding Unit
  | 0, _ => return
  | fuel + 1, k => do
    if k < 64 then
      let x ← symbol b quick c
      if x % 16 ≠ 0 then
        let _ ← bits b quick (x % 16)
        coefficients b quick c fuel (k + x / 16 + 1)
      else if x / 16 = 15 then coefficients b quick c fuel (k + 16)

/-- the blocks of a unit -/
def blocks (b : ByteArray) (quick : Bool) : List BlockCodes → Decoding Unit
  | [] => return
  | codes :: rest => do
    mean b quick codes.mean
    coefficients b quick codes.others 63 1
    blocks b quick rest

/-- octets that have to be there for each block of a unit that is decoded in the quick way -/
def quickReserve : Nat := 512

/-- a unit of blocks: in the quick way if there are octets enough and no marker comes up -/
def sequentialUnit (p : Plan) (codes : List BlockCodes) : Decoding Unit := do
  let r ← get
  let slow := blocks p.octets false codes
  if p.interval = 0 && r.marker = 0 && r.place + quickReserve * codes.length ≤ p.octets.size then
    match (blocks p.octets true codes).run.run r with
    | (.ok (), s) => set s
    | (.error _, _) => slow
  else slow

/-- a first look at the means of a unit -/
def meansFirst (b : ByteArray) : List Code → Decoding Unit
  | [] => return
  | c :: rest => do
    mean b false c
    meansFirst b rest

/-- one more bit of each mean of a unit -/
def meansRefine (b : ByteArray) : Nat → Decoding Unit
  | 0 => return
  | n + 1 => do
    let _ ← bits b false 1
    meansRefine b n

/-- which coefficients of a block are not zero, as the bits of a number -/
abbrev Traces := Nat

namespace Traces

def has (t : Traces) (k : Nat) : Bool := t / Nat.pow 2 (min k 63) % 2 == 1

def put (t : Traces) (k : Nat) : Traces := if t.has k then t else t + Nat.pow 2 (min k 63)

def drop (t : Traces) (k : Nat) : Traces := if t.has k then t - Nat.pow 2 (min k 63) else t

end Traces

/-- the band of coefficients of a scan, and the lowest bit that is sent -/
structure Band where
  code : Code
  last : Nat
  low : Nat

/-- a coefficient of `n` bits, shifted into place, is not zero in sixteen bits -/
def survives (n value low : Nat) : Bool :=
  let size := if Nat.pow 2 (n - 1) ≤ value then value else Nat.pow 2 n - 1 - value
  size * Nat.pow 2 low % 65536 != 0

/-- how many blocks end here, by a symbol that says so -/
def endRun (b : ByteArray) (n : Nat) : Decoding Nat := do
  let more ← if n = 0 then pure 0 else bits b false n
  return Nat.pow 2 n + more

/-- a first look at the coefficients of a block, from `k` on -/
def bandFirst (b : ByteArray) (d : Band) : Nat → Nat → Traces → Decoding Traces
  | 0, _, t => return t
  | fuel + 1, k, t => do
    if d.last < k then return t
    let x ← symbol b false d.code
    let n := x % 16
    if n ≠ 0 then
      let k := k + x / 16
      let value ← bits b false n
      bandFirst b d fuel (k + 1) (if survives n value d.low then t.put k else t.drop k)
    else if x / 16 = 15 then bandFirst b d fuel (k + 16) t
    else do
      let run ← endRun b (x / 16)
      modify fun r => { r with run := run - 1 }
      return t

/-- a bit more of each coefficient that is not zero, over `zeros` of those that are; ends at the zero that comes next,
or past the band -/
def correct (b : ByteArray) (t : Traces) (last : Nat) : Nat → Nat → Nat → Decoding Nat
  | 0, k, _ => return k
  | fuel + 1, k, zeros => do
    if last < k then return k
    if t.has k then
      let _ ← bits b false 1
      correct b t last fuel (k + 1) zeros
    else if zeros = 0 then return k
    else correct b t last fuel (k + 1) (zeros - 1)

/-- a bit more of each coefficient that is not zero, to the end of the band -/
def correctRest (b : ByteArray) (t : Traces) (last : Nat) : Nat → Nat → Decoding Unit
  | 0, _ => return
  | fuel + 1, k => do
    if k ≤ last then
      if t.has k then
        let _ ← bits b false 1
      correctRest b t last fuel (k + 1)

/-- a closer look at the coefficients of a block, from `k` on -/
def bandRefine (b : ByteArray) (d : Band) : Nat → Nat → Traces → Decoding Traces
  | 0, _, t => return t
  | fuel + 1, k, t => do
    if d.last < k then return t
    let x ← symbol b false d.code
    let isNew := x % 16 ≠ 0
    if isNew then
      let _ ← bits b false 1
    if isNew || x / 16 = 15 then
      let k ← correct b t d.last 64 k (x / 16)
      bandRefine b d fuel (k + 1) (if isNew then t.put k else t)
    else do
      let run ← endRun b (x / 16)
      correctRest b t d.last 64 k
      modify fun r => { r with run := run - 1 }
      return t

/-- a block of a scan that looks at other coefficients than the mean -/
def bandUnit (p : Plan) (d : Band) (s : Scan) (t : Traces) : Decoding Traces := do
  let r ← get
  if r.starved then return t
  else if 0 < r.run then
    if s.high ≠ 0 then correctRest p.octets t d.last 64 s.first
    modify fun r => { r with run := r.run - 1 }
    return t
  else if s.high = 0 then bandFirst p.octets d 64 s.first t
  else bandRefine p.octets d 64 s.first t

/-- the blocks of a component from one on, `n` of them -/
def bandUnits (p : Plan) (d : Band) (s : Scan) : Nat → Nat → Array Traces → Decoding (Array Traces)
  | 0, _, ts => return ts
  | n + 1, i, ts => do
    let t ← unit p (bandUnit p d s (ts[i]?.getD 0))
    bandUnits p d s n (i + 1) (ts.setIfInBounds i t)

end ReportPress.Jpeg
