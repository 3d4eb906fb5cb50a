import ReportPress.Raster.Jpeg.Code
/-!
Reading the coded data of a JPEG image bit by bit, high bits first. An octet of all ones stands for itself only before a
null octet; before any other octet it makes a marker, and the coded data end there. Octets are taken in ahead of their
use, as many as the reader holds; if the file ends while they are taken in, decoding is cut off, even if the bits that
were asked for are there. After a marker zeros are read, and from then on the data are starved.
-/

namespace ReportPress.Jpeg

/-- why decoding stops -/
inductive Stop where
  /-- the file ends -/
  | cut
  | broken
  /-- a marker came up while octets were taken in the quick way -/
  | marked
deriving DecidableEq, Repr

/-- a place in the file, and the bits that were taken in but not used -/
structure Reader where
  place : Nat
  held : UInt64 := 0
  left : Nat := 0
  /-- the marker that came up; zero for none -/
  marker : Nat := 0
  starved : Bool := false
  /-- blocks that are still to be passed over -/
  run : Nat := 0
  /-- units up to the next restart, and the number of the next restart -/
  toGo : Nat := 0
  restart : Nat := 0
deriving Repr

abbrev Decoding (α : Type) := ExceptT Stop (StateM Reader) α

/-- what stands at a place of coded data, and the place after it -/
inductive Coded where
  | octet (x next : Nat)
  | marker (m next : Nat)
  | nothing
deriving DecidableEq, Repr

/-- the place of the first octet that is not all ones -/
def pastOnes (b : ByteArray) : Nat → Nat → Nat
  | 0, i => i
  | fuel + 1, i => if Octets.at_ b i = 0xFF then pastOnes b fuel (i + 1) else i

def codedAt (b : ByteArray) (i : Nat) : Coded :=
  if b.size ≤ i then .nothing
  else if Octets.at_ b i ≠ 0xFF then .octet (Octets.at_ b i) (i + 1)
  else
    let j := pastOnes b b.size (i + 1)
    if b.size ≤ j then .nothing
    else if Octets.at_ b j = 0 then .octet 0xFF (j + 1)
    else .marker (Octets.at_ b j) (j + 1)

/-- the next marker from a place on, and the place after it; nothing if the file ends before -/
def nextMarker? (b : ByteArray) : Nat → Nat → Option (Nat × Nat)
  | 0, _ => none
  | fuel + 1, i =>
    match codedAt b i with
    | .octet _ next => nextMarker? b fuel next
    | .marker m next => some (m, next)
    | .nothing => none

namespace Reader

/-- the reader takes in octets until it holds this many bits -/
def enough : Nat := 57

def push (r : Reader) (x next : Nat) : Reader :=
  { r with place := next, held := (r.held <<< 8) ||| UInt64.ofNat x, left := r.left + 8 }

/-- takes in octets until there are enough bits or a marker comes up; nothing if the file ends. `fuel` bounds their
number -/
def fillFrom? (b : ByteArray) : Nat → Reader → Option Reader
  | 0, r => some r
  | fuel + 1, r =>
    if enough ≤ r.left then some r
    else
      match codedAt b r.place with
      | .octet x next => fillFrom? b fuel (r.push x next)
      | .marker m next => some { r with place := next, marker := m }
      | .nothing => none

/-- takes in octets; behind a marker, zeros if there are fewer than `n` bits -/
def fill? (b : ByteArray) (n : Nat) (r : Reader) : Option Reader :=
  (if r.marker = 0 then fillFrom? b 8 r else some r).map fun r =>
    if r.marker ≠ 0 && r.left < n then
      { r with held := r.held <<< UInt64.ofNat (enough - r.left), left := enough, starved := true }
    else r

/-- the quick way: six octets if there are sixteen bits or fewer, and no marker among them -/
def quickFill? (b : ByteArray) (r : Reader) : Option Reader :=
  if 16 < r.left then some r else go 6 r
where
  go : Nat → Reader → Option Reader
    | 0, r => some r
    | n + 1, r =>
      let x := Octets.at_ b r.place
      if x ≠ 0xFF then go n (r.push x (r.place + 1))
      else if Octets.at_ b (r.place + 1) = 0 then go n (r.push x (r.place + 2))
      else none

/-- the next `n` bits, which stay -/
def peek (r : Reader) (n : Nat) : Nat := (r.held >>> UInt64.ofNat (r.left - n)).toNat % Nat.pow 2 n

end Reader

/-- there are `n` bits to be had, unless there is a marker and none were asked for -/
def ensure (b : ByteArray) (n : Nat) : Decoding Unit := do
  match (← get).fill? b n with
  | some r => set r
  | none => throw .cut

/-- takes octets in the quick way -/
def ensureQuick (b : ByteArray) : Decoding Unit := do
  match (← get).quickFill? b with
  | some r => set r
  | none => throw .marked

/-- takes `n` bits that are there -/
def take (n : Nat) : Decoding Nat := do
  let r ← get
  set { r with left := r.left - n }
  return r.peek n

/-- takes `n` bits -/
def bits (b : ByteArray) (quick : Bool) (n : Nat) : Decoding Nat := do
  if quick then ensureQuick b
  else if (← get).left < n then ensure b n
  take n

/-- goes on bit by bit until the code at hand is one of the row at hand; what is longer than all codes counts as zero -/
def walk (b : ByteArray) (quick : Bool) (c : Code) : Nat → List CodeRow → Decoding Nat
  | _, [] => return 0
  | code, r :: rest =>
    match c.symbolAt? r code with
    | some x => return x
    | none => do
      if !quick && (← get).left < 1 then ensure b 1
      walk b quick c (2 * code + (← take 1)) rest

/-- the next symbol: short codes are found at once -/
def symbol (b : ByteArray) (quick : Bool) (c : Code) : Decoding Nat := do
  if quick then ensureQuick b
  else if (← get).left < Code.lookAhead then ensure b 0
  let r ← get
  if r.left < Code.lookAhead then
    if r.left < 1 then ensure b 1
    walk b quick c (← take 1) c.rows
  else
    match c.short? (r.peek Code.lookAhead) Code.lookAhead c.rows with
    | some (length, x) => do
      let _ ← take length
      return x
    | none => do
      let n := Code.lookAhead + 1
      if !quick && r.left < n then ensure b n
      walk b quick c (← take n) (c.rows.drop Code.lookAhead)

end ReportPress.Jpeg
