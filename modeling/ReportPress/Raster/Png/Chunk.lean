import ReportPress.Raster.Octets
import ReportPress.Raster.Fault
/-!
The chunks of a PNG image: a length, a name of four word characters, contents and a cyclic remainder. `headerAt` tells
what stands where a chunk is due.
-/

namespace ReportPress.Png

def signature : List Nat := [0x89, 0x50, 0x4E, 0x47, 0x0D, 0x0A, 0x1A, 0x0A]

structure Chunk where
  name : String
  /-- where the contents start -/
  start : Nat
  length : Nat
deriving DecidableEq, Repr

inductive Header where
  | chunk (c : Chunk)
  /-- not even the length is there -/
  | cut
  /-- a length, but no name -/
  | misnamed (octets : List Nat)
deriving DecidableEq, Repr

/-- letters, digits and low lines -/
def isNameOctet (x : Nat) : Bool :=
  (48 ≤ x && x < 58) || (65 ≤ x && x < 91) || x == 95 || (97 ≤ x && x < 123)

def headerAt (b : ByteArray) (i : Nat) : Header :=
  let name := Octets.list b (i + 4) 4
  if !Octets.isThere b i 4 then .cut
  else if name.length = 4 && name.all isNameOctet then
    .chunk ⟨String.ofList (name.map Char.ofNat), i + 8, Octets.big32 b i⟩
  else .misnamed name

namespace Chunk

/-- the place after the contents and the remainder -/
def next (c : Chunk) : Nat := c.start + c.length + 4

/-- the contents -/
def octets (c : Chunk) (b : ByteArray) : List Nat := Octets.list b c.start c.length

/-- the contents are all there -/
def isThere (c : Chunk) (b : ByteArray) : Bool := Octets.isThere b c.start c.length

/-- the contents are there and agree with the remainder -/
def isSound (c : Chunk) (b : ByteArray) : Bool :=
  Octets.isThere b c.start (c.length + 4) &&
    Checksum.cyclic b (c.start - 4) (c.length + 4) == Octets.big32 b (c.start + c.length)

end Chunk

end ReportPress.Png
