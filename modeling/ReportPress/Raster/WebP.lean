import ReportPress.Raster.Fault
/-!
WebP images: a container of chunks whose length is told at its start; the first chunk tells the size of the image. The
pixels can be read if the container is whole.
-/

namespace ReportPress.WebP

def named (b : ByteArray) (i : Nat) (name : String) : Bool := Octets.matchesAt b i (Octets.ofAscii name)

/-- a number of fourteen bits -/
def low14 (n : Nat) : Nat := n % Nat.pow 2 14

/-- the size that the first chunk tells -/
def size? (b : ByteArray) : Option (Nat × Nat) :=
  if named b 12 "VP8X" then
    if Octets.isThere b 20 10 then some (Octets.little24 b 24 + 1, Octets.little24 b 27 + 1) else none
  else if named b 12 "VP8L" then
    if Octets.isThere b 20 5 && Octets.at_ b 20 == 0x2F then
      let n := Octets.little32 b 21
      some (low14 n + 1, low14 (n / Nat.pow 2 14) + 1)
    else none
  else if named b 12 "VP8 " then
    if Octets.isThere b 20 10 && Octets.matchesAt b 23 [0x9D, 0x01, 0x2A] then
      let w := low14 (Octets.little16 b 26)
      let h := low14 (Octets.little16 b 28)
      if w = 0 ∨ h = 0 then none else some (w, h)
    else none
  else none

/-- whole chunks up to the end of the container, one of them with pixels -/
def chunksFit (b : ByteArray) (last : Nat) (seen : Bool) : Nat → Nat → Bool
  | 0, _ => false
  | fuel + 1, i =>
    if last < i + 8 then seen
    else
      let length := Octets.little32 b (i + 4)
      let seen := seen || named b i "VP8 " || named b i "VP8L" || named b i "ANMF"
      i + 8 + length ≤ last && chunksFit b last seen fuel (i + 8 + length + length % 2)

def isWhole (b : ByteArray) : Bool :=
  let length := Octets.little32 b 4
  Octets.isThere b 8 length && chunksFit b (8 + length) false b.size 12

def isSigned (b : ByteArray) : Bool := named b 0 "RIFF" && named b 8 "WEBP"

structure Opening where
  size : Nat × Nat
deriving DecidableEq, Repr

/-- the container is taken apart at once, so that nothing is left to fail when the pixels are read -/
def open_ (b : ByteArray) : Except ImageFault Opening := do
  let size ← ImageFault.found (size? b)
  ImageFault.demand (isWhole b)
  return ⟨size⟩

end ReportPress.WebP
