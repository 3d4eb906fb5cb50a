/-!
Numbers in octets: the octet at a place, and numbers of two, three, four and eight octets, the great or the little end
first. What lies past the end counts as zero; `isThere` tells whether a stretch lies within the octets. `quoted` writes
octets as a message shows them. Last the two checksums of compressed images: the cyclic remainder over 32 bits that guards
a chunk, and the pair of sums modulo 65521 that guards a compressed stream.
-/

namespace ReportPress.Octets

def at_ (b : ByteArray) (i : Nat) : Nat := if h : i < b.size then b[i].toNat else 0

def big16 (b : ByteArray) (i : Nat) : Nat := at_ b i * 256 + at_ b (i + 1)

def big32 (b : ByteArray) (i : Nat) : Nat := big16 b i * 65536 + big16 b (i + 2)

def little16 (b : ByteArray) (i : Nat) : Nat := at_ b i + at_ b (i + 1) * 256

def little24 (b : ByteArray) (i : Nat) : Nat := little16 b i + at_ b (i + 2) * 65536

def little32 (b : ByteArray) (i : Nat) : Nat := little16 b i + little16 b (i + 2) * 65536

def big64 (b : ByteArray) (i : Nat) : Nat := big32 b i * Nat.pow 2 32 + big32 b (i + 4)

def little64 (b : ByteArray) (i : Nat) : Nat := little32 b i + little32 b (i + 4) * Nat.pow 2 32

/-- the `count` octets from place `i` on all lie within `b` -/
def isThere (b : ByteArray) (i count : Nat) : Bool := i + count ≤ b.size

/-- the octets from place `i` on are the given ones -/
def matchesAt (b : ByteArray) (i : Nat) : List Nat → Bool
  | [] => true
  | x :: rest => i < b.size && at_ b i == x && matchesAt b (i + 1) rest

/-- the octets of an ASCII text -/
def ofAscii (s : String) : List Nat := s.toList.map Char.toNat

/-- the octets from place `i` on, `count` of them at most -/
def slice (b : ByteArray) (i count : Nat) : ByteArray := b.extract i (i + count)

/-- the octets of `slice` as numbers -/
def list (b : ByteArray) (i count : Nat) : List Nat := (slice b i count).toList.map UInt8.toNat

def hexDigit (n : Nat) : Char := Char.ofNat (if n < 10 then 48 + n else 87 + n)

/-- an octet between the given quotation marks -/
def shown (quote x : Nat) : String :=
  if x = 9 then "\\t"
  else if x = 10 then "\\n"
  else if x = 13 then "\\r"
  else if x < 32 || 127 ≤ x then "\\x" ++ String.ofList [hexDigit (x / 16), hexDigit (x % 16)]
  else if x = quote || x = 92 then String.ofList ['\\', Char.ofNat x]
  else String.singleton (Char.ofNat x)

/-- octets between quotation marks: double ones if there is a single one among them, and no double one -/
def quoted (xs : List Nat) : String :=
  let quote := if xs.contains 39 && !xs.contains 34 then 34 else 39
  let mark := String.singleton (Char.ofNat quote)
  "b" ++ mark ++ String.join (xs.map (shown quote)) ++ mark

theorem at_eq_zero_of_size_le {b : ByteArray} {i : Nat} (h : b.size ≤ i) : at_ b i = 0 := by
  simp [at_, Nat.not_lt.mpr h]

end ReportPress.Octets

namespace ReportPress.Checksum

/-- the cyclic polynomial, lowest power first -/
def polynomial : UInt32 := 0xEDB88320

/-- one bit goes out -/
def cyclicBit (r : UInt32) : UInt32 := if r &&& 1 == 1 then (r >>> 1) ^^^ polynomial else r >>> 1

def cyclicBits : Nat → UInt32 → UInt32
  | 0, r => r
  | n + 1, r => cyclicBits n (cyclicBit r)

def cyclicOctet (r : UInt32) (x : UInt8) : UInt32 := cyclicBits 8 (r ^^^ x.toUInt32)

/-- the cyclic remainder of the `count` octets from place `i` on -/
def cyclic (b : ByteArray) (i count : Nat) : Nat :=
  (b.foldl cyclicOctet 0xFFFFFFFF i (i + count) ^^^ 0xFFFFFFFF).toNat

def sumsModulus : Nat := 65521

/-- the sum of the octets, and the sum of all sums on the way, as one number -/
def sums (b : ByteArray) : Nat :=
  let (low, high) := b.foldl
    (fun (s : Nat × Nat) x =>
      let low := (s.1 + x.toNat) % sumsModulus
      (low, (s.2 + low) % sumsModulus)) (1, 0)
  high * 65536 + low

end ReportPress.Checksum
