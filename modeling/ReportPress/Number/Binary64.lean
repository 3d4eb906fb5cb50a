/-!
Double-precision numbers read exactly. A finite double is a whole number of units, the unit being the smallest positive
double, 2 ^ -1074; so finite doubles and integers are compared without rounding.
`nearest` goes the other way: the double nearest to a ratio of natural numbers, ties to the even mantissa.
-/

namespace ReportPress

/-- sign, mantissa and exponent: `± mantissa * 2 ^ exponent` units of 2 ^ -1074 -/
structure Binary64 where
  negative : Bool
  mantissa : Nat
  exponent : Nat
deriving DecidableEq, Repr

/-- what a double stands for -/
inductive Reading where
  | nan
  | infinite (negative : Bool)
  | finite (b : Binary64)
deriving DecidableEq, Repr

namespace Binary64

/-- units in one -/
def unitsPerOne : Nat := Nat.pow 2 1074

def magnitude (b : Binary64) : Nat := b.mantissa * Nat.pow 2 b.exponent

/-- the signed number of units -/
def units (b : Binary64) : Int := if b.negative then -(b.magnitude : Int) else b.magnitude

def ofBits (bits : Nat) : Reading :=
  let negative := bits / Nat.pow 2 63 % 2 == 1
  let scale := bits / Nat.pow 2 52 % Nat.pow 2 11
  let fraction := bits % Nat.pow 2 52
  if scale = 2047 then
    if fraction = 0 then .infinite negative else .nan
  else if scale = 0 then .finite ⟨negative, fraction, 0⟩
  else .finite ⟨negative, fraction + Nat.pow 2 52, scale - 1⟩

def read (x : Float) : Reading := ofBits x.toBits.toNat

/-- `n / d` to the nearest integer, a half going to the even neighbour -/
def divHalfEven (n d : Nat) : Nat :=
  let q := n / d
  let r := n % d
  if 2 * r < d then q else if d < 2 * r then q + 1 else if q % 2 = 0 then q else q + 1

/-- the bits of the positive double nearest to `num / den`; infinity past the largest double -/
def nearestBits (num den : Nat) : Nat :=
  let scaled := num * unitsPerOne
  let shift := Nat.log2 (scaled / den) - 52
  let mantissa := divHalfEven scaled (den * Nat.pow 2 shift)
  min (shift * Nat.pow 2 52 + mantissa) (2047 * Nat.pow 2 52)

/-- the double nearest to `± num / den` -/
def nearest (negative : Bool) (num den : Nat) : Float :=
  Float.ofBits (UInt64.ofNat (nearestBits num den + if negative then Nat.pow 2 63 else 0))

/-- the double nearest to an integer; infinite if the integer is beyond all doubles -/
def ofInt (n : Int) : Float := nearest (n < 0) n.natAbs 1

/-- the double nearest to `± m * 10 ^ e`; exponents that decide the result by themselves are not computed -/
def ofDecimal (negative : Bool) (m : Nat) (e : Int) : Float :=
  let top := (Nat.log2 m : Int) / 4 + e
  if m = 0 then nearest negative 0 1
  else if 400 < top then nearest negative (Nat.pow 2 1024) 1
  else if (Nat.log2 m : Int) / 3 + 1 + e < -400 then nearest negative 0 1
  else if 0 ≤ e then nearest negative (m * Nat.pow 10 e.toNat) 1
  else nearest negative m (Nat.pow 10 (-e).toNat)

end Binary64

/-- the double nearest to a number of thousandths of `x`: three decimals, ties to even; what is not finite stays -/
def roundThousandths (x : Float) : Float :=
  match Binary64.read x with
  | .finite b => Binary64.nearest b.negative (Binary64.divHalfEven (b.magnitude * 1000) Binary64.unitsPerOne) 1000
  | _ => x

/-- the integer that a finite double holds, fractions dropped towards zero -/
def truncate? (x : Float) : Option Int :=
  match Binary64.read x with
  | .finite b =>
    let whole : Int := b.magnitude / Binary64.unitsPerOne
    some (if b.negative then -whole else whole)
  | _ => none

/-- a finite double without a fraction -/
def isWhole (x : Float) : Bool :=
  match Binary64.read x with
  | .finite b => b.magnitude % Binary64.unitsPerOne == 0
  | _ => false

def isNaN (x : Float) : Bool := Binary64.read x == .nan

end ReportPress
