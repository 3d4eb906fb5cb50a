import ReportPress.Number.Binary64
/-!
The shortest decimal that reads back as a given double. For 1, 2, ... 17 digits the two neighbours of the double on that
decimal grid are tried; the first grid with a neighbour that rounds to the double wins, of two such neighbours the
nearer, of two equally near ones the even one.
-/

namespace ReportPress

/-- `digits * 10 ^ exponent` -/
structure Decimal where
  digits : Nat
  exponent : Int
deriving DecidableEq, Repr

namespace Shortest

/-- how many decimal places a natural number has -/
def places (n : Nat) : Nat := (Nat.toDigits 10 n).length

/-- for `num < den`: the least `j` from `j` on with `num * 10 ^ j ≥ den` (`fuel` bounds the search) -/
def leadingZeros (num den : Nat) : Nat → Nat → Nat
  | 0, j => j
  | fuel + 1, j => if den ≤ num then j else leadingZeros (num * 10) den fuel (j + 1)

/-- the exponent `p` with `10 ^ (p - 1) ≤ num / den < 10 ^ p` -/
def point (num den : Nat) : Int :=
  if den ≤ num then places (num / den) else 1 - (leadingZeros num den 400 0 : Int)

/-- the positive reals that round to a double: `low / den .. high / den`, both ends included if `closed` -/
structure Interval where
  low : Nat
  high : Nat
  den : Nat
  closed : Bool

/-- `num / den` lies in the interval -/
def Interval.holds (i : Interval) (num den : Nat) : Bool :=
  let a := num * i.den
  if i.closed then i.low * den ≤ a && a ≤ i.high * den else i.low * den < a && a < i.high * den

/-- four times the value, in units, of a double and of the ends of its interval, over four times the unit -/
def interval (b : Binary64) : Interval :=
  let below := if b.mantissa = Nat.pow 2 52 ∧ 0 < b.exponent then 1 else 2
  { low := (4 * b.mantissa - below) * Nat.pow 2 b.exponent
    high := (4 * b.mantissa + 2) * Nat.pow 2 b.exponent
    den := 4 * Binary64.unitsPerOne
    closed := b.mantissa % 2 == 0 }

/-- the best decimal with steps of `10 ^ e`, if one rounds to the double -/
def onGrid? (i : Interval) (num den : Nat) (e : Int) : Option Nat :=
  let up := if 0 ≤ e then Nat.pow 10 e.toNat else 1
  let down := if 0 ≤ e then 1 else Nat.pow 10 (-e).toNat
  let scaled := num * down
  let step := den * up
  let lo := scaled / step
  let twice := 2 * (scaled % step)
  let fits (d : Nat) : Bool := i.holds (d * up) down
  match fits lo, fits (lo + 1) with
  | true, true =>
    if twice < step then some lo else if step < twice then some (lo + 1)
    else if lo % 2 = 0 then some lo else some (lo + 1)
  | true, false => some lo
  | false, true => some (lo + 1)
  | false, false => none

/-- the first grid of `n`, `n + 1`, ... digits that has a hit -/
def search (i : Interval) (num den : Nat) (p : Int) : Nat → Nat → Option Decimal
  | 0, _ => none
  | fuel + 1, n =>
    match onGrid? i num den (p - n) with
    | some d => some ⟨d, p - n⟩
    | none => search i num den p fuel (n + 1)

/-- without the zeros at the end of its digits -/
def strip : Nat → Decimal → Decimal
  | 0, d => d
  | fuel + 1, d => if d.digits ≠ 0 ∧ d.digits % 10 = 0 then strip fuel ⟨d.digits / 10, d.exponent + 1⟩ else d

end Shortest

/-- the shortest decimal that reads back as the magnitude of a double -/
def Binary64.shortest (b : Binary64) : Decimal :=
  if b.mantissa = 0 then ⟨0, 0⟩
  else
    let num := b.magnitude
    let den := Binary64.unitsPerOne
    let p := Shortest.point num den
    Shortest.strip 20 ((Shortest.search (Shortest.interval b) num den p 17 1).getD ⟨num, -1074⟩)

/-- how decimals are laid out -/
structure DecimalFormat where
  /-- the least power of ten of the first digit that is written without an exponent -/
  positionalFrom : Int
  /-- the greatest such power -/
  positionalTo : Int
  /-- least number of digits of an exponent -/
  exponentPlaces : Nat

/-- numbers from 0.0001 up to sixteen digits before the point have no exponent; an exponent has two digits at least -/
def plainDecimals : DecimalFormat := ⟨-4, 15, 2⟩

def zerosText (n : Nat) : List Char := List.replicate n '0'

/-- a whole number is given a fraction of zero when it has no exponent -/
def DecimalFormat.write (f : DecimalFormat) (d : Decimal) : List Char :=
  let ds := Nat.toDigits 10 d.digits
  let lead : Int := d.exponent + ds.length - 1
  if d.digits = 0 then ['0', '.', '0']
  else if f.positionalFrom ≤ lead ∧ lead ≤ f.positionalTo then
    if lead < 0 then ['0', '.'] ++ zerosText ((-lead).toNat - 1) ++ ds
    else if 0 ≤ d.exponent then ds ++ zerosText d.exponent.toNat ++ ['.', '0']
    else ds.take (lead.toNat + 1) ++ '.' :: ds.drop (lead.toNat + 1)
  else
    let body := match ds with
      | [] => []
      | [c] => [c]
      | c :: rest => c :: '.' :: rest
    let es := Nat.toDigits 10 lead.natAbs
    body ++ 'e' :: (if lead < 0 then '-' else '+') :: zerosText (f.exponentPlaces - es.length) ++ es

/-- the text of a double: the shortest decimal that reads back, or a word for what is no number -/
def floatText (x : Float) : String :=
  match Binary64.read x with
  | .nan => "nan"
  | .infinite negative => if negative then "-inf" else "inf"
  | .finite b =>
    let body := plainDecimals.write b.shortest
    String.ofList (if b.negative then '-' :: body else body)

end ReportPress
