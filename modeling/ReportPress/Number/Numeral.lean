import ReportPress.Number.Binary64
import ReportPress.Text.Blank
import ReportPress.Text.Digit
import ReportPress.Text.Word
/-!
Numbers read from text. Blanks around a numeral are skipped, but not the separators of files, groups, records and
units; digits may be of any script; a single low line may stand between two digits. An integer is a sign and digits, at
most `digitLimit` of them. A decimal is a sign and either digits with an optional fraction and exponent, or a word for
an infinity or for what is no number.
Main statement: `bare_of_edges`, a text that neither starts nor ends with a blank is read as it is.
-/

namespace ReportPress.Numeral

/-- integers of more digits than this are not converted -/
def digitLimit : Nat := 4300

/-- why a text is no integer -/
inductive IntFault where
  | malformed
  | tooLong (digits : Nat)
deriving DecidableEq, Repr

/-- what is said of an integer with too many digits -/
def tooLongMessage (digits : Nat) : String :=
  "Exceeds the limit (" ++ Nat.repr digitLimit ++ " digits) for integer string conversion: value has " ++
    Nat.repr digits ++ " digits; use sys.set_int_max_str_digits() to increase the limit"

/-- a blank that may stand around a numeral -/
def isPadding (c : Char) : Bool := Text.isBlank c && !(28 ≤ c.toNat && c.toNat < 32)

/-- without the blanks around a numeral -/
def bare (cs : List Char) : List Char := ((cs.dropWhile isPadding).reverse.dropWhile isPadding).reverse

/-- digits of any script as ASCII digits, blanks as spaces -/
def plain (c : Char) : Char :=
  match Text.digitValue? c with
  | some d => Char.ofNat (48 + d)
  | none => if Text.isBlank c then ' ' else c

def digitOf (c : Char) : Nat := c.toNat - 48

/-- the run of digits at the start, and what follows it -/
def takeDigits (cs : List Char) : List Char × List Char :=
  (cs.takeWhile Text.isAsciiDigit, cs.dropWhile Text.isAsciiDigit)

def valueOf (ds : List Char) : Nat := Text.digitsValue (ds.map digitOf)

/-- a sign, and whether it is negative -/
def takeSign : List Char → Bool × List Char
  | '-' :: r => (true, r)
  | '+' :: r => (false, r)
  | r => (false, r)

/-- without low lines, each of which has to stand between two digits; `last` is the character before -/
def joinDigits (last : Char) : List Char → Option (List Char)
  | [] => if last == '_' then none else some []
  | c :: r =>
    if c == '_' then
      if Text.isAsciiDigit last then joinDigits c r else none
    else if last == '_' && !Text.isAsciiDigit c then none
    else (joinDigits c r).map (c :: ·)

/-- an integer: its digits are counted before what follows them is looked at -/
def readInt (s : String) : Except IntFault Int :=
  let (negative, body) := takeSign ((bare s.toList).map plain)
  let isPart (c : Char) : Bool := Text.isAsciiDigit c || c == '_'
  match joinDigits ' ' (body.takeWhile isPart) with
  | none => .error .malformed
  | some ds =>
    if digitLimit < ds.length then .error (.tooLong ds.length)
    else if ds.isEmpty || !(body.dropWhile isPart).isEmpty then .error .malformed
    else .ok (if negative then -(valueOf ds : Int) else valueOf ds)

/-- an exponent mark and digits, or nothing -/
def takeExponent : List Char → Int × List Char
  | [] => (0, [])
  | e :: r =>
    if e == 'e' || e == 'E' then
      let (negative, body) := takeSign r
      let (ds, rest) := takeDigits body
      if ds.isEmpty then (0, e :: r)
      else (if negative then -(valueOf ds : Int) else valueOf ds, rest)
    else (0, e :: r)

/-- digits, an optional fraction and exponent, and nothing after -/
def readUnsigned (negative : Bool) (cs : List Char) : Option Float :=
  let (whole, rest) := takeDigits cs
  let (fraction, rest) : List Char × List Char := match rest with
    | '.' :: r => takeDigits r
    | r => ([], r)
  if whole.isEmpty && fraction.isEmpty then none
  else
    let (e, rest) := takeExponent rest
    if rest.isEmpty then
      some (Binary64.ofDecimal negative (valueOf (whole ++ fraction)) (e - fraction.length))
    else none

def asciiLower (c : Char) : Char := if 'A' ≤ c && c ≤ 'Z' then Char.ofNat (c.toNat + 32) else c

def infinity (negative : Bool) : Float := Binary64.nearest negative (Nat.pow 2 1024) 1

/-- what is no number -/
def notANumber : Float := Float.ofBits 0x7FF8000000000000

def readFloat (s : String) : Option Float :=
  (joinDigits ' ' ((bare s.toList).map plain)).bind fun cs =>
    let (negative, body) := takeSign cs
    let word := String.ofList (body.map asciiLower)
    if word = "inf" ∨ word = "infinity" then some (infinity negative)
    else if word = "nan" then some notANumber
    else readUnsigned negative body

theorem dropWhile_isPadding {cs : List Char} (h : ∀ c, cs.head? = some c → Text.isBlank c = false) :
    cs.dropWhile isPadding = cs := by
  cases cs with
  | nil => rfl
  | cons c r => simp [isPadding, h c rfl]

theorem bare_of_edges {cs : List Char} (hs : ∀ c, cs.head? = some c → Text.isBlank c = false)
    (he : ∀ c, cs.getLast? = some c → Text.isBlank c = false) : bare cs = cs := by
  have hend : cs.reverse.dropWhile isPadding = cs.reverse := dropWhile_isPadding (by simpa using he)
  rw [bare, dropWhile_isPadding hs, hend, List.reverse_reverse]

/-- a whole number as text -/
def intText (n : Int) : String := if n < 0 then "-" ++ Nat.repr n.natAbs else Nat.repr n.natAbs

end ReportPress.Numeral
