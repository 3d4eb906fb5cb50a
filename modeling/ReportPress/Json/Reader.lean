import ReportPress.Json.Fault
import ReportPress.Number.Numeral
import ReportPress.Value.Basic
/-!
JSON documents as values. A number with a fraction or an exponent is a double, any other an integer; the words for what
is no number and for infinities are read as well. A repeated key keeps its first place and its last value. An escape for
half of a surrogate pair stands for the replacement character.

Readers take the characters from some place on and return what they read with the characters after it. A fault carries
the characters from its place on; `parse` turns them into the place.
-/

namespace ReportPress.Json

/-- why reading stopped -/
inductive Stop where
  | fault (f : Fault) (rest : List Char)
  | tooLong (digits : Nat)

abbrev Read (α : Type) := Except Stop (α × List Char)

def isSpace (c : Char) : Bool := c == ' ' || c == '\t' || c == '\n' || c == '\r'

def skip (cs : List Char) : List Char := cs.dropWhile isSpace

def hexValue? (c : Char) : Option Nat :=
  if '0' ≤ c && c ≤ '9' then some (c.toNat - 48)
  else if 'a' ≤ c && c ≤ 'f' then some (c.toNat - 87)
  else if 'A' ≤ c && c ≤ 'F' then some (c.toNat - 55)
  else none

/-- the character of a two-character escape -/
def escaped? : Char → Option Char
  | '"' => some '"'
  | '\\' => some '\\'
  | '/' => some '/'
  | 'b' => some '\x08'
  | 'f' => some '\x0c'
  | 'n' => some '\n'
  | 'r' => some '\r'
  | 't' => some '\t'
  | _ => none

/-- four hexadecimal digits, with something after them -/
def codeUnit? : List Char → Option (Nat × List Char)
  | a :: b :: c :: d :: e :: rest =>
    match hexValue? a, hexValue? b, hexValue? c, hexValue? d with
    | some a, some b, some c, some d => some (((a * 16 + b) * 16 + c) * 16 + d, e :: rest)
    | _, _, _, _ => none
  | _ => none

def isHighHalf (n : Nat) : Bool := 0xD800 ≤ n && n < 0xDC00

def isLowHalf (n : Nat) : Bool := 0xDC00 ≤ n && n < 0xE000

/-- the character of a code unit that stands alone -/
def unitChar (n : Nat) : Char := if isHighHalf n || isLowHalf n then '\ufffd' else Char.ofNat n

/-- the character of the code units at hand, the first already read, and what follows -/
def finishUnit (n : Nat) (rest : List Char) : Char × List Char :=
  if isHighHalf n then
    match rest with
    | '\\' :: 'u' :: r =>
      match codeUnit? r with
      | some (m, r') =>
        if isLowHalf m then (Char.ofNat (0x10000 + (n - 0xD800) * 0x400 + (m - 0xDC00)), r') else (unitChar n, rest)
      | none => (unitChar n, rest)
    | _ => (unitChar n, rest)
  else (unitChar n, rest)

/-- a string after its opening quote; `start` is the text from that quote on, `acc` what is read, reversed -/
def readString (start : List Char) : Nat → List Char → List Char → Read (List Char)
  | 0, _, _ => .error (.fault .unterminated start)
  | _ + 1, _, [] => .error (.fault .unterminated start)
  | fuel + 1, acc, c :: rest =>
    if c == '"' then .ok (acc.reverse, rest)
    else if c == '\\' then
      match rest with
      | [] => .error (.fault .unterminated start)
      | 'u' :: r =>
        match codeUnit? r with
        | some (n, r') =>
          let (c', r'') := finishUnit n r'
          readString start fuel (c' :: acc) r''
        | none => .error (.fault .unicodeEscape rest)
      | e :: r =>
        match escaped? e with
        | some c' => readString start fuel (c' :: acc) r
        | none => .error (.fault .escape (c :: rest))
    else if c.toNat < 0x20 then .error (.fault .control (c :: rest))
    else readString start fuel (c :: acc) rest

/-- the digits of the whole part: a lone zero, or digits that do not start with one -/
def wholePart (cs : List Char) : List Char × List Char :=
  match cs with
  | '0' :: r => (['0'], r)
  | _ => Numeral.takeDigits cs

def readNumber (cs : List Char) : Read Value :=
  let (negative, body) : Bool × List Char := match cs with
    | '-' :: r => (true, r)
    | r => (false, r)
  let (whole, rest) := wholePart body
  if whole.isEmpty then .error (.fault .value cs)
  else
    let (fraction, rest) : List Char × List Char := match rest with
      | '.' :: r => match Numeral.takeDigits r with
        | ([], _) => ([], '.' :: r)
        | taken => taken
      | r => ([], r)
    let (e, rest') := Numeral.takeExponent rest
    if fraction.isEmpty && rest'.length == rest.length then
      if Numeral.digitLimit < whole.length then .error (.tooLong whole.length)
      else
        let n := Numeral.valueOf whole
        .ok (.int (if negative then -(n : Int) else n), rest)
    else
      .ok (.float (Binary64.ofDecimal negative (Numeral.valueOf (whole ++ fraction)) (e - fraction.length)), rest')

/-- the words of JSON -/
def words : List (List Char × Value) :=
  [("null".toList, .null), ("true".toList, .bool true), ("false".toList, .bool false),
   ("NaN".toList, .float Numeral.notANumber), ("Infinity".toList, .float (Numeral.infinity false)),
   ("-Infinity".toList, .float (Numeral.infinity true))]

/-- a word at the start of the text -/
def readWord? (cs : List Char) : Option (Value × List Char) :=
  (words.find? fun w => w.1.isPrefixOf cs).map fun w => (w.2, cs.drop w.1.length)

mutual
/-- a value; `fuel` bounds the depth and the number of items together -/
def readValue : Nat → List Char → Read Value
  | 0, cs => .error (.fault .value cs)
  | fuel + 1, cs =>
    match cs with
    | '"' :: r => (readString cs (r.length + 1) [] r).map fun (s, r') => (.string (String.ofList s), r')
    | '\x7b' :: r =>
      match skip r with
      | '\x7d' :: r' => .ok (.object .record [], r')
      | r' => readFields fuel [] r'
    | '[' :: r =>
      match skip r with
      | ']' :: r' => .ok (.list .record [], r')
      | r' => readItems fuel [] r'
    | _ =>
      match readWord? cs with
      | some found => .ok found
      | none => readNumber cs

/-- the items of a list from the next item on -/
def readItems : Nat → List Value → List Char → Read Value
  | 0, _, cs => .error (.fault .value cs)
  | fuel + 1, acc, cs =>
    match readValue fuel cs with
    | .error stop => .error stop
    | .ok (v, r) =>
      match skip r with
      | ']' :: r' => .ok (.list .record (v :: acc).reverse, r')
      | ',' :: r' => readItems fuel (v :: acc) (skip r')
      | r' => .error (.fault .comma r')

/-- the fields of an object from the next key on -/
def readFields : Nat → List (String × Value) → List Char → Read Value
  | 0, _, cs => .error (.fault .value cs)
  | fuel + 1, acc, cs =>
    match cs with
    | '"' :: r =>
      match readString cs (r.length + 1) [] r with
      | .error stop => .error stop
      | .ok (k, r) =>
        match skip r with
        | ':' :: r =>
          match readValue fuel (skip r) with
          | .error stop => .error stop
          | .ok (v, r) =>
            let acc := (String.ofList k, v) :: acc
            match skip r with
            | '\x7d' :: r' => .ok (.object .record (Fields.ofList acc.reverse), r')
            | ',' :: r' => readFields fuel acc (skip r')
            | r' => .error (.fault .comma r')
        | r' => .error (.fault .colon r')
    | _ => .error (.fault .name cs)
end

def placeOf (whole rest : List Char) : Place := Place.after (whole.take (whole.length - rest.length))

def parseChars (cs : List Char) : Except Error Value :=
  let start := skip cs
  let result : Read Value :=
    if cs.head? = some '\ufeff' then .error (.fault .byteOrderMark cs)
    else
      match readValue (2 * start.length + 2) start with
      | .error stop => .error stop
      | .ok (v, r) =>
        match skip r with
        | [] => .ok (v, [])
        | r' => .error (.fault .extra r')
  match result with
  | .ok (v, _) => .ok v
  | .error (.fault f rest) => .error (.malformed f (placeOf cs rest))
  | .error (.tooLong n) => .error (.tooLong n)

def parse (s : String) : Except Error Value := parseChars s.toList

end ReportPress.Json
