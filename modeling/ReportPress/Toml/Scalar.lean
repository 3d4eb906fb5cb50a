import ReportPress.Json.Reader
import ReportPress.Toml.Fault
/-!
Scalars of TOML documents: strings in their four forms, numbers, dates and times.

Readers take the characters from some place on and return what they read with the characters after it; a fault carries
the characters from its place on.
-/

namespace ReportPress.Toml

/-- why reading stopped -/
inductive Stop where
  | fault (f : Fault) (rest : List Char)
  | tooLong (digits : Nat)

abbrev Read (α : Type) := Except Stop (α × List Char)

def isSpace (c : Char) : Bool := c == ' ' || c == '\t'

def isSpaceOrLine (c : Char) : Bool := isSpace c || c == '\n'

def skipSpace (cs : List Char) : List Char := cs.dropWhile isSpace

/-- control characters may not stand in a document, tabs aside -/
def isControl (c : Char) : Bool := (c.toNat < 32 || c.toNat = 127) && c != '\t'

def isControlInLines (c : Char) : Bool := isControl c && c != '\n'

/-- the text before the first `mark`, and the text from the mark on -/
def before? (mark : List Char) : List Char → Option (List Char × List Char)
  | [] => none
  | c :: rest =>
    if mark.isPrefixOf (c :: rest) then some ([], c :: rest)
    else (before? mark rest).map fun p => (c :: p.1, p.2)

/-- the text from its first character in `bad` on, if it has one before `length` characters are over -/
def firstBad? (bad : Char → Bool) : Nat → List Char → Option (Char × List Char)
  | 0, _ => none
  | _ + 1, [] => none
  | n + 1, c :: rest => if bad c then some (c, c :: rest) else firstBad? bad n rest

/-- the text up to a mark that has to come, free of bad characters -/
def upTo (mark : List Char) (bad : Char → Bool) (cs : List Char) : Read (List Char) :=
  match before? mark cs with
  | none => .error (.fault (.expected (String.ofList mark)) [])
  | some (inside, rest) =>
    match firstBad? bad inside.length cs with
    | some (c, place) => .error (.fault (.invalidCharacter c) place)
    | none => .ok (inside, rest)

/-- a comment up to the end of its line -/
def skipComment (cs : List Char) : Except Stop (List Char) :=
  match cs with
  | '#' :: rest =>
    let inside := rest.takeWhile (· != '\n')
    match firstBad? isControl inside.length rest with
    | some (c, place) => .error (.fault (.invalidCharacter c) place)
    | none => .ok (rest.dropWhile (· != '\n'))
  | _ => .ok cs

def literalString (cs : List Char) : Read (List Char) :=
  (upTo ['\''] isControl cs).map fun p => (p.1, p.2.drop 1)

/-- a character of `n` hexadecimal digits -/
def hexChar (n : Nat) (cs : List Char) : Read (List Char) :=
  let digits := (cs.take n).mapM Json.hexValue?
  match digits with
  | some ds =>
    if ds.length = n then
      let code := ds.foldl (fun a d => a * 16 + d) 0
      if code < 0xD800 ∨ (0xDFFF < code ∧ code < 0x110000) then .ok ([Char.ofNat code], cs.drop n)
      else .error (.fault .notScalar (cs.drop n))
    else .error (.fault .hexValue cs)
  | none => .error (.fault .hexValue cs)

/-- what an escape stands for; `cs` is the text after its backslash -/
def escape (lines : Bool) (cs : List Char) : Read (List Char) :=
  match cs with
  | 'b' :: r => .ok (['\x08'], r)
  | 't' :: r => .ok (['\t'], r)
  | 'n' :: r => .ok (['\n'], r)
  | 'f' :: r => .ok (['\x0c'], r)
  | 'r' :: r => .ok (['\r'], r)
  | '"' :: r => .ok (['"'], r)
  | '\\' :: r => .ok (['\\'], r)
  | 'u' :: r => hexChar 4 r
  | 'U' :: r => hexChar 8 r
  | '\n' :: r => if lines then .ok ([], r.dropWhile isSpaceOrLine) else .error (.fault .escape r)
  | c :: r =>
    if lines && isSpace c then
      match skipSpace r with
      | [] => .ok ([], [])
      | '\n' :: r' => .ok ([], r'.dropWhile isSpaceOrLine)
      | r' => .error (.fault .escape r')
    else .error (.fault .escape r)
  | [] => .error (.fault .escape [])

/-- a string with escapes, up to its closing quote or quotes; `acc` is what is read, reversed -/
def basicString (lines : Bool) : Nat → List Char → List Char → Read (List Char)
  | 0, _, cs => .error (.fault .unterminated cs)
  | _ + 1, _, [] => .error (.fault .unterminated [])
  | fuel + 1, acc, c :: rest =>
    if c == '"' then
      if !lines then .ok (acc.reverse, rest)
      else
        match rest with
        | '"' :: '"' :: r => .ok (acc.reverse, r)
        | _ => basicString lines fuel ('"' :: acc) rest
    else if c == '\\' then
      match escape lines rest with
      | .ok (cs, r) => basicString lines fuel (cs.reverse ++ acc) r
      | .error stop => .error stop
    else if (if lines then isControlInLines c else isControl c) then .error (.fault (.illegal c) (c :: rest))
    else basicString lines fuel (c :: acc) rest

/-- one or two more quotes after a string in lines belong to it -/
def moreQuotes (quote : Char) (read : List Char × List Char) : List Char × List Char :=
  match read.2 with
  | a :: b :: r =>
    if a == quote then
      if b == quote then (read.1 ++ [quote, quote], r) else (read.1 ++ [quote], b :: r)
    else read
  | [a] => if a == quote then (read.1 ++ [quote], []) else read
  | [] => read

/-- a line end directly after the opening quotes is no part of the string -/
def dropFirstLine : List Char → List Char
  | '\n' :: r => r
  | cs => cs

/-- any string -/
def string? (cs : List Char) : Option (Read (List Char)) :=
  match cs with
  | '"' :: '"' :: '"' :: r =>
    let r := dropFirstLine r
    some ((basicString true (r.length + 1) [] r).map (moreQuotes '"'))
  | '"' :: r => some (basicString false (r.length + 1) [] r)
  | '\'' :: '\'' :: '\'' :: r =>
    some ((upTo ['\'', '\'', '\''] isControlInLines (dropFirstLine r)).map fun p =>
      moreQuotes '\'' (p.1, p.2.drop 3))
  | '\'' :: r => some (literalString r)
  | _ => none

/-- digits with single low lines between them, and what follows -/
def digitRun (isDigit : Char → Bool) : List Char → List Char × List Char
  | [] => ([], [])
  | c :: rest =>
    if isDigit c then
      let (ds, r) := more rest
      (c :: ds, r)
    else ([], c :: rest)
where
  more : List Char → List Char × List Char
    | [] => ([], [])
    | [c] => if isDigit c then ([c], []) else ([], [c])
    | c :: d :: rest =>
      if isDigit c then
        let (ds, r) := more (d :: rest)
        (c :: ds, r)
      else if c == '_' && isDigit d then
        let (ds, r) := more rest
        (d :: ds, r)
      else ([], c :: d :: rest)

/-- the bases that integers may be written in -/
def bases : List (Char × Nat) := [('x', 16), ('o', 8), ('b', 2)]

/-- an integer in a base given by its letter -/
def based? (cs : List Char) : Option (Value × List Char) :=
  match cs with
  | '0' :: letter :: rest =>
    (bases.lookup letter).bind fun base =>
      let isDigit (c : Char) : Bool :=
        match Json.hexValue? c with
        | some d => d < base
        | none => false
      let (ds, r) := digitRun isDigit rest
      if ds.isEmpty then none
      else some (.int (ds.foldl (fun n c => n * base + (Json.hexValue? c).getD 0) 0 : Nat), r)
  | _ => none

/-- an integer or a decimal number -/
def decimal? (cs : List Char) : Option (Read Value) :=
  let (negative, body) := Numeral.takeSign cs
  let (whole, rest) : List Char × List Char := match body with
    | '0' :: r => (['0'], r)
    | _ => digitRun Text.isAsciiDigit body
  if whole.isEmpty then none
  else
    let (fraction, rest₁) : List Char × List Char := match rest with
      | '.' :: r =>
        match digitRun Text.isAsciiDigit r with
        | ([], _) => ([], rest)
        | taken => taken
      | _ => ([], rest)
    let (exponent, rest₂) : Option Int × List Char := match rest₁ with
      | e :: r =>
        if e == 'e' || e == 'E' then
          let (negative, r') := Numeral.takeSign r
          match digitRun Text.isAsciiDigit r' with
          | ([], _) => (none, rest₁)
          | (ds, r'') => (some (if negative then -(Numeral.valueOf ds : Int) else Numeral.valueOf ds), r'')
        else (none, rest₁)
      | [] => (none, [])
    if fraction.isEmpty && exponent.isNone then
      if Numeral.digitLimit < whole.length then some (.error (.tooLong whole.length))
      else
        let n := Numeral.valueOf whole
        some (.ok (.int (if negative then -(n : Int) else n), rest))
    else
      some (.ok (.float (Binary64.ofDecimal negative (Numeral.valueOf (whole ++ fraction))
        (exponent.getD 0 - fraction.length)), rest₂))

/-- the words for numbers that are not finite -/
def numberWords : List (List Char × Value) :=
  let inf := Numeral.infinity
  [("inf".toList, .float (inf false)), ("nan".toList, .float Numeral.notANumber),
   ("+inf".toList, .float (inf false)), ("-inf".toList, .float (inf true)),
   ("+nan".toList, .float Numeral.notANumber), ("-nan".toList, .float Numeral.notANumber)]

/-- a number of exactly so many digits -/
def fixedNumber? (n : Nat) (cs : List Char) : Option (Nat × List Char) :=
  let ds := cs.take n
  if ds.length = n ∧ ds.all Text.isAsciiDigit then some (Numeral.valueOf ds, cs.drop n) else none

def expect? (c : Char) : List Char → Option (List Char)
  | d :: rest => if c = d then some rest else none
  | [] => none

/-- a time of day, to any fraction of a second; the text after it -/
def time? (cs : List Char) : Option (List Char) := do
  let (hour, cs) ← fixedNumber? 2 cs
  let cs ← expect? ':' cs
  let (minute, cs) ← fixedNumber? 2 cs
  let cs ← expect? ':' cs
  let (second, cs) ← fixedNumber? 2 cs
  if 23 < hour ∨ 59 < minute ∨ 59 < second then none
  else
    match cs with
    | '.' :: r => if (r.takeWhile Text.isAsciiDigit).isEmpty then some cs else some (r.dropWhile Text.isAsciiDigit)
    | _ => some cs

/-- a distance from universal time, if there is one; the text after it -/
def offset (cs : List Char) : List Char :=
  match cs with
  | 'Z' :: r => r
  | 'z' :: r => r
  | sign :: r =>
    if sign == '+' || sign == '-' then
      (do
        let (hour, r) ← fixedNumber? 2 r
        let r ← expect? ':' r
        let (minute, r) ← fixedNumber? 2 r
        if 23 < hour ∨ 59 < minute then none else some r).getD cs
    else cs
  | [] => []

def isLeapYear (y : Nat) : Bool := y % 4 == 0 && (y % 100 != 0 || y % 400 == 0)

def daysIn (year month : Nat) : Nat :=
  if month = 2 then (if isLeapYear year then 29 else 28)
  else if month = 4 ∨ month = 6 ∨ month = 9 ∨ month = 11 then 30
  else 31

/-- a date, with a time after it or not: whether there is such a day, and the text after it -/
def date? (cs : List Char) : Option (Bool × List Char) := do
  let (year, cs) ← fixedNumber? 4 cs
  let cs ← expect? '-' cs
  let (month, cs) ← fixedNumber? 2 cs
  let cs ← expect? '-' cs
  let (day, cs) ← fixedNumber? 2 cs
  if month = 0 ∨ 12 < month ∨ day = 0 ∨ 31 < day then none
  else
    let valid := 0 < year && day ≤ daysIn year month
    match cs with
    | sep :: r =>
      if sep == 'T' || sep == 't' || sep == ' ' then
        match time? r with
        | some r' => some (valid, offset r')
        | none => some (valid, cs)
      else some (valid, cs)
    | [] => some (valid, cs)

/-- what stands for a date or a time, which no setting takes: a list without items -/
def moment : Value := .list .record []

/-- a truth value, a date or time, or a number -/
def scalar (cs : List Char) : Read Value :=
  if "true".toList.isPrefixOf cs then .ok (.bool true, cs.drop 4)
  else if "false".toList.isPrefixOf cs then .ok (.bool false, cs.drop 5)
  else
    match date? cs with
    | some (valid, r) => if valid then .ok (moment, r) else .error (.fault .date cs)
    | none =>
      match time? cs with
      | some r => .ok (moment, r)
      | none =>
        match based? cs with
        | some found => .ok found
        | none =>
          match decimal? cs with
          | some found => found
          | none =>
            match numberWords.find? fun w => w.1.isPrefixOf cs with
            | some w => .ok (w.2, cs.drop w.1.length)
            | none => .error (.fault .value cs)

end ReportPress.Toml
