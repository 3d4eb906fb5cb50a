import ReportPress.Text.Printable
/-!
Quoted texts in messages. A text stands between single quotes, or between double quotes if it holds a single quote and
no double one; the quote and the backslash are escaped by a backslash, tabs and line ends by a letter, every other
character without a visible form by its number in two, four or eight hexadecimal digits.
-/

namespace ReportPress.Text

/-- lower-case hexadecimal digits of `n`, exactly `width` of them -/
def hex (width n : Nat) : List Char :=
  match width with
  | 0 => []
  | w + 1 => hex w (n / 16) ++ [(Nat.digitChar (n % 16))]

/-- a character between quotes `q` -/
def quotedChar (q c : Char) : List Char :=
  if c == q || c == '\\' then ['\\', c]
  else if c == '\t' then ['\\', 't']
  else if c == '\n' then ['\\', 'n']
  else if c == '\r' then ['\\', 'r']
  else if isPrintable c then [c]
  else if c.toNat < 0x100 then '\\' :: 'x' :: hex 2 c.toNat
  else if c.toNat < 0x10000 then '\\' :: 'u' :: hex 4 c.toNat
  else '\\' :: 'U' :: hex 8 c.toNat

/-- the quote that surrounds a text -/
def quoteFor (cs : List Char) : Char :=
  if cs.contains '\'' && !cs.contains '"' then '"' else '\''

def quotedChars (cs : List Char) : List Char :=
  let q := quoteFor cs
  q :: cs.flatMap (quotedChar q) ++ [q]

def quoted (s : String) : String := String.ofList (quotedChars s.toList)

end ReportPress.Text
