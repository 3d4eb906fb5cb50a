/-!
Base 64. Reading is strict: the alphabet only, in groups of four, the last group padded; the bits left over in a padded
group are ignored. Padding that follows whole groups, where none is needed, is let pass.
-/

namespace ReportPress.Text.Base64

def valueOf? (c : Char) : Option Nat :=
  if 'A' ≤ c && c ≤ 'Z' then some (c.toNat - 65)
  else if 'a' ≤ c && c ≤ 'z' then some (c.toNat - 71)
  else if '0' ≤ c && c ≤ '9' then some (c.toNat + 4)
  else if c == '+' then some 62
  else if c == '/' then some 63
  else none

def octet (n : Nat) : UInt8 := UInt8.ofNat n

/-- the octets of a text, after those in `acc` -/
def decodeFrom (acc : ByteArray) : List Char → Option ByteArray
  | [] => some acc
  | '=' :: rest => if acc.size ≠ 0 && rest.all (· == '=') then some acc else none
  | [a, b, '=', '='] =>
    match valueOf? a, valueOf? b with
    | some a, some b => some (acc.push (octet (a * 4 + b / 16)))
    | _, _ => none
  | [a, b, c, '='] =>
    match valueOf? a, valueOf? b, valueOf? c with
    | some a, some b, some c => some ((acc.push (octet (a * 4 + b / 16))).push (octet (b % 16 * 16 + c / 4)))
    | _, _, _ => none
  | a :: b :: c :: d :: rest =>
    match valueOf? a, valueOf? b, valueOf? c, valueOf? d with
    | some a, some b, some c, some d =>
      decodeFrom (((acc.push (octet (a * 4 + b / 16))).push (octet (b % 16 * 16 + c / 4))).push
        (octet (c % 4 * 64 + d))) rest
    | _, _, _, _ => none
  | _ => none

def decode (s : String) : Option ByteArray := decodeFrom ByteArray.empty s.toList

def alphabet : List Char :=
  "ABCDEFGHIJKLMNOPQRSTUVWXYZabcdefghijklmnopqrstuvwxyz0123456789+/".toList

def letter (n : Nat) : Char := alphabet.getD n '='

/-- the text of the octets -/
def encodeList : List Nat → List Char
  | [] => []
  | [a] => [letter (a / 4), letter (a % 4 * 16), '=', '=']
  | [a, b] => [letter (a / 4), letter (a % 4 * 16 + b / 16), letter (b % 16 * 4), '=']
  | a :: b :: c :: rest =>
    letter (a / 4) :: letter (a % 4 * 16 + b / 16) :: letter (b % 16 * 4 + c / 64) :: letter (c % 64) ::
      encodeList rest

def encode (octets : ByteArray) : String := String.ofList (encodeList (octets.toList.map (·.toNat)))

end ReportPress.Text.Base64
