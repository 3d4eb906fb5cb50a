import ReportPress.Text.Quoted
/-!
UTF-8. Reading a sequence of octets gives the characters or the first place that is not UTF-8: an octet that starts no
character, a character whose later octets are wrong, or a character that the end cuts off.
-/

namespace ReportPress.Text.Utf8

inductive Reason where
  | start
  | continuation
  | cut
deriving DecidableEq, Repr

/-- the octets from `first` up to `first + count` are no character -/
structure Fault where
  octet : Nat
  first : Nat
  count : Nat
  reason : Reason
deriving DecidableEq, Repr

def Reason.message : Reason → String
  | .start => "invalid start byte"
  | .continuation => "invalid continuation byte"
  | .cut => "unexpected end of data"

def Fault.message (f : Fault) : String :=
  "'utf-8' codec can't decode " ++
    (if f.count = 1 then
      "byte 0x" ++ String.ofList (hex 2 f.octet) ++ " in position " ++ Nat.repr f.first
     else "bytes in position " ++ Nat.repr f.first ++ "-" ++ Nat.repr (f.first + f.count - 1)) ++
    ": " ++ f.reason.message

/-- how many octets a first octet announces -/
def width? (b : Nat) : Option Nat :=
  if b < 0x80 then some 1
  else if 0xC2 ≤ b ∧ b < 0xE0 then some 2
  else if 0xE0 ≤ b ∧ b < 0xF0 then some 3
  else if 0xF0 ≤ b ∧ b < 0xF5 then some 4
  else none

/-- `c` may be the second octet after `b` -/
def secondFits (b c : Nat) : Bool :=
  if b = 0xE0 then 0xA0 ≤ c && c < 0xC0
  else if b = 0xED then 0x80 ≤ c && c < 0xA0
  else if b = 0xF0 then 0x90 ≤ c && c < 0xC0
  else if b = 0xF4 then 0x80 ≤ c && c < 0x90
  else 0x80 ≤ c && c < 0xC0

def laterFits (c : Nat) : Bool := 0x80 ≤ c && c < 0xC0

/-- the first character of a non-empty sequence, its width, and the octets after it; else how many octets are wrong
and why -/
def first (b : Nat) (rest : List Nat) : Except (Nat × Reason) (Char × Nat × List Nat) :=
  match width? b with
  | none => .error (1, .start)
  | some 1 => .ok (Char.ofNat b, 1, rest)
  | some 2 =>
    match rest with
    | [] => .error (1, .cut)
    | c :: r =>
      if secondFits b c then .ok (Char.ofNat ((b - 0xC0) * 64 + (c - 0x80)), 2, r) else .error (1, .continuation)
  | some 3 =>
    match rest with
    | [] => .error (1, .cut)
    | c :: r =>
      if !secondFits b c then .error (1, .continuation)
      else
        match r with
        | [] => .error (2, .cut)
        | d :: r =>
          if laterFits d then .ok (Char.ofNat (((b - 0xE0) * 64 + (c - 0x80)) * 64 + (d - 0x80)), 3, r)
          else .error (2, .continuation)
  | some _ =>
    match rest with
    | [] => .error (1, .cut)
    | c :: r =>
      if !secondFits b c then .error (1, .continuation)
      else
        match r with
        | [] => .error (2, .cut)
        | d :: r =>
          if !laterFits d then .error (2, .continuation)
          else
            match r with
            | [] => .error (3, .cut)
            | e :: r =>
              if laterFits e then
                .ok (Char.ofNat ((((b - 0xF0) * 64 + (c - 0x80)) * 64 + (d - 0x80)) * 64 + (e - 0x80)), 4, r)
              else .error (3, .continuation)

/-- the characters of the octets from `place` on, after those in `acc` (reversed); `fuel` is their number -/
def decodeFrom : Nat → Nat → List Char → List Nat → Except Fault (List Char)
  | 0, _, acc, _ => .ok acc.reverse
  | _ + 1, _, acc, [] => .ok acc.reverse
  | fuel + 1, place, acc, b :: rest =>
    match first b rest with
    | .ok (c, width, r) => decodeFrom fuel (place + width) (c :: acc) r
    | .error (count, reason) => .error ⟨b, place, count, reason⟩

def decode (octets : ByteArray) : Except Fault (List Char) :=
  decodeFrom octets.size 0 [] (octets.toList.map (·.toNat))

end ReportPress.Text.Utf8
