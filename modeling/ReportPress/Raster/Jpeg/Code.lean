import ReportPress.Raster.Octets
/-!
The codes of JPEG images. Codes are canonical: given how many codes there are of each length, the codes of one length
are consecutive and follow those of the shorter ones. No code is all ones. `standardCodes` are those that an image may
leave out.
-/

namespace ReportPress.Jpeg

/-- the codes of one length: the first of them, how many there are, and the place of the first one's symbol -/
structure CodeRow where
  first : Nat
  count : Nat
  index : Nat
deriving DecidableEq, Repr

structure Code where
  /-- the codes of one bit, of two, and so on up to sixteen -/
  rows : List CodeRow
  symbols : Array Nat

namespace Code

def maxLength : Nat := 16

/-- rows for the numbers of codes of each length -/
def rowsFrom (first index : Nat) : List Nat → List CodeRow
  | [] => []
  | count :: rest => ⟨first, count, index⟩ :: rowsFrom (2 * (first + count)) (index + count) rest

def ofCounts (counts symbols : List Nat) : Code := ⟨rowsFrom 0 0 counts, symbols.toArray⟩

/-- the codes of each length, from a length on, fit that length with one to spare -/
def rowsFit : Nat → List CodeRow → Bool
  | _, [] => true
  | length, r :: rest =>
    (r.first + r.count < Nat.pow 2 length || (r.count = 0 && rest.all (·.count == 0))) && rowsFit (length + 1) rest

def isLegal (c : Code) : Bool := rowsFit 1 c.rows

/-- all symbols are below a bound -/
def isBelow (c : Code) (bound : Nat) : Bool := c.symbols.all fun x => x < bound

/-- the symbol of a code of the row's length -/
def symbolAt? (c : Code) (r : CodeRow) (code : Nat) : Option Nat :=
  if code < r.first + r.count then some (c.symbols[r.index + (code - r.first)]?.getD 0) else none

/-- bits that are looked at together -/
def lookAhead : Nat := 8

/-- the code at the start of eight bits, if it is that short: its length and its symbol -/
def short? (c : Code) (octet : Nat) : Nat → List CodeRow → Option (Nat × Nat)
  | 0, _ => none
  | _, [] => none
  | left + 1, r :: rest =>
    match c.symbolAt? r (octet / Nat.pow 2 left) with
    | some x => some (lookAhead - left, x)
    | none => c.short? octet left rest

end Code

/-- the usual codes of the differences of means, and of all other coefficients; first for light, then for colour -/
def standardMeans : List (Nat × Code) :=
  [(0, .ofCounts [0, 1, 5, 1, 1, 1, 1, 1, 1, 0, 0, 0, 0, 0, 0, 0] (List.range 12)),
   (1, .ofCounts [0, 3, 1, 1, 1, 1, 1, 1, 1, 1, 1, 0, 0, 0, 0, 0] (List.range 12))]

def lightSymbols : List Nat :=
  [1, 2, 3, 0, 4, 17, 5, 18, 33, 49, 65, 6, 19, 81, 97, 7, 34, 113, 20, 50, 129, 145, 161, 8, 35, 66, 177, 193, 21, 82,
   209, 240, 36, 51, 98, 114, 130, 9, 10, 22, 23, 24, 25, 26, 37, 38, 39, 40, 41, 42, 52, 53, 54, 55, 56, 57, 58, 67,
   68, 69, 70, 71, 72, 73, 74, 83, 84, 85, 86, 87, 88, 89, 90, 99, 100, 101, 102, 103, 104, 105, 106, 115, 116, 117,
   118, 119, 120, 121, 122, 131, 132, 133, 134, 135, 136, 137, 138, 146, 147, 148, 149, 150, 151, 152, 153, 154, 162,
   163, 164, 165, 166, 167, 168, 169, 170, 178, 179, 180, 181, 182, 183, 184, 185, 186, 194, 195, 196, 197, 198, 199,
   200, 201, 202, 210, 211, 212, 213, 214, 215, 216, 217, 218, 225, 226, 227, 228, 229, 230, 231, 232, 233, 234, 241,
   242, 243, 244, 245, 246, 247, 248, 249, 250]

def colourSymbols : List Nat :=
  [0, 1, 2, 3, 17, 4, 5, 33, 49, 6, 18, 65, 81, 7, 97, 113, 19, 34, 50, 129, 8, 20, 66, 145, 161, 177, 193, 9, 35, 51,
   82, 240, 21, 98, 114, 209, 10, 22, 36, 52, 225, 37, 241, 23, 24, 25, 26, 38, 39, 40, 41, 42, 53, 54, 55, 56, 57, 58,
   67, 68, 69, 70, 71, 72, 73, 74, 83, 84, 85, 86, 87, 88, 89, 90, 99, 100, 101, 102, 103, 104, 105, 106, 115, 116,
   117, 118, 119, 120, 121, 122, 130, 131, 132, 133, 134, 135, 136, 137, 138, 146, 147, 148, 149, 150, 151, 152, 153,
   154, 162, 163, 164, 165, 166, 167, 168, 169, 170, 178, 179, 180, 181, 182, 183, 184, 185, 186, 194, 195, 196, 197,
   198, 199, 200, 201, 202, 210, 211, 212, 213, 214, 215, 216, 217, 218, 226, 227, 228, 229, 230, 231, 232, 233, 234,
   242, 243, 244, 245, 246, 247, 248, 249, 250]

def standardCoefficients : List (Nat × Code) :=
  [(0, .ofCounts [0, 2, 1, 3, 3, 2, 4, 3, 5, 5, 4, 4, 0, 0, 1, 125] lightSymbols),
   (1, .ofCounts [0, 2, 1, 2, 4, 4, 3, 4, 7, 5, 4, 4, 0, 1, 2, 119] colourSymbols)]

end ReportPress.Jpeg
