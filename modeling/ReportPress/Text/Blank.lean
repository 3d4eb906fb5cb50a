import ReportPress.Text.CharSet
/-!
Blank characters (spaces, line ends, and the separators of files, groups, records and units) and texts without blanks
at their ends.
Main statement: `trim_of_edges`, a text that neither starts nor ends with a blank is its own trimmed form.
-/

namespace ReportPress.Text

def blanks : CharSet := ⟨
  [(9, 13), (28, 32), (0x85, 0x85), (0xA0, 0xA0), (0x1680, 0x1680), (0x2000, 0x200A), (0x2028, 0x2029),
   (0x202F, 0x202F), (0x205F, 0x205F), (0x3000, 0x3000)]⟩

def isBlank (c : Char) : Bool := blanks.contains c

/-- without the blanks at its start -/
def trimStart (cs : List Char) : List Char := cs.dropWhile isBlank

/-- without the blanks at its end -/
def trimEnd (cs : List Char) : List Char := (cs.reverse.dropWhile isBlank).reverse

def trimChars (cs : List Char) : List Char := trimEnd (trimStart cs)

/-- without the blanks at both ends -/
def trim (s : String) : String := String.ofList (trimChars s.toList)

/-- nothing but blanks -/
def isBlankText (s : String) : Bool := s.toList.all isBlank

theorem trimStart_of_head {cs : List Char} (h : ∀ c, cs.head? = some c → isBlank c = false) :
    trimStart cs = cs := by
  cases cs with
  | nil => rfl
  | cons c r => simp [trimStart, h c rfl]

theorem trimEnd_of_getLast {cs : List Char} (h : ∀ c, cs.getLast? = some c → isBlank c = false) :
    trimEnd cs = cs := by
  have : trimStart cs.reverse = cs.reverse := trimStart_of_head (by simpa using h)
  simpa [trimEnd, trimStart, List.reverse_eq_iff] using this

theorem trim_of_edges {cs : List Char} (hs : ∀ c, cs.head? = some c → isBlank c = false)
    (he : ∀ c, cs.getLast? = some c → isBlank c = false) : trimChars cs = cs := by
  rw [trimChars, trimStart_of_head hs, trimEnd_of_getLast he]

end ReportPress.Text
