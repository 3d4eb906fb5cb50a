import ReportPress.Text.Compatible
/-!
Text for the built-in fonts, which know Latin-1 only. A Latin-1 text stays as it is. In any other text each character
beyond Latin-1 is replaced by a fixed stand-in, else by its plain form, else by a question mark.
Main statement: `reduceLatin_eq_flatMap`, the reduction goes character by character although it first looks at the
whole text.
-/

namespace ReportPress.Text

/-- the built-in fonts can show the character -/
def isLatin (c : Char) : Bool := c.toNat < 256

/-- stand-ins for letters without a decomposition, and for typographic signs -/
def standIns : List (Char × List Char) :=
  [('ı', ['i']), ('ł', ['l']), ('Ł', ['L']), ('đ', ['d']), ('Đ', ['D']), ('‘', ['\'']), ('’', ['\'']), ('“', ['"']),
   ('”', ['"']), ('–', ['-']), ('—', ['-']), ('…', ['.', '.', '.']), ('•', ['-'])]

/-- one character as the built-in fonts can show it -/
def latinForm (c : Char) : List Char :=
  if isLatin c then [c]
  else
    match standIns.lookup c with
    | some s => s
    | none => (plainForm? c).getD ['?']

def reduceLatin (cs : List Char) : List Char :=
  if cs.all isLatin then cs else cs.flatMap latinForm

def latin (s : String) : String := String.ofList (reduceLatin s.toList)

theorem latinForm_of_isLatin {c : Char} (h : isLatin c = true) : latinForm c = [c] := by
  simp [latinForm, h]

theorem flatMap_latinForm_of_all {cs : List Char} (h : cs.all isLatin = true) :
    cs.flatMap latinForm = cs := by
  induction cs with
  | nil => rfl
  | cons c r ih =>
    simp only [List.all_cons, Bool.and_eq_true] at h
    simp [List.flatMap_cons, latinForm_of_isLatin h.1, ih h.2]

theorem reduceLatin_eq_flatMap (cs : List Char) : reduceLatin cs = cs.flatMap latinForm := by
  unfold reduceLatin
  split
  · next h => exact (flatMap_latinForm_of_all h).symm
  · rfl

end ReportPress.Text
