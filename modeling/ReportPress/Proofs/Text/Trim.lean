import Mathlib.Data.List.Basic
import ReportPress.Text.Blank
/-!
Texts without blanks around them.

- `isNeat`: not empty, and a blank neither in front nor at the end.
- `isNeat_trim`: what is left of a text when the blanks around it are gone is neat, or nothing. `trim_trim`: so nothing
  is left to drop. `trim_infix`: it is a part of the text.
- `isNeat_around`: a text is neat that starts and ends like neat texts, whatever is between.
-/

namespace ReportPress.Text

/-- there is a character, and it is no blank -/
def isSolid : Option Char → Bool
  | some c => !isBlank c
  | none => false

/-- not empty, and with no blank in front or at the end -/
def isNeat (s : String) : Bool := isSolid s.toList.head? && isSolid s.toList.getLast?

theorem isSolid_head_trimStart {cs : List Char} (h : trimStart cs ≠ []) : isSolid (trimStart cs).head? = true := by
  unfold trimStart at h ⊢
  rw [List.head?_eq_some_head h, isSolid, List.head_dropWhile_not isBlank h, Bool.not_false]

theorem isSolid_getLast_trimEnd {cs : List Char} (h : trimEnd cs ≠ []) : isSolid (trimEnd cs).getLast? = true := by
  unfold trimEnd at h ⊢
  rw [List.getLast?_reverse]
  apply isSolid_head_trimStart
  intro hnone
  exact h (List.reverse_eq_nil_iff.2 hnone)

theorem trimEnd_isPrefix (cs : List Char) : trimEnd cs <+: cs := by
  rw [← List.reverse_suffix, trimEnd, List.reverse_reverse]
  exact List.dropWhile_suffix isBlank

/-- what is left of a text is a part of it -/
theorem trim_infix (s : String) : (trim s).toList <:+: s.toList := by
  rw [trim, String.toList_ofList, trimChars]
  exact (trimEnd_isPrefix _).isInfix.trans (List.dropWhile_suffix isBlank).isInfix

/-- blanks at the end are dropped without a look at the start -/
theorem head_trimEnd {cs : List Char} (h : trimEnd cs ≠ []) : (trimEnd cs).head? = cs.head? := by
  obtain ⟨rest, hrest⟩ := trimEnd_isPrefix cs
  conv_rhs => rw [← hrest]
  rw [List.head?_append_of_ne_nil _ h]

theorem isNeat_trim {s : String} (h : trim s ≠ "") : isNeat (trim s) = true := by
  have hend : trimEnd (trimStart s.toList) ≠ [] := by
    intro hnone
    apply h
    rw [trim, trimChars, hnone]
  have hstart : trimStart s.toList ≠ [] := by
    intro hnone
    apply hend
    rw [hnone]
    rfl
  rw [isNeat, trim, String.toList_ofList, trimChars, Bool.and_eq_true]
  constructor
  · rw [head_trimEnd hend]
    exact isSolid_head_trimStart hstart
  · exact isSolid_getLast_trimEnd hend

/-- what is neat has nothing to lose -/
theorem trim_of_isNeat {s : String} (h : isNeat s = true) : trim s = s := by
  have hsolid : ∀ {o : Option Char}, isSolid o = true → ∀ c, o = some c → isBlank c = false := by
    rintro _ ho c rfl
    simpa [isSolid] using ho
  obtain ⟨hstart, hend⟩ := Bool.and_eq_true_iff.1 h
  rw [trim, trim_of_edges (hsolid hstart) (hsolid hend), String.ofList_toList]

/-- there are no blanks left to drop -/
theorem trim_trim (s : String) : trim (trim s) = trim s := by
  by_cases h : trim s = ""
  · rw [h]
    rfl
  · exact trim_of_isNeat (isNeat_trim h)

theorem toList_ne_nil_of_isNeat {s : String} (h : isNeat s = true) : s.toList ≠ [] := by
  intro hnone
  rw [isNeat, hnone] at h
  cases h

theorem isNeat_around {a b : String} (ha : isNeat a = true) (between : String) (hb : isNeat b = true) :
    isNeat (a ++ between ++ b) = true := by
  have hstart := toList_ne_nil_of_isNeat ha
  have hfinish := toList_ne_nil_of_isNeat hb
  rw [isNeat, Bool.and_eq_true] at ha hb ⊢
  rw [String.toList_append, String.toList_append]
  constructor
  · rw [List.append_assoc, List.head?_append_of_ne_nil _ hstart]
    exact ha.1
  · rw [List.getLast?_append_of_ne_nil _ hfinish]
    exact hb.2

end ReportPress.Text
