/-!
Texts taken apart and put together again.

Cutting at a separator keeps empty pieces, so a text has one piece more than it has separators. A line ends at a line
feed, a carriage return (with its line feed), a vertical tab, a form feed, the separators of files, groups and records,
the next-line control, or a line or paragraph separator; a line end at the very end of the text opens no further line.
Every occurrence of a part is replaced from left to right, without overlaps.
Main statements: `join_split`, nothing is lost; `split_append`, cutting a text that is put together from two with a
separator between them gives the pieces of the one and then those of the other.
-/

namespace ReportPress.Text

variable {α : Type} [DecidableEq α]

/-- the pieces between separators -/
def split (sep : α) : List α → List (List α)
  | [] => [[]]
  | c :: rest =>
    if c = sep then [] :: split sep rest
    else
      match split sep rest with
      | [] => [[c]]
      | piece :: pieces => (c :: piece) :: pieces

/-- the pieces with a separator between neighbours -/
def join (sep : List α) : List (List α) → List α
  | [] => []
  | [piece] => piece
  | piece :: pieces => piece ++ sep ++ join sep pieces

theorem split_ne_nil (sep : α) (cs : List α) : split sep cs ≠ [] := by
  cases cs with
  | nil => simp [split]
  | cons c r => unfold split; split; · simp
                split <;> simp

theorem join_split (sep : α) (cs : List α) : join [sep] (split sep cs) = cs := by
  induction cs with
  | nil => rfl
  | cons c r ih =>
    unfold split
    obtain ⟨p, ps, hp⟩ := List.exists_cons_of_ne_nil (split_ne_nil sep r)
    rw [hp] at ih ⊢
    by_cases h : c = sep
    · simp [h, join, ih]
    · cases ps with
      | nil => simpa [h, join] using ih
      | cons q qs => simpa [h, join] using ih

theorem split_append (sep : α) (a b : List α) :
    split sep (a ++ sep :: b) = split sep a ++ split sep b := by
  induction a with
  | nil => simp [split]
  | cons c r ih =>
    by_cases h : c = sep
    · simp [split, h, ih]
    · obtain ⟨p, ps, hp⟩ := List.exists_cons_of_ne_nil (split_ne_nil sep r)
      simp [split, h, ih, hp]

/-! ## Lines -/

def isLineEnd (c : Char) : Bool :=
  [10, 11, 12, 13, 0x1C, 0x1D, 0x1E, 0x85, 0x2028, 0x2029].contains c.toNat

/-- the lines of a text, the first of them continuing `line` (held in reverse) -/
def linesFrom (line : List Char) : List Char → List (List Char)
  | [] => if line.isEmpty then [] else [line.reverse]
  | '\r' :: '\n' :: rest => line.reverse :: linesFrom [] rest
  | c :: rest => if isLineEnd c then line.reverse :: linesFrom [] rest else linesFrom (c :: line) rest

def lines (s : String) : List String := (linesFrom [] s.toList).map String.ofList

/-- reading a text file turns a carriage return, with the line feed after it if there is one, into a line feed -/
def plainLineFeeds : List Char → List Char
  | [] => []
  | '\r' :: '\n' :: rest => '\n' :: plainLineFeeds rest
  | '\r' :: rest => '\n' :: plainLineFeeds rest
  | c :: rest => c :: plainLineFeeds rest

/-! ## Parts replaced -/

/-- the text after a part that it starts with -/
def dropPart? : List Char → List Char → Option (List Char)
  | [], cs => some cs
  | _ :: _, [] => none
  | p :: part, c :: cs => if p = c then dropPart? part cs else none

theorem dropPart?_length {part cs rest : List Char} (h : dropPart? part cs = some rest) :
    rest.length + part.length = cs.length := by
  induction part generalizing cs with
  | nil => simp [dropPart?] at h; simp [h]
  | cons p part ih =>
    cases cs with
    | nil => simp [dropPart?] at h
    | cons c cs =>
      simp only [dropPart?] at h
      split at h
      · have := ih h; simp; omega
      · cases h

/-- the text with `new` for every occurrence of the non-empty text `p :: part` -/
def replace (p : Char) (part new : List Char) (cs : List Char) : List Char :=
  match h : dropPart? (p :: part) cs with
  | some rest =>
    have : rest.length < cs.length := by have := dropPart?_length h; simp at this; omega
    new ++ replace p part new rest
  | none =>
    match cs with
    | [] => []
    | c :: rest => c :: replace p part new rest
termination_by cs.length

end ReportPress.Text
