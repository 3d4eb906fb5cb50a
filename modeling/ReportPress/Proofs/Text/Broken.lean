import Mathlib.Data.List.DropRight
import ReportPress.Text.Split
/-!
Texts broken into lines, and what it is to break them greedily. Lines are told by where they stand in the text: one
after the other, with nothing but blanks left out, so what is before a line and what is after it is there to be looked
at.

- `firstWord`, `lastWord`: the word that a text begins or ends with. `append_spaced_of_split`: the words of a text with
  the blanks between them.
- `Broken`: the lines in a text. `Greedy`: a line that could not have gone on.
- `GoesOn`: a text of which a line is at hand. The line may end (`GoesOn.close`), get further (`GoesOn.extend`) and is
  the first of what is left (`GoesOn.broken`).
- `Broken.flatten_solid`: lines hold what the text holds, but for blanks. `Broken.eq_nil_iff`: only blanks leave no
  line.
-/

namespace ReportPress.Text

/-! ## Words of a text -/

/-- the word that a text begins with, nothing if it begins with a blank -/
def firstWord (cs : List Char) : List Char := cs.takeWhile (· ≠ ' ')

/-- the word that a text ends with, nothing if it ends with a blank -/
def lastWord (cs : List Char) : List Char := cs.rtakeWhile (· ≠ ' ')

def Blank (cs : List Char) : Prop := ∀ c ∈ cs, c = ' '

instance (cs : List Char) : Decidable (Blank cs) := inferInstanceAs (Decidable (∀ c ∈ cs, c = ' '))

theorem Blank.filter_solid {cs : List Char} (h : Blank cs) : cs.filter (· ≠ ' ') = [] :=
  List.filter_eq_nil_iff.2 fun c hc hsolid => of_decide_eq_true hsolid (h c hc)

/-- words with a blank before each -/
def spaced (words : List (List Char)) : List Char := words.flatMap (' ' :: ·)

theorem ne_blank_of_not_mem {c : Char} {rest : List Char} (h : ' ' ∉ c :: rest) : c ≠ ' ' := fun hc =>
  h (hc ▸ List.mem_cons_self)

theorem firstWord_append {part : List Char} (h : ' ' ∉ part) (rest : List Char) :
    firstWord (part ++ rest) = part ++ firstWord rest :=
  List.takeWhile_append_of_pos fun _ hc => decide_eq_true fun hblank => h (hblank ▸ hc)

theorem lastWord_append {part : List Char} (h : ' ' ∉ part) (before : List Char) :
    lastWord (before ++ part) = lastWord before ++ part := by
  unfold lastWord List.rtakeWhile
  rw [List.reverse_append, List.takeWhile_append_of_pos, List.reverse_append, List.reverse_reverse]
  exact fun c hc => decide_eq_true fun hblank => h (hblank ▸ List.mem_reverse.1 hc)

theorem lastWord_blank (before : List Char) : lastWord (before ++ [' ']) = [] :=
  List.rtakeWhile_concat_neg _ _ _ (by decide)

theorem firstWord_spaced (words : List (List Char)) : firstWord (spaced words) = [] := by
  cases words <;> rfl

theorem spaced_cons (word : List Char) (words : List (List Char)) :
    spaced (word :: words) = ' ' :: (word ++ spaced words) := List.flatMap_cons

/-- the pieces between blanks hold none -/
theorem not_mem_of_mem_split (cs : List Char) : ∀ word ∈ split ' ' cs, ' ' ∉ word := by
  induction cs with
  | nil => simp [split]
  | cons c rest ih =>
    unfold split
    split
    · exact List.forall_mem_cons.2 ⟨List.not_mem_nil, ih⟩
    · next hc =>
      split
      · exact List.forall_mem_singleton.2 fun h => hc (List.mem_singleton.1 h).symm
      · next piece pieces hcut =>
        rw [hcut, List.forall_mem_cons] at ih
        refine List.forall_mem_cons.2 ⟨fun h => ?_, ih.2⟩
        exact (List.mem_cons.1 h).elim (fun heq => hc heq.symm) ih.1

/-- a text is its first piece and the others, with a blank before each of these -/
theorem append_spaced_of_split {cs word : List Char} {words : List (List Char)} (h : split ' ' cs = word :: words) :
    word ++ spaced words = cs := by
  rw [← join_split ' ' cs, h]
  clear h
  induction words generalizing word with
  | nil => exact List.append_nil word
  | cons next rest ih =>
    calc word ++ spaced (next :: rest) = word ++ [' '] ++ (next ++ spaced rest) := by
          rw [spaced_cons, List.append_assoc, List.singleton_append]
      _ = word ++ [' '] ++ join [' '] (next :: rest) := by rw [ih]
      _ = join [' '] (word :: next :: rest) := rfl

/-! ## Lines in a text -/

/-- the rest of a text, after `before`, is broken into lines: they stand in it one after the other, beginning with no
blank, and nothing but blanks is left out before, between and after them; `Line` holds of each line, the text up to
where it ends and the text after it -/
inductive Broken (Line : List Char → List Char → List Char → Prop) :
    List Char → List Char → List (List Char) → Prop
  | nil {before after : List Char} (hafter : Blank after) : Broken Line before after []
  | cons {before blanks line rest : List Char} {lines : List (List Char)} (hblanks : Blank blanks)
      (hstart : ∃ c others, line = c :: others ∧ c ≠ ' ') (hline : Line line (before ++ blanks ++ line) rest)
      (hrest : Broken Line (before ++ blanks ++ line) rest lines) :
      Broken Line before (blanks ++ line ++ rest) (line :: lines)

/-- a line and what it is broken into: an empty line stays -/
inductive Wrapped (Line : List Char → List Char → List Char → Prop) : List Char → List (List Char) → Prop
  | empty : Wrapped Line [] [[]]
  | text {line : List Char} {group : List (List Char)} (hne : line ≠ []) (hbroken : Broken Line [] line group) :
      Wrapped Line line group

/-- the line fits, or is a single character; and it could not have gone on, where `before` is the text up to its end:
neither by a blank and the whole next word nor, if it ends within a word, by the next character, and such a word is too
wide for a line -/
structure Greedy (fits tooWide : List Char → Prop) (line before after : List Char) : Prop where
  fits : line.length = 1 ∨ fits line
  /-- at a break between words -/
  between : ∀ rest, after = ' ' :: rest → tooWide (line ++ ' ' :: firstWord rest)
  /-- at a break within a word -/
  within : ∀ c rest, after = c :: rest → c ≠ ' ' →
    tooWide (lastWord before ++ firstWord after) ∧ tooWide (line ++ [c])

variable {Line Other : List Char → List Char → List Char → Prop} {before current after : List Char}
  {lines : List (List Char)}

theorem Greedy.mono {fits fits' tooWide tooWide' : List Char → Prop} (hfits : ∀ t, fits t → fits' t)
    (hwide : ∀ t, tooWide t → tooWide' t) {line : List Char} (h : Greedy fits tooWide line before after) :
    Greedy fits' tooWide' line before after :=
  ⟨h.fits.imp_right (hfits _), fun rest hrest => hwide _ (h.between rest hrest),
    fun c rest hrest hc => ⟨hwide _ (h.within c rest hrest hc).1, hwide _ (h.within c rest hrest hc).2⟩⟩

namespace Broken

theorem mono (hmono : ∀ line before after, Line line before after → Other line before after)
    (h : Broken Line before after lines) : Broken Other before after lines := by
  induction h with
  | nil hafter => exact .nil hafter
  | cons hblanks hstart hline _ ih => exact .cons hblanks hstart (hmono _ _ _ hline) ih

/-- what holds of each line holds of all -/
theorem forall_mem {P : List Char → Prop} (hmono : ∀ line before after, Line line before after → P line)
    (h : Broken Line before after lines) : ∀ line ∈ lines, P line := by
  induction h with
  | nil _ => exact List.forall_mem_nil _
  | cons _ _ hline _ ih => exact List.forall_mem_cons.2 ⟨hmono _ _ _ hline, ih⟩

/-- **Nothing is lost but blanks** -/
theorem flatten_solid (h : Broken Line before after lines) :
    lines.flatten.filter (· ≠ ' ') = after.filter (· ≠ ' ') := by
  induction h with
  | nil hafter => exact hafter.filter_solid.symm
  | cons hblanks _ _ _ ih =>
    rw [List.flatten_cons, List.filter_append, List.filter_append, List.filter_append, ih, hblanks.filter_solid,
      List.nil_append]

/-- **Only blanks leave no line** -/
theorem eq_nil_iff (h : Broken Line before after lines) : lines = [] ↔ Blank after := by
  cases h with
  | nil hafter => exact iff_of_true rfl hafter
  | cons _ hstart =>
    obtain ⟨c, others, rfl, hc⟩ := hstart
    refine iff_of_false (List.cons_ne_nil _ _) fun hall => hc (hall c ?_)
    exact List.mem_append_left _ (List.mem_append_right _ List.mem_cons_self)

/-- a blank may be left out before all of it -/
theorem blank (h : Broken Line (before ++ [' ']) after lines) : Broken Line before (' ' :: after) lines := by
  cases h with
  | nil hafter => exact .nil (List.forall_mem_cons.2 ⟨rfl, hafter⟩)
  | cons hblanks hstart hline hrest =>
    have hmore : Blank (' ' :: _) := List.forall_mem_cons.2 ⟨rfl, hblanks⟩
    rw [List.append_assoc before [' ']] at hline hrest
    exact .cons hmore hstart hline hrest

end Broken

namespace Wrapped

variable {line : List Char} {group : List (List Char)}

theorem mono (hmono : ∀ line before after, Line line before after → Other line before after)
    (h : Wrapped Line line group) : Wrapped Other line group := by
  cases h with
  | empty => exact .empty
  | text hne hbroken => exact .text hne (hbroken.mono hmono)

/-- what holds of each line holds of all, if it holds of an empty line -/
theorem forall_mem {P : List Char → Prop} (hempty : P [])
    (hmono : ∀ line before after, Line line before after → P line) (h : Wrapped Line line group) :
    ∀ l ∈ group, P l := by
  cases h with
  | empty => exact List.forall_mem_singleton.2 hempty
  | text _ hbroken => exact hbroken.forall_mem hmono

theorem flatten_solid (h : Wrapped Line line group) : group.flatten.filter (· ≠ ' ') = line.filter (· ≠ ' ') := by
  cases h with
  | empty => rfl
  | text _ hbroken => exact hbroken.flatten_solid

theorem eq_nil_iff (h : Wrapped Line line group) : group = [] ↔ line ≠ [] ∧ Blank line := by
  cases h with
  | empty => exact iff_of_false (List.cons_ne_nil _ _) fun h => h.1 rfl
  | text hne hbroken => exact hbroken.eq_nil_iff.trans (and_iff_right hne).symm

end Wrapped

/-! ## Lines of many texts -/

section Groups

variable {β : Type} {texts : List β} {groups : List (List (List Char))}

theorem forall_mem_groups {P : List Char → Prop} (h : List.Forall₂ (fun _ group => ∀ l ∈ group, P l) texts groups) :
    ∀ l ∈ groups.flatten, P l := by
  induction h with
  | nil => exact List.forall_mem_nil _
  | cons hgroup _ ih => exact List.forall_mem_append.2 ⟨hgroup, ih⟩

theorem flatten_solid_of_groups {texts : List (List Char)}
    (h : List.Forall₂ (fun text group => group.flatten.filter (· ≠ ' ') = text.filter (· ≠ ' ')) texts groups) :
    groups.flatten.flatten.filter (· ≠ ' ') = texts.flatten.filter (· ≠ ' ') := by
  induction h with
  | nil => rfl
  | cons hgroup _ ih =>
    rw [List.flatten_cons, List.flatten_append, List.filter_append, hgroup, ih, List.flatten_cons, List.filter_append]

/-- there are no fewer lines than texts that leave one -/
theorem countP_le_of_groups {keeps : β → Bool}
    (h : List.Forall₂ (fun text group => keeps text = true → group ≠ []) texts groups) :
    texts.countP keeps ≤ groups.flatten.length := by
  induction h with
  | nil => exact Nat.zero_le _
  | @cons text group _ _ hgroup _ ih =>
    rw [List.flatten_cons, List.length_append, List.countP_cons]
    split
    · next hkeeps =>
      have hlength : 0 < group.length := List.length_pos_iff.2 (hgroup hkeeps)
      omega
    · omega

end Groups

/-- the rest of a text, after `before`, goes on with the line at hand: `current` is where this line has got so far -/
def GoesOn (Line : List Char → List Char → List Char → Prop) (before current after : List Char)
    (lines : List (List Char)) : Prop :=
  ∃ more rest others, after = more ++ rest ∧ lines = (current ++ more) :: others ∧
    Line (current ++ more) (before ++ more) rest ∧ Broken Line (before ++ more) rest others

namespace GoesOn

/-- the line at hand ends here -/
theorem close (hline : Line current before after) (hrest : Broken Line before after lines) :
    GoesOn Line before current after (current :: lines) :=
  ⟨[], after, lines, rfl, by rw [List.append_nil], by rwa [List.append_nil, List.append_nil],
    by rwa [List.append_nil]⟩

/-- the line at hand has got further -/
theorem extend {more : List Char} (h : GoesOn Line (before ++ more) (current ++ more) after lines) :
    GoesOn Line before current (more ++ after) lines := by
  obtain ⟨further, rest, others, rfl, rfl, hline, hrest⟩ := h
  rw [List.append_assoc] at hline hrest
  rw [List.append_assoc] at hline
  exact ⟨more ++ further, rest, others, (List.append_assoc _ _ _).symm, by rw [List.append_assoc], hline, hrest⟩

/-- the line at hand is the first of the lines that are left -/
theorem broken (hstart : ∃ c others, current = c :: others ∧ c ≠ ' ')
    (h : GoesOn Line (before ++ current) current after lines) : Broken Line before (current ++ after) lines := by
  obtain ⟨more, rest, others, rfl, rfl, hline, hrest⟩ := h
  obtain ⟨c, cs, rfl, hc⟩ := hstart
  rw [List.append_assoc] at hline hrest
  have hnone : Blank [] := List.forall_mem_nil _
  rw [← List.append_assoc]
  refine .cons hnone ⟨c, cs ++ more, rfl, hc⟩ ?_ ?_
  · rwa [List.append_nil]
  · rwa [List.append_nil]

end GoesOn

end ReportPress.Text
