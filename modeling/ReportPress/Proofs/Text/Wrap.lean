import ReportPress.Proofs.Number.Order
import ReportPress.Proofs.Page.Length
import ReportPress.Proofs.Text.Broken
import ReportPress.Text.Wrap
/-!
Breaking lines to a width, by any measure of texts. A word is placed with a line at hand or without one; without one it
begins a line, or several if it is too wide. Each line that ends has been compared with what it would have gone on to,
so it is greedy as far as these comparisons tell; where lengths are totally ordered, they tell all.

- `broken_breakWord`: the pieces of a word, by induction on what is left of it. `Places`: words with a line at hand and
  without one. `broken_word`: the next word; `places_words`: by induction, all of them.
- `wrapLines_wrapped`: a whole text, whatever the lengths.
- `wrapLines_greedy`, `wrapLines_solid`, `wrap_keeps_lines`: no line could have gone on; no text is lost; every line of
  the text leaves a line, but for one that is of blanks alone (`blank_line_lost`).
-/

namespace ReportPress.Text

/-! ## Breaking a word -/

variable {α : Type} [Length α] (width : List Char → α) (limit : α)

/-- a text passes for one that fits, by one comparison or the other -/
def MayFit (t : List Char) : Prop := Length.atMost (width t) limit = true ∨ Length.below limit (width t) = false

/-- a text passes for one that is too wide, by one comparison or the other -/
def MayExceed (t : List Char) : Prop := Length.atMost (width t) limit = false ∨ Length.below limit (width t) = true

/-- the line is greedy as far as the comparisons that are made tell -/
abbrev Packed : List Char → List Char → List Char → Prop := Greedy (MayFit width limit) (MayExceed width limit)

theorem breakWord_nil_cons (c : Char) (rest : List Char) :
    breakWord (m := Id) width limit [] (c :: rest) = breakWord (m := Id) width limit [c] rest := rfl

theorem breakWord_cons {chunk : List Char} (hchunk : chunk ≠ []) (c : Char) (rest : List Char) :
    breakWord (m := Id) width limit chunk (c :: rest) =
      if Length.below limit (width (chunk ++ [c])) then chunk :: breakWord (m := Id) width limit [c] rest
      else breakWord (m := Id) width limit (chunk ++ [c]) rest := by
  have hempty : chunk.isEmpty = false := by simpa using hchunk
  rw [breakWord, hempty]
  rfl

/-- a line that may go on -/
structure Begun (line : List Char) : Prop where
  start : ∃ c others, line = c :: others ∧ c ≠ ' '
  fits : line.length = 1 ∨ MayFit width limit line

variable {width limit} {before : List Char}

theorem begun_single {c : Char} (hc : c ≠ ' ') : Begun width limit [c] := ⟨⟨c, [], rfl, hc⟩, .inl rfl⟩

/-- a line that ends within a word, before the character `c` -/
theorem packed_within {line : List Char} {c : Char} {rest after : List Char} (hline : Begun width limit line)
    (hword : ' ' ∉ line ++ c :: rest) (hafter : firstWord after = [])
    (hwide : MayExceed width limit (lastWord before ++ (line ++ c :: rest)))
    (hbelow : Length.below limit (width (line ++ [c])) = true) :
    Packed width limit line (before ++ line) (c :: rest ++ after) := by
  rw [List.mem_append, not_or] at hword
  have hc : c ≠ ' ' := ne_blank_of_not_mem hword.2
  refine ⟨hline.fits, fun others heq => absurd (List.cons.inj heq).1 hc, fun d others heq _ => ?_⟩
  obtain rfl : c = d := (List.cons.inj heq).1
  rw [lastWord_append hword.1, firstWord_append hword.2, hafter, List.append_nil, List.append_assoc]
  exact ⟨hwide, .inr hbelow⟩

/-- a word that is too wide: all pieces but the last are lines, and the last is the line at hand -/
theorem broken_breakWord (before chunk word : List Char) (hchunk : Begun width limit chunk)
    (hword : ' ' ∉ chunk ++ word) (hwide : MayExceed width limit (lastWord before ++ (chunk ++ word))) :
    ∃ front last, breakWord (m := Id) width limit chunk word = front ++ [last] ∧ Begun width limit last ∧
      ∀ after lines, firstWord after = [] →
        GoesOn (Packed width limit) (before ++ (chunk ++ word)) last after lines →
          Broken (Packed width limit) before (chunk ++ word ++ after) (front ++ lines) := by
  induction word generalizing before chunk with
  | nil =>
    refine ⟨[], chunk, ?_, hchunk, fun after lines _ h => ?_⟩
    · obtain ⟨c, others, rfl, -⟩ := hchunk.start
      rfl
    · rw [List.append_nil] at h ⊢
      exact h.broken hchunk.start
  | cons c rest ih =>
    have hcons : chunk ++ c :: rest = chunk ++ [c] ++ rest := List.append_cons chunk c rest
    obtain ⟨first, others, hfirst, hblank⟩ := hchunk.start
    rw [breakWord_cons width limit (hfirst ▸ List.cons_ne_nil first others)]
    split
    · next hbelow =>
      -- the piece is a line; what is left begins with `c`, and the word behind it has got longer by the piece
      have hparts := hword
      rw [List.mem_append, not_or] at hparts
      obtain ⟨front, last, hfront, hlast, hbroken⟩ := ih (before ++ chunk) [c]
        (begun_single (ne_blank_of_not_mem hparts.2)) hparts.2 (by rwa [lastWord_append hparts.1, List.append_assoc])
      refine ⟨chunk :: front, last, congrArg (chunk :: ·) hfront, hlast, fun after lines hafter h => ?_⟩
      have hrest := hbroken after lines hafter (by rwa [List.append_assoc])
      rw [List.append_assoc]
      exact (GoesOn.close (packed_within hchunk hword hafter hwide hbelow) hrest).broken hchunk.start
    · next hbelow =>
      rw [hcons] at hword hwide ⊢
      exact ih before _ ⟨⟨first, others ++ [c], by rw [hfirst]; rfl, hblank⟩, .inr (.inr (Bool.eq_false_iff.2 hbelow))⟩
        hword hwide

/-! ## Placing words -/

variable (width limit)

theorem placeWord_fresh (lines : List (List Char)) (word : List Char) :
    placeWord (m := Id) width limit ⟨lines, []⟩ word =
      if Length.atMost (width word) limit then ⟨lines, word⟩
      else ⟨lines ++ (breakWord (m := Id) width limit [] word).dropLast,
        (breakWord (m := Id) width limit [] word).getLast?.getD []⟩ := by
  unfold placeWord
  by_cases h : Length.atMost (width word) limit = true
  · rw [if_pos h]
    exact if_pos h
  · rw [if_neg h]
    exact (if_neg h).trans (if_neg h)

theorem placeWord_open (lines : List (List Char)) {current : List Char} (hcurrent : current ≠ []) (word : List Char) :
    placeWord (m := Id) width limit ⟨lines, current⟩ word =
      if Length.atMost (width (current ++ ' ' :: word)) limit then ⟨lines, current ++ ' ' :: word⟩
      else placeWord (m := Id) width limit ⟨lines ++ [current], []⟩ word := by
  have hempty : current.isEmpty = false := by simpa using hcurrent
  rw [placeWord_fresh]
  unfold placeWord Wrapping.finish
  dsimp only
  rw [hempty]
  rfl

/-- the lines that words come to, with those that are finished before them -/
def linesOf (words : List (List Char)) (w : Wrapping) : List (List Char) :=
  (Id.run (words.foldlM (placeWord width limit) w)).finish.lines

theorem linesOf_cons (word : List Char) (words : List (List Char)) (w : Wrapping) :
    linesOf width limit (word :: words) w = linesOf width limit words (placeWord (m := Id) width limit w word) := rfl

/-- the words that follow `before` come to lines as they should -/
structure Places (words : List (List Char)) (before : List Char) : Prop where
  /-- with no line at hand -/
  fresh : ∀ lines, ∃ more, linesOf width limit words ⟨lines, []⟩ = lines ++ more ∧
    Broken (Packed width limit) before (spaced words) more
  /-- with a line at hand -/
  goesOn : ∀ lines current, Begun width limit current →
    ∃ more, linesOf width limit words ⟨lines, current⟩ = lines ++ more ∧
      GoesOn (Packed width limit) before current (spaced words) more

variable {width limit}

/-- with no line at hand a word begins one, or several if it is too wide -/
theorem broken_word {words : List (List Char)} (before : List Char) {word : List Char} (hword : ' ' ∉ word)
    (hbefore : lastWord before = []) (hrest : Places width limit words (before ++ word)) (lines : List (List Char)) :
    ∃ more, linesOf width limit words (placeWord (m := Id) width limit ⟨lines, []⟩ word) = lines ++ more ∧
      Broken (Packed width limit) before (word ++ spaced words) more := by
  cases word with
  | nil =>
    -- an empty word fits or has no pieces: either way there is still no line at hand
    have hplaced : placeWord (m := Id) width limit ⟨lines, []⟩ [] = ⟨lines, []⟩ := by
      rw [placeWord_fresh]
      split
      · rfl
      · exact congrArg (Wrapping.mk · []) (List.append_nil lines)
    rw [hplaced]
    rw [List.append_nil] at hrest
    exact hrest.fresh lines
  | cons c rest =>
    have hc : c ≠ ' ' := ne_blank_of_not_mem hword
    have hstart : ∃ d others, c :: rest = d :: others ∧ d ≠ ' ' := ⟨c, rest, rfl, hc⟩
    rw [placeWord_fresh]
    split
    · next hfits =>
      obtain ⟨more, hmore, hgoes⟩ := hrest.goesOn lines (c :: rest) ⟨hstart, .inr (.inl hfits)⟩
      exact ⟨more, hmore, hgoes.broken hstart⟩
    · next hwide =>
      have hexceeds : MayExceed width limit (lastWord before ++ ([c] ++ rest)) := by
        rw [hbefore]
        exact .inl (Bool.eq_false_iff.2 hwide)
      obtain ⟨front, last, hparts, hlast, hbroken⟩ :=
        broken_breakWord before [c] rest (begun_single hc) hword hexceeds
      obtain ⟨more, hmore, hgoes⟩ := hrest.goesOn (lines ++ front) last hlast
      rw [breakWord_nil_cons, hparts, List.dropLast_concat, List.getLast?_concat, Option.getD_some, hmore,
        List.append_assoc]
      exact ⟨front ++ more, rfl, hbroken _ _ (firstWord_spaced words) hgoes⟩

/-- a line that ends before a word that does not fit on it -/
theorem packed_between {current word : List Char} (words : List (List Char)) (hcurrent : Begun width limit current)
    (hword : ' ' ∉ word) (hwide : Length.atMost (width (current ++ ' ' :: word)) limit ≠ true) :
    Packed width limit current before (' ' :: (word ++ spaced words)) := by
  refine ⟨hcurrent.fits, fun rest heq => ?_, fun c rest heq hc => absurd (List.cons.inj heq).1.symm hc⟩
  rw [← (List.cons.inj heq).2, firstWord_append hword, firstWord_spaced, List.append_nil]
  exact .inl (Bool.eq_false_iff.2 hwide)

theorem places_words (words : List (List Char)) (hwords : ∀ word ∈ words, ' ' ∉ word) (before : List Char) :
    Places width limit words before := by
  induction words generalizing before with
  | nil =>
    refine ⟨fun lines => ⟨[], (List.append_nil lines).symm, .nil (List.forall_mem_nil _)⟩,
      fun lines current hcurrent => ⟨[current], ?_, ?_⟩⟩
    · obtain ⟨c, others, rfl, -⟩ := hcurrent.start
      rfl
    · exact GoesOn.close ⟨hcurrent.fits, nofun, nofun⟩ (.nil (List.forall_mem_nil _))
  | cons word words ih =>
    obtain ⟨hword, hwords⟩ := List.forall_mem_cons.1 hwords
    have hfresh := broken_word (before ++ [' ']) hword (lastWord_blank before) (ih hwords (before ++ [' '] ++ word))
    refine ⟨fun lines => ?_, fun lines current hcurrent => ?_⟩
    · obtain ⟨more, hmore, hbroken⟩ := hfresh lines
      exact ⟨more, hmore, hbroken.blank⟩
    · obtain ⟨c, others, hstart, hc⟩ := hcurrent.start
      rw [linesOf_cons, placeWord_open width limit lines (hstart ▸ List.cons_ne_nil c others)]
      split
      · next hfits =>
        have hbegun : Begun width limit (current ++ ' ' :: word) :=
          ⟨⟨c, others ++ ' ' :: word, by rw [hstart]; rfl, hc⟩, .inr (.inl hfits)⟩
        obtain ⟨more, hmore, hgoes⟩ := (ih hwords (before ++ ' ' :: word)).goesOn lines _ hbegun
        exact ⟨more, hmore, hgoes.extend⟩
      · next hwide =>
        -- the line at hand ends, and the word is placed as if there had been none
        obtain ⟨more, hmore, hbroken⟩ := hfresh (lines ++ [current])
        rw [hmore, List.append_assoc]
        exact ⟨current :: more, rfl, GoesOn.close (packed_between words hcurrent hword hwide) hbroken.blank⟩

variable (width limit)

/-- **What a line of a text is broken into** -/
theorem wrapLine_wrapped (line : List Char) :
    Wrapped (Packed width limit) line (wrapLine (m := Id) width limit line) := by
  cases line with
  | nil => exact .empty
  | cons c rest =>
    obtain ⟨word, words, hsplit⟩ := List.exists_cons_of_ne_nil (split_ne_nil ' ' (c :: rest))
    have hpieces := not_mem_of_mem_split (c :: rest)
    rw [hsplit, List.forall_mem_cons] at hpieces
    have hplaces : Places width limit words ([] ++ word) := places_words words hpieces.2 _
    obtain ⟨more, hmore, hbroken⟩ := broken_word [] hpieces.1 rfl hplaces []
    have hlines : wrapLine (m := Id) width limit (c :: rest) = more := by
      refine Eq.trans ?_ hmore
      show (Id.run ((split ' ' (c :: rest)).foldlM (placeWord width limit) ⟨[], []⟩)).finish.lines = _
      rw [hsplit]
      rfl
    rw [append_spaced_of_split hsplit] at hbroken
    rw [hlines]
    exact .text (List.cons_ne_nil c rest) hbroken

theorem wrapLines_wrapped (lines : List (List Char)) :
    ∃ groups, Id.run (wrapLines width limit lines) = groups.flatten ∧
      List.Forall₂ (Wrapped (Packed width limit)) lines groups := by
  induction lines with
  | nil => exact ⟨[], rfl, .nil⟩
  | cons line rest ih =>
    obtain ⟨groups, hgroups, hwrapped⟩ := ih
    refine ⟨wrapLine (m := Id) width limit line :: groups, ?_, .cons (wrapLine_wrapped width limit line) hwrapped⟩
    rw [List.flatten_cons, ← hgroups]
    rfl

/-! ## Greedily -/

/-- the widths of texts can be compared with the limit: what is not at most the limit is above it. So it is wherever
lengths are totally ordered, and on doubles unless one of them is no number -/
def Comparable (width : List Char → α) (limit : α) : Prop :=
  ∀ t, Length.atMost (width t) limit = !Length.below limit (width t)

namespace Comparable

variable {width limit}

theorem of_linearOrder {β : Type} [LinearOrder β] [Length β] (hle : ∀ x y : β, Length.atMost x y = decide (x ≤ y))
    (hlt : ∀ x y : β, Length.below x y = decide (x < y)) (width : List Char → β) (limit : β) :
    Comparable width limit := by
  intro t
  rw [hle, hlt, ← decide_not, decide_eq_decide, not_lt]

theorem of_numbers {width : List Char → Float} {limit : Float} (hwidth : ∀ t, (width t).isNaN = false)
    (hlimit : limit.isNaN = false) : Comparable width limit := fun t =>
  (decide_eq_decide.2 (Binary64.le_iff_not_lt (hwidth t) hlimit)).trans (decide_not (p := limit < width t))

theorem atMost_of_mayFit (h : Comparable width limit) {t : List Char} (ht : MayFit width limit t) :
    Length.atMost (width t) limit = true := by
  rcases ht with hle | hlt
  · exact hle
  · rw [h t, hlt, Bool.not_false]

theorem below_of_mayExceed (h : Comparable width limit) {t : List Char} (ht : MayExceed width limit t) :
    Length.below limit (width t) = true := by
  rcases ht with hle | hlt
  · rw [h t] at hle
    simpa using hle
  · exact hlt

end Comparable

/-- **Lines are broken greedily**, whatever texts are measured by: each line fits, is empty or a single character, and
none of them could have gone on -/
theorem wrapLines_greedy (width : List Char → α) (limit : α) (hcompare : Comparable width limit)
    (lines : List (List Char)) :
    (∀ line ∈ Id.run (wrapLines width limit lines),
        line = [] ∨ Length.atMost (width line) limit = true ∨ line.length = 1) ∧
      ∃ groups, Id.run (wrapLines width limit lines) = groups.flatten ∧
        List.Forall₂ (Wrapped (Greedy (fun t => Length.atMost (width t) limit = true)
          fun t => Length.below limit (width t) = true)) lines groups := by
  obtain ⟨groups, hgroups, hwrapped⟩ := wrapLines_wrapped width limit lines
  have hgreedy := hwrapped.imp fun _ _ h => h.mono fun _ _ _ hline =>
    hline.mono (fun _ => hcompare.atMost_of_mayFit) fun _ => hcompare.below_of_mayExceed
  refine ⟨?_, groups, hgroups, hgreedy⟩
  rw [hgroups]
  refine forall_mem_groups (hgreedy.imp fun _ _ h => h.forall_mem (.inl rfl) fun line _ _ hline => ?_)
  exact .inr hline.fits.symm

/-- characters counted, four to a line: a break between words, one within a word, and one behind the rest of a word -/
theorem wrapLines_greedy_sample :
    Comparable (fun t => (t.length : ℚ)) 4 ∧
      ∃ groups, ["ab".toList, "cdef".toList, "ghi".toList, "j".toList] = groups.flatten ∧
        List.Forall₂ (Wrapped (Greedy (fun t => Length.atMost (t.length : ℚ) 4 = true)
          fun t => Length.below 4 (t.length : ℚ) = true)) ["ab cdefghi j".toList] groups := by
  have hcompare : Comparable (fun t => (t.length : ℚ)) 4 := .of_linearOrder (fun _ _ => rfl) (fun _ _ => rfl) _ _
  have hlines : Id.run (wrapLines (fun t => (t.length : ℚ)) 4 ["ab cdefghi j".toList]) =
      ["ab".toList, "cdef".toList, "ghi".toList, "j".toList] := by decide +kernel
  refine ⟨hcompare, ?_⟩
  rw [← hlines]
  exact (wrapLines_greedy _ 4 hcompare _).2

/-! ## What is kept -/

/-- **No text is lost**: what a line of the text is broken into holds the characters of this line, but for blanks, and
those of no other line -/
theorem wrapLines_solid (width : List Char → α) (limit : α) (lines : List (List Char)) :
    (Id.run (wrapLines width limit lines)).flatten.filter (· ≠ ' ') = lines.flatten.filter (· ≠ ' ') ∧
      ∃ groups, Id.run (wrapLines width limit lines) = groups.flatten ∧
        List.Forall₂ (fun line group => group.flatten.filter (· ≠ ' ') = line.filter (· ≠ ' ')) lines groups := by
  obtain ⟨groups, hgroups, hwrapped⟩ := wrapLines_wrapped width limit lines
  have hsolid := hwrapped.imp fun _ _ h => h.flatten_solid
  exact ⟨hgroups ▸ flatten_solid_of_groups hsolid, groups, hgroups, hsolid⟩

/-- **Every line of the text leaves a line**, but for one that is of blanks alone -/
theorem wrap_keeps_lines (width : List Char → α) (limit : α) :
    (∀ lines, ∃ groups, Id.run (wrapLines width limit lines) = groups.flatten ∧
        List.Forall₂ (fun line group => group = [] ↔ line ≠ [] ∧ Blank line) lines groups) ∧
      ∀ text, (linesFrom [] text).countP (fun line => line = [] ∨ ¬ Blank line) ≤
        (Id.run (wrap width limit text)).length := by
  have hgroups : ∀ lines, ∃ groups, Id.run (wrapLines width limit lines) = groups.flatten ∧
      List.Forall₂ (fun line group => group = [] ↔ line ≠ [] ∧ Blank line) lines groups := fun lines => by
    obtain ⟨groups, hgroups, hwrapped⟩ := wrapLines_wrapped width limit lines
    exact ⟨groups, hgroups, hwrapped.imp fun _ _ h => h.eq_nil_iff⟩
  refine ⟨hgroups, fun text => ?_⟩
  unfold wrap
  dsimp only
  split
  · next hempty =>
    rw [List.isEmpty_iff.1 hempty]
    exact Nat.zero_le _
  · obtain ⟨groups, hlines, hnil⟩ := hgroups (linesFrom [] text)
    rw [hlines]
    refine countP_le_of_groups (hnil.imp fun line group h hkeeps hgone => ?_)
    exact (of_decide_eq_true hkeeps).elim (h.1 hgone).1 fun hsolid => hsolid (h.1 hgone).2

/-- the line between two paragraphs, here a single blank, leaves no line -/
theorem blank_line_lost :
    (0 : ℚ) < 100 ∧ Id.run (wrapLines (fun t => (t.length : ℚ)) 100 [[' ']]) = [] ∧
      ¬ (linesFrom [] "one\n \ntwo".toList).length ≤
        (Id.run (wrap (fun t => (t.length : ℚ)) 100 "one\n \ntwo".toList)).length := by
  decide +kernel

end ReportPress.Text
