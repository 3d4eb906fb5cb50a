import Mathlib.Data.List.Infix
import Mathlib.Tactic.GCongr
import Mathlib.Tactic.Positivity
import ReportPress.Font.BuiltIn
import ReportPress.Proofs.Record.Path
import ReportPress.Proofs.Text.Wrap
/-!
Lines that are broken again. What comes out of breaking lines stays as it is when it is broken to the same width once
more, as long as texts do not get narrower by what is put behind them. A line comes out either because it was seen to
fit, and then so do all its beginnings; or as a piece of a word, and then none of its beginnings was seen to be too
wide.

- `Growing`: widths that do not decrease; `Growing.of_preorder`, `Growing.of_doubles`: as they are compared.
- `Piece`: a word that is not broken. `piece_breakWord`: all pieces of a word are; `breakWord_piece`: such a word stays.
- `Stands`: a line that stays. `Firm`: a wrapping with nothing but such lines; `firm_placeWord`: one word more, and
  `firm_words`: by induction, all words.
- `wrapLine_stands`: what comes out stands. `wrapLine_of_stands`: what stands stays.
- `wrapLines_idempotent`: any lines.
-/

namespace ReportPress.Text

variable {α : Type} [Length α]

/-! ## Widths that do not decrease -/

/-- texts do not get narrower by what is put behind them, and widths can be compared through a third one -/
structure Growing (width : List Char → α) : Prop where
  append : ∀ text more, Length.atMost (width text) (width (text ++ more)) = true
  chain : ∀ x y z : α, Length.atMost x y = true → Length.atMost y z = true → Length.atMost x z = true

namespace Growing

theorem of_preorder {β : Type} [Preorder β] [Length β] (hle : ∀ x y : β, Length.atMost x y = true ↔ x ≤ y)
    {width : List Char → β} (hwidth : ∀ text more, width text ≤ width (text ++ more)) : Growing width where
  append text more := (hle _ _).2 (hwidth text more)
  chain x y z hxy hyz := (hle x z).2 (((hle x y).1 hxy).trans ((hle y z).1 hyz))

theorem of_doubles {width : List Char → Float} (hwidth : ∀ text more, width text ≤ width (text ++ more)) :
    Growing width where
  append text more := decide_eq_true (hwidth text more)
  chain _ _ _ hxy hyz := decide_eq_true (Binary64.le_trans (of_decide_eq_true hxy) (of_decide_eq_true hyz))

/-- the beginnings of a text that fits do so as well -/
theorem fits_prefix {width : List Char → α} (h : Growing width) {limit : α} {part line : List Char}
    (hpart : part <+: line) (hline : Length.atMost (width line) limit = true) :
    Length.atMost (width part) limit = true := by
  obtain ⟨more, rfl⟩ := hpart
  exact h.chain _ _ _ (h.append part more) hline

end Growing

/-! ## Words that are not broken -/

variable (width : List Char → α) (limit : α)

/-- no beginning of more than one character is seen to be too wide -/
def Whole (word : List Char) : Prop :=
  ∀ part, part <+: word → 1 < part.length → Length.below limit (width part) = false

/-- a word that is not broken, whether it fits or not -/
structure Piece (word : List Char) : Prop where
  ne : word ≠ []
  solid : ' ' ∉ word
  whole : Whole width limit word

variable {width limit}

theorem whole_single (c : Char) : Whole width limit [c] := by
  intro part hpart hlong
  exact absurd hpart.length_le (Nat.not_le.2 hlong)

theorem Whole.concat {word : List Char} {c : Char} (h : Whole width limit word)
    (hnext : Length.below limit (width (word ++ [c])) = false) : Whole width limit (word ++ [c]) := by
  intro part hpart hlong
  rcases List.prefix_concat_iff.1 hpart with rfl | hshorter
  · exact hnext
  · exact h part hshorter hlong

/-- **The pieces of a word** are not broken -/
theorem piece_breakWord (chunk word : List Char) (hchunk : chunk ≠ []) (hwhole : Whole width limit chunk)
    (hword : ' ' ∉ chunk ++ word) : ∀ part ∈ Id.run (breakWord width limit chunk word), Piece width limit part := by
  induction word generalizing chunk with
  | nil =>
    rw [List.append_nil] at hword
    obtain ⟨c, others, rfl⟩ := List.exists_cons_of_ne_nil hchunk
    exact List.forall_mem_singleton.2 ⟨hchunk, hword, hwhole⟩
  | cons c rest ih =>
    rw [breakWord_cons width limit hchunk]
    split
    · rw [List.mem_append, not_or] at hword
      exact List.forall_mem_cons.2
        ⟨⟨hchunk, hword.1, hwhole⟩, ih [c] (List.cons_ne_nil c []) (whole_single c) hword.2⟩
    · next hbelow =>
      rw [List.append_cons] at hword
      exact ih (chunk ++ [c]) (List.concat_ne_nil c chunk) (hwhole.concat (Bool.eq_false_iff.2 hbelow)) hword

/-- a word that is not broken comes out as it is, however much of it has been gone through -/
theorem breakWord_whole (chunk word : List Char) (hchunk : chunk ≠ []) (hwhole : Whole width limit (chunk ++ word)) :
    breakWord (m := Id) width limit chunk word = [chunk ++ word] := by
  induction word generalizing chunk with
  | nil =>
    obtain ⟨c, others, rfl⟩ := List.exists_cons_of_ne_nil hchunk
    rw [List.append_nil]
    rfl
  | cons c rest ih =>
    rw [List.append_cons] at hwhole ⊢
    have hlong : 1 < (chunk ++ [c]).length := by
      rw [List.length_append, List.length_singleton]
      exact Nat.lt_add_of_pos_left (List.length_pos_iff.2 hchunk)
    have hfits := hwhole (chunk ++ [c]) (List.prefix_append _ rest) hlong
    rw [breakWord_cons width limit hchunk, hfits, if_neg Bool.false_ne_true]
    exact ih (chunk ++ [c]) (List.concat_ne_nil c chunk) hwhole

theorem breakWord_piece {word : List Char} (h : Piece width limit word) :
    breakWord (m := Id) width limit [] word = [word] := by
  obtain ⟨c, rest, rfl⟩ := List.exists_cons_of_ne_nil h.ne
  rw [breakWord_nil_cons]
  exact breakWord_whole [c] rest (List.cons_ne_nil c []) h.whole

/-! ## Lines that stay -/

variable (width limit)

/-- a line that stays as it is: it begins with no blank and fits, or is a word that is not broken -/
inductive Stands : List Char → Prop
  | fits {c : Char} {others : List Char} (hc : c ≠ ' ') (hfits : Length.atMost (width (c :: others)) limit = true) :
      Stands (c :: others)
  | piece {word : List Char} (h : Piece width limit word) : Stands word

/-- finished lines that stay as they are, and a line at hand that would, if there is one -/
structure Firm (w : Wrapping) : Prop where
  lines : ∀ line ∈ w.lines, Stands width limit line
  current : w.current ≠ [] → Stands width limit w.current

variable {width limit}

theorem Stands.start {line : List Char} (h : Stands width limit line) : ∃ c others, line = c :: others ∧ c ≠ ' ' := by
  cases h with
  | fits hc => exact ⟨_, _, rfl, hc⟩
  | piece h =>
    obtain ⟨c, others, rfl⟩ := List.exists_cons_of_ne_nil h.ne
    exact ⟨c, others, rfl, ne_blank_of_not_mem h.solid⟩

theorem Firm.finish {w : Wrapping} (h : Firm width limit w) : Firm width limit w.finish := by
  unfold Wrapping.finish
  split
  · exact h
  · next hcurrent =>
    have hline := h.current (mt List.isEmpty_iff.2 hcurrent)
    exact ⟨List.forall_mem_append.2 ⟨h.lines, List.forall_mem_singleton.2 hline⟩, fun hne => absurd rfl hne⟩

/-- with no line at hand the next word begins one, or several if it is too wide -/
theorem firm_placeWord_fresh {lines : List (List Char)} {word : List Char}
    (hlines : ∀ line ∈ lines, Stands width limit line) (hword : ' ' ∉ word) :
    Firm width limit (placeWord (m := Id) width limit ⟨lines, []⟩ word) := by
  rw [placeWord_fresh]
  split
  · next hfits =>
    refine ⟨hlines, fun hne => ?_⟩
    obtain ⟨c, others, rfl⟩ := List.exists_cons_of_ne_nil hne
    exact .fits (ne_blank_of_not_mem hword) hfits
  · have hparts : ∀ part ∈ Id.run (breakWord width limit [] word), Stands width limit part := by
      cases word with
      | nil => exact List.forall_mem_nil _
      | cons c rest =>
        exact fun part hpart =>
          .piece (piece_breakWord [c] rest (List.cons_ne_nil c []) (whole_single c) hword part hpart)
    refine ⟨List.forall_mem_append.2 ⟨hlines, fun part hpart => hparts part (List.mem_of_mem_dropLast hpart)⟩, ?_⟩
    cases hlast : (breakWord (m := Id) width limit [] word).getLast? with
    | none => exact fun hne => absurd rfl hne
    | some part => exact fun _ => hparts part (List.mem_of_getLast? hlast)

/-- **One word more** -/
theorem firm_placeWord {w : Wrapping} {word : List Char} (hw : Firm width limit w) (hword : ' ' ∉ word) :
    Firm width limit (placeWord (m := Id) width limit w word) := by
  obtain ⟨lines, current⟩ := w
  by_cases hcurrent : current = []
  · subst hcurrent
    exact firm_placeWord_fresh hw.lines hword
  · have hline := hw.current hcurrent
    rw [placeWord_open width limit lines hcurrent]
    split
    · next hfits =>
      obtain ⟨c, others, rfl, hc⟩ := hline.start
      exact ⟨hw.lines, fun _ => .fits hc hfits⟩
    · exact firm_placeWord_fresh (List.forall_mem_append.2 ⟨hw.lines, List.forall_mem_singleton.2 hline⟩) hword

theorem firm_words (words : List (List Char)) (hwords : ∀ word ∈ words, ' ' ∉ word) {w : Wrapping}
    (hw : Firm width limit w) : Firm width limit (Id.run (words.foldlM (placeWord width limit) w)) := by
  induction words generalizing w with
  | nil => exact hw
  | cons word rest ih =>
    obtain ⟨hword, hrest⟩ := List.forall_mem_cons.1 hwords
    exact ih hrest (firm_placeWord hw hword)

/-- **What comes out stands**, but for empty lines -/
theorem wrapLine_stands (line : List Char) :
    ∀ l ∈ Id.run (wrapLine width limit line), l = [] ∨ Stands width limit l := by
  unfold wrapLine
  split
  · exact List.forall_mem_singleton.2 (.inl rfl)
  · have hstart : Firm width limit ⟨[], []⟩ := ⟨List.forall_mem_nil _, fun hne => absurd rfl hne⟩
    exact fun l hl => .inr ((firm_words _ (not_mem_of_mem_split line) hstart).finish.lines l hl)

/-! ## Breaking them again -/

/-- words that fit onto the line at hand all together are put there one by one -/
theorem words_fit (hgrowing : Growing width) (words : List (List Char)) {current : List Char} (hcurrent : current ≠ [])
    (hfits : Length.atMost (width (current ++ spaced words)) limit = true) :
    Id.run (words.foldlM (placeWord width limit) ⟨[], current⟩) = ⟨[], current ++ spaced words⟩ := by
  induction words generalizing current with
  | nil => exact congrArg (Wrapping.mk []) (List.append_nil current).symm
  | cons word rest ih =>
    have hcut : current ++ spaced (word :: rest) = current ++ ' ' :: word ++ spaced rest := by
      rw [spaced_cons, List.append_assoc, List.cons_append]
    rw [hcut] at hfits ⊢
    have hword := hgrowing.fits_prefix (List.prefix_append (current ++ ' ' :: word) (spaced rest)) hfits
    have hplaced : placeWord (m := Id) width limit ⟨[], current⟩ word = ⟨[], current ++ ' ' :: word⟩ := by
      rw [placeWord_open width limit [] hcurrent, if_pos hword]
    show Id.run (rest.foldlM (placeWord width limit) (placeWord (m := Id) width limit ⟨[], current⟩ word)) = _
    rw [hplaced]
    exact ih (List.append_ne_nil_of_right_ne_nil current (List.cons_ne_nil ' ' word)) hfits

/-- a text that is gone through without a line ended is a line -/
theorem wrapLine_of_words {line : List Char} (hline : line ≠ [])
    (h : Id.run ((split ' ' line).foldlM (placeWord width limit) ⟨[], []⟩) = ⟨[], line⟩) :
    wrapLine (m := Id) width limit line = [line] := by
  have hempty : line.isEmpty = false := by simpa using hline
  have hfinish : (Wrapping.mk [] line).finish.lines = [line] := by
    unfold Wrapping.finish
    dsimp only
    rw [hempty]
    rfl
  unfold wrapLine
  rw [hempty, if_neg Bool.false_ne_true]
  exact (congrArg (fun w : Wrapping => w.finish.lines) h).trans hfinish

/-- **What stands stays** -/
theorem wrapLine_of_stands (hgrowing : Growing width) {line : List Char} (h : Stands width limit line) :
    wrapLine (m := Id) width limit line = [line] := by
  cases h with
  | @fits c others hc hfits =>
    refine wrapLine_of_words (List.cons_ne_nil c others) ?_
    obtain ⟨word, words, hsplit⟩ := List.exists_cons_of_ne_nil (split_ne_nil ' ' (c :: others))
    have hwhole := append_spaced_of_split hsplit
    -- the line begins with no blank, so its first word is not empty, and there is a line at hand from then on
    have hword : word ≠ [] := by
      rintro rfl
      rw [List.nil_append] at hwhole
      cases words with
      | nil => cases hwhole
      | cons next rest => exact hc (List.cons.inj hwhole).1.symm
    rw [← hwhole] at hfits
    have hfirst := hgrowing.fits_prefix (List.prefix_append word (spaced words)) hfits
    have hplaced : placeWord (m := Id) width limit ⟨[], []⟩ word = ⟨[], word⟩ := by
      rw [placeWord_fresh, if_pos hfirst]
    rw [hsplit]
    show Id.run (words.foldlM (placeWord width limit) (placeWord (m := Id) width limit ⟨[], []⟩ word)) = _
    rw [hplaced, words_fit hgrowing words hword hfits, hwhole]
  | piece hpiece =>
    refine wrapLine_of_words hpiece.ne ?_
    rw [Record.split_of_notMem hpiece.solid]
    show placeWord (m := Id) width limit ⟨[], []⟩ line = _
    rw [placeWord_fresh, breakWord_piece hpiece]
    split
    · rfl
    · rfl

theorem wrapLines_of_stands (hgrowing : Growing width) {lines : List (List Char)}
    (h : ∀ line ∈ lines, line = [] ∨ Stands width limit line) : Id.run (wrapLines width limit lines) = lines := by
  induction lines with
  | nil => rfl
  | cons line rest ih =>
    obtain ⟨hline, hrest⟩ := List.forall_mem_cons.1 h
    have hhere : Id.run (wrapLine width limit line) = [line] := by
      rcases hline with rfl | hstands
      · rfl
      · exact wrapLine_of_stands hgrowing hstands
    show Id.run (wrapLine width limit line) ++ Id.run (wrapLines width limit rest) = _
    rw [hhere, ih hrest]
    rfl

theorem wrapLines_stand (lines : List (List Char)) :
    ∀ l ∈ Id.run (wrapLines width limit lines), l = [] ∨ Stands width limit l := by
  induction lines with
  | nil => exact List.forall_mem_nil _
  | cons line rest ih => exact List.forall_mem_append.2 ⟨wrapLine_stands line, ih⟩

/-- **Breaking lines twice is breaking them once**, for any width, as long as texts do not get narrower by what is put
behind them -/
theorem wrapLines_idempotent (width : List Char → α) (hgrowing : Growing width) (limit : α) (lines : List (List Char)) :
    Id.run (wrapLines width limit (Id.run (wrapLines width limit lines))) = Id.run (wrapLines width limit lines) :=
  wrapLines_of_stands hgrowing (wrapLines_stand lines)

/-- exact widths in millimetres, of text of ten points in the first of the built-in families -/
def tenPointWidth (text : List Char) : ℚ := ((text.map fun c => Font.helvetica.getD c.toNat 0).sum : ℕ) * (127 / 36000)

theorem growing_tenPointWidth : Growing tenPointWidth := by
  refine .of_preorder (fun x y => decide_eq_true_iff) fun text more => ?_
  unfold tenPointWidth
  rw [List.map_append, List.sum_append]
  gcongr
  exact Nat.le_add_right _ _

/-- a letter that is too wide for a line, two blanks between words, a word that is broken, and a blank at the end -/
theorem wrapLines_idempotent_sample :
    Growing tenPointWidth ∧
      Id.run (wrapLines tenPointWidth 3 ["W i l  ab ".toList]) = ["W".toList, "i l".toList, "a".toList, "b ".toList] ∧
      Id.run (wrapLines tenPointWidth 3 ["W".toList, "i l".toList, "a".toList, "b ".toList]) =
        ["W".toList, "i l".toList, "a".toList, "b ".toList] := by
  have hlines : Id.run (wrapLines tenPointWidth 3 ["W i l  ab ".toList]) =
      ["W".toList, "i l".toList, "a".toList, "b ".toList] := by decide +kernel
  refine ⟨growing_tenPointWidth, hlines, ?_⟩
  rw [← hlines]
  exact wrapLines_idempotent tenPointWidth growing_tenPointWidth 3 _

end ReportPress.Text
