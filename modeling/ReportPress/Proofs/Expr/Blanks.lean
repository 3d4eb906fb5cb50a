import Mathlib.Data.List.DropRight
import Mathlib.Data.List.Find
import ReportPress.Expr.Parser
/-!
Blanks around an expression. No token outside a string holds a blank, and a string ends with its quote; so the
recognisers of tokens find in a text with blanks behind it what they find without the blanks, and leave the blanks.
Hence a text and the text without the blanks at its ends have the same tokens, and are the same expression.

- `isApart_of_isBlank`: what a blank is not.
- `at?_append_blanks`: the recogniser of tokens and blanks behind a text.
- `Scans`: how a text falls into tokens, without the places that faults are reported at. `scanFrom_eq_ok`.
- `parse_trim`: an expression without the blanks around it.
-/

namespace ReportPress.Expr

open Text

/-! ## Blanks are apart from tokens -/

/-- the characters that a token outside a string may start with or go on with, names and digits aside -/
def marks : List Char := ['"', '\'', '.', '-', '=', '!', '?', ':']

/-- the character belongs to no token, unless inside a string -/
def isApart (c : Char) : Bool :=
  !(Token.isNameStart c || Token.isNamePart c || Text.isDigit c || marks.contains c)

/-- the code points of the blanks -/
def blankCodes : List ℕ := blanks.ranges.flatMap fun r => List.range' r.1 (r.2 + 1 - r.1)

theorem isApart_of_isBlank {c : Char} (h : isBlank c = true) : isApart c = true := by
  have hall : ∀ n ∈ blankCodes, isApart (Char.ofNat n) = true := by decide +kernel
  obtain ⟨r, hr, hlo, hhi⟩ := (CharSet.contains_iff _ _).1 h
  have hcode : c.toNat ∈ blankCodes := by
    refine List.mem_flatMap.2 ⟨r, hr, List.mem_range'_1.2 ⟨hlo, ?_⟩⟩
    omega
  have hc := hall c.toNat hcode
  rwa [Char.ofNat_toNat] at hc

/-- a run of blanks -/
def Blank (b : List Char) : Prop := ∀ c ∈ b, isBlank c = true

namespace Blank

variable {b : List Char}

theorem isNamePart (hb : Blank b) : ∀ c ∈ b, Token.isNamePart c = false := by
  intro c hc
  have := isApart_of_isBlank (hb c hc)
  simp only [isApart, Bool.not_eq_true', Bool.or_eq_false_iff] at this
  exact this.1.1.2

theorem isNameStart (hb : Blank b) : ∀ c ∈ b, Token.isNameStart c = false := by
  intro c hc
  have := isApart_of_isBlank (hb c hc)
  simp only [isApart, Bool.not_eq_true', Bool.or_eq_false_iff] at this
  exact this.1.1.1

theorem isDigit (hb : Blank b) : ∀ c ∈ b, Text.isDigit c = false := by
  intro c hc
  have := isApart_of_isBlank (hb c hc)
  simp only [isApart, Bool.not_eq_true', Bool.or_eq_false_iff] at this
  exact this.1.2

theorem not_mem (hb : Blank b) {m : Char} (hm : m ∈ marks) : m ∉ b := by
  intro hmem
  have hapart := isApart_of_isBlank (hb m hmem)
  have hnone : marks.all (!isApart ·) = true := by decide +kernel
  have hnot := List.all_eq_true.1 hnone m hm
  rw [hapart] at hnot
  cases hnot

end Blank

/-! ## Tokens before blanks -/

namespace Token

/-- what a recogniser has found, with more text left behind it -/
def leaving {α : Type} (b : List Char) (p : α × List Char) : α × List Char := (p.1, p.2 ++ b)

theorem takeWhile_append_of_none {p : Char → Bool} {b : List Char} (hb : ∀ c ∈ b, p c = false) (cs : List Char) :
    (cs ++ b).takeWhile p = cs.takeWhile p := by
  induction cs with
  | nil =>
    cases b with
    | nil => rfl
    | cons c rest => exact List.takeWhile_cons_of_neg (by rw [hb c List.mem_cons_self]; exact Bool.false_ne_true)
  | cons c rest ih =>
    rw [List.cons_append, List.takeWhile_cons, List.takeWhile_cons, ih]

theorem dropWhile_append_of_none {p : Char → Bool} {b : List Char} (hb : ∀ c ∈ b, p c = false) (cs : List Char) :
    (cs ++ b).dropWhile p = cs.dropWhile p ++ b := by
  have hwhole := List.takeWhile_append_dropWhile (p := p) (l := cs ++ b)
  rw [takeWhile_append_of_none hb] at hwhole
  have hcs := List.takeWhile_append_dropWhile (p := p) (l := cs)
  refine (List.append_right_inj (cs.takeWhile p)).1 ?_
  rw [hwhole, ← List.append_assoc, hcs]

/-- a text without the quote does not end a string -/
theorem stringEnd?_of_not_mem {q : Char} {cs : List Char} (h : q ∉ cs) : stringEnd? q cs = none := by
  fun_induction stringEnd? q cs with
  | case1 => rfl
  | case2 rest => rfl
  | case3 c rest hc ih =>
    rw [ih fun hmem => h (List.mem_cons_of_mem _ (List.mem_cons_of_mem _ hmem))]
    rfl
  | case4 => rfl
  | case5 rest => exact absurd List.mem_cons_self h
  | case6 c rest _ _ hc ih =>
    rw [ih fun hmem => h (List.mem_cons_of_mem _ hmem)]
    rfl

variable {b : List Char}

/-- a character that is no backslash closes the string or is part of it -/
theorem stringEnd?_cons {q c : Char} (hc : c ≠ '\\') (rest : List Char) :
    stringEnd? q (c :: rest) =
      if c = q then some ([c], rest) else (stringEnd? q rest).map fun p => (c :: p.1, p.2) := by
  simp [stringEnd?, hc]

theorem stringEnd?_append_blanks {q : Char} (hq : q ∉ b) (cs : List Char) :
    stringEnd? q (cs ++ b) = (stringEnd? q cs).map (leaving b) := by
  fun_induction stringEnd? q cs with
  | case1 => exact stringEnd?_of_not_mem hq
  | case2 rest => simp [stringEnd?]
  | case3 c rest hc ih =>
    simp only [List.cons_append, stringEnd?, if_neg hc, ih, Option.map_map]
    rfl
  | case4 =>
    cases b with
    | nil => rfl
    | cons c rest =>
      have hrest := stringEnd?_of_not_mem fun hmem => hq (List.mem_cons_of_mem c hmem)
      simp [stringEnd?, hrest]
  | case5 rest hescape hlone =>
    have hplain : q ≠ '\\' := by
      rintro rfl
      cases rest with
      | nil => exact hlone rfl rfl
      | cons c rest => exact hescape c rest rfl rfl
    rw [List.cons_append, stringEnd?_cons hplain, if_pos rfl]
    rfl
  | case6 c rest hescape hlone hc ih =>
    have hplain : c ≠ '\\' := by
      rintro rfl
      cases rest with
      | nil => exact hlone rfl rfl
      | cons c rest => exact hescape c rest rfl rfl
    rw [List.cons_append, stringEnd?_cons hplain, if_neg hc, ih, Option.map_map, Option.map_map]
    rfl

theorem string?_append_blanks (hb : Blank b) (cs : List Char) :
    string? (cs ++ b) = (string? cs).map (leaving b) := by
  cases cs with
  | nil =>
    cases b with
    | nil => rfl
    | cons c rest =>
      have hd : c ≠ '"' := fun h => hb.not_mem (by decide : '"' ∈ marks) (h ▸ List.mem_cons_self)
      have hs : c ≠ '\'' := fun h => hb.not_mem (by decide : '\'' ∈ marks) (h ▸ List.mem_cons_self)
      exact if_neg (not_or.2 ⟨hd, hs⟩)
  | cons c rest =>
    rw [List.cons_append, string?, string?]
    by_cases hc : c = '"' ∨ c = '\''
    · have hmark : c ∈ marks := by rcases hc with rfl | rfl <;> decide
      rw [if_pos hc, if_pos hc, stringEnd?_append_blanks (hb.not_mem hmark), Option.map_map, Option.map_map]
      rfl
    · rw [if_neg hc, if_neg hc]
      rfl

/-- what does not start with a point has no fraction -/
theorem fraction_of_head {cs : List Char} (h : cs.head? ≠ some '.') : fraction cs = ([], cs) := by
  unfold fraction
  split
  · exact absurd rfl h
  · rfl

theorem head?_ne_of_blank (hb : Blank b) {m : Char} (hm : m ∈ marks) : b.head? ≠ some m :=
  fun h => hb.not_mem hm (List.mem_of_head? h)

theorem fraction_append_blanks (hb : Blank b) (cs : List Char) :
    fraction (cs ++ b) = leaving b (fraction cs) := by
  rcases cs with _ | ⟨c, rest⟩
  · exact fraction_of_head (head?_ne_of_blank hb (by decide))
  · by_cases hc : c = '.'
    · subst hc
      rw [List.cons_append, fraction, fraction, takeWhile_append_of_none hb.isDigit,
        dropWhile_append_of_none hb.isDigit]
      split <;> rfl
    · have hhead : ∀ more, (c :: more).head? ≠ some '.' := fun more => by simpa using hc
      rw [fraction_of_head (hhead rest), List.cons_append, fraction_of_head (hhead (rest ++ b))]
      rfl

theorem unsigned?_append_blanks (hb : Blank b) (cs : List Char) :
    unsigned? (cs ++ b) = (unsigned? cs).map (leaving b) := by
  unfold unsigned?
  rw [takeWhile_append_of_none hb.isDigit, dropWhile_append_of_none hb.isDigit]
  dsimp only
  rw [fraction_append_blanks hb]
  split <;> rfl

/-- what does not start with a minus is a number if it is one without a sign -/
theorem number?_of_head {cs : List Char} (h : cs.head? ≠ some '-') : number? cs = unsigned? cs := by
  unfold number?
  split
  · exact absurd rfl h
  · rfl

theorem number?_append_blanks (hb : Blank b) (cs : List Char) :
    number? (cs ++ b) = (number? cs).map (leaving b) := by
  rcases cs with _ | ⟨c, rest⟩
  · rw [List.nil_append, number?_of_head (head?_ne_of_blank hb (by decide))]
    exact unsigned?_append_blanks hb []
  · by_cases hc : c = '-'
    · subst hc
      rw [List.cons_append, number?, number?, unsigned?_append_blanks hb, Option.map_map, Option.map_map]
      rfl
    · have hhead : ∀ more, (c :: more).head? ≠ some '-' := fun more => by simpa using hc
      rw [number?_of_head (hhead rest), List.cons_append, number?_of_head (hhead (rest ++ b))]
      exact unsigned?_append_blanks hb (c :: rest)

theorem isPrefixOf_append_of_not_mem {op : List Char} (h : ∀ c ∈ op, c ∉ b) (cs : List Char) :
    op.isPrefixOf (cs ++ b) = op.isPrefixOf cs := by
  induction op generalizing cs with
  | nil => rfl
  | cons o rest ih =>
    cases cs with
    | cons c cs =>
      rw [List.cons_append, List.isPrefixOf_cons_cons, List.isPrefixOf_cons_cons,
        ih (fun x hx => h x (List.mem_cons_of_mem o hx))]
    | nil =>
      cases b with
      | nil => rfl
      | cons c b =>
        have hne : (o == c) = false :=
          beq_eq_false_iff_ne.2 fun heq => h o List.mem_cons_self (heq ▸ List.mem_cons_self)
        rw [List.nil_append, List.isPrefixOf_cons_cons, hne]
        rfl

theorem operator?_append_blanks (hb : Blank b) (cs : List Char) :
    operator? (cs ++ b) = (operator? cs).map (leaving b) := by
  have hmarks : operators.all (·.all marks.contains) = true := by decide
  have hmark : ∀ op ∈ operators, ∀ c ∈ op, c ∈ marks := fun op hop c hc =>
    List.contains_iff_mem.1 (List.all_eq_true.1 (List.all_eq_true.1 hmarks op hop) c hc)
  have hfind : operators.find? (·.isPrefixOf (cs ++ b)) = operators.find? (·.isPrefixOf cs) :=
    List.find?_congr fun op hop => isPrefixOf_append_of_not_mem (fun c hc => hb.not_mem (hmark op hop c hc)) cs
  unfold operator?
  rw [hfind]
  cases hop : operators.find? (·.isPrefixOf cs) with
  | none => rfl
  | some op =>
    have hfound := List.find?_some hop
    have hprefix : op <+: cs := List.isPrefixOf_iff_prefix.1 hfound
    simp only [Option.map_some, leaving, List.drop_append_of_le_length hprefix.length_le]

/-- what does not start with a point goes on with no further part of a name -/
theorem nameTail_of_head {cs : List Char} (h : cs.head? ≠ some '.') (fuel : ℕ) : nameTail fuel cs = ([], cs) := by
  cases fuel with
  | zero => rfl
  | succ n =>
    unfold nameTail
    split
    · exact absurd rfl h
    · rfl

/-- the bound on the number of parts does not matter if it is no less than the length of the text -/
theorem nameTail_append_blanks (hb : Blank b) (n m : ℕ) (cs : List Char) (hn : cs.length ≤ n) (hm : cs.length ≤ m) :
    nameTail m (cs ++ b) = leaving b (nameTail n cs) := by
  induction n generalizing m cs with
  | zero =>
    obtain rfl := List.length_eq_zero_iff.1 (Nat.le_zero.1 hn)
    exact nameTail_of_head (head?_ne_of_blank hb (by decide)) m
  | succ n ih =>
    rcases cs with _ | ⟨c, rest⟩
    · exact nameTail_of_head (head?_ne_of_blank hb (by decide)) m
    · by_cases hc : c = '.'
      · subst hc
        obtain ⟨m, rfl⟩ := Nat.exists_eq_succ_of_ne_zero (Nat.ne_of_gt (Nat.lt_of_lt_of_le (Nat.succ_pos _) hm))
        have hshort : (rest.dropWhile isNamePart).length ≤ rest.length := List.length_dropWhile_le ..
        have htail := ih m (rest.dropWhile isNamePart) (hshort.trans (Nat.le_of_succ_le_succ hn))
          (hshort.trans (Nat.le_of_succ_le_succ hm))
        rw [List.cons_append, nameTail, nameTail, takeWhile_append_of_none hb.isNamePart,
          dropWhile_append_of_none hb.isNamePart, htail]
        dsimp only
        split <;> rfl
      · have hhead : ∀ more, (c :: more).head? ≠ some '.' := fun more => by simpa using hc
        rw [nameTail_of_head (hhead rest), List.cons_append, nameTail_of_head (hhead (rest ++ b))]
        rfl

theorem name?_append_blanks (hb : Blank b) (cs : List Char) :
    name? (cs ++ b) = (name? cs).map (leaving b) := by
  cases cs with
  | nil =>
    cases b with
    | nil => rfl
    | cons c rest =>
      refine if_neg ?_
      rw [hb.isNameStart c List.mem_cons_self]
      exact Bool.false_ne_true
  | cons c rest =>
    have hshort : (rest.dropWhile isNamePart).length ≤ rest.length := List.length_dropWhile_le ..
    have hlonger : rest.length ≤ (rest ++ b).length := by simp
    have htail := nameTail_append_blanks hb rest.length (rest ++ b).length (rest.dropWhile isNamePart) hshort
      (hshort.trans hlonger)
    rw [List.cons_append, name?, name?, takeWhile_append_of_none hb.isNamePart,
      dropWhile_append_of_none hb.isNamePart, htail]
    split <;> rfl

/-- **Blanks behind a text** are left behind with what the first token leaves. -/
theorem at?_append_blanks (hb : Blank b) (cs : List Char) : at? (cs ++ b) = (at? cs).map (leaving b) := by
  unfold at?
  rw [string?_append_blanks hb, number?_append_blanks hb, operator?_append_blanks hb, name?_append_blanks hb]
  rcases string? cs with _ | ⟨t, rest⟩
  · rcases number? cs with _ | ⟨t, rest⟩
    · rcases operator? cs with _ | ⟨t, rest⟩
      · rcases name? cs with _ | ⟨t, rest⟩ <;> rfl
      · rfl
    · rfl
  · rfl

theorem trimStart_append {cs : List Char} (h : ¬ Blank cs) : trimStart (cs ++ b) = trimStart cs ++ b := by
  have hsome : cs.dropWhile isBlank ≠ [] := fun hnil => h (List.dropWhile_eq_nil_iff.1 hnil)
  unfold trimStart
  rw [List.dropWhile_append, if_neg (by simpa using hsome)]

theorem trimStart_of_blank {cs : List Char} (h : Blank cs) : trimStart cs = [] := List.dropWhile_eq_nil_iff.2 h

theorem not_blank_of_next? {cs : List Char} {p : Token × List Char} (h : next? cs = some p) : ¬ Blank cs := by
  intro hblank
  have hnone : at? [] = none := by decide
  rw [next?, trimStart_of_blank hblank, hnone] at h
  cases h

/-! ## Tokens of a text -/

/-- the text falls into these tokens, with blanks before, between and behind them -/
inductive Scans : List Char → List Token → Prop
  | done {cs : List Char} (h : Blank cs) : Scans cs []
  | more {cs rest : List Char} {t : Token} {ts : List Token} (h : next? cs = some (t, rest)) (hrest : Scans rest ts) :
      Scans cs (t :: ts)

/-- the place that a text is said to start at matters to faults only -/
theorem scanFrom_eq_ok {offset : ℕ} {cs : List Char} {ts : List Token} :
    scanFrom offset cs = .ok ts ↔ Scans cs ts := by
  fun_induction scanFrom offset cs generalizing ts with
  | case1 offset cs hblank =>
    have hblank : Blank cs := List.all_eq_true.1 hblank
    constructor
    · rintro ⟨⟩
      exact .done hblank
    · rintro (_ | ⟨h, _⟩)
      · rfl
      · exact absurd hblank (not_blank_of_next? h)
  | case2 offset cs hblank hnone =>
    constructor
    · rintro ⟨⟩
    · rintro (h | ⟨h, _⟩)
      · exact absurd (List.all_eq_true.2 h) hblank
      · rw [hnone] at h
        cases h
  | case3 offset cs hblank t rest hnext hlt ih =>
    constructor
    · intro h
      cases hrest : scanFrom (offset + (cs.length - rest.length)) rest with
      | error f =>
        rw [hrest] at h
        cases h
      | ok ts' =>
        rw [hrest] at h
        cases h
        exact .more hnext (ih.1 hrest)
    · rintro (h | ⟨h, hrest⟩)
      · exact absurd (List.all_eq_true.2 h) hblank
      · rw [hnext] at h
        cases h
        rw [ih.2 hrest]
        rfl

theorem Scans.trimStart {cs : List Char} {ts : List Token} (h : Scans cs ts) : Scans (Text.trimStart cs) ts := by
  cases h with
  | done hblank =>
    rw [trimStart_of_blank hblank]
    exact .done (by rintro c ⟨⟩)
  | more hnext hrest =>
    refine .more ?_ hrest
    rw [next?] at hnext ⊢
    rwa [Text.trimStart, Text.trimStart, List.dropWhile_idempotent]

/-- blanks behind a text are not needed -/
theorem Scans.of_append (hb : Blank b) {cs : List Char} {ts : List Token} (h : Scans (cs ++ b) ts) : Scans cs ts := by
  generalize hcs : cs ++ b = whole at h
  induction h generalizing cs with
  | done hblank =>
    subst hcs
    exact .done fun c hc => hblank c (List.mem_append_left b hc)
  | @more whole rest t ts hnext hrest ih =>
    subst hcs
    have hsome : ¬ Blank cs := fun hblank =>
      not_blank_of_next? hnext fun c hc => (List.mem_append.1 hc).elim (hblank c) (hb c)
    rw [next?, trimStart_append hsome, at?_append_blanks hb] at hnext
    obtain ⟨⟨t', rest'⟩, hfound, heq⟩ := Option.map_eq_some_iff.1 hnext
    cases heq
    exact .more hfound (ih rfl)

theorem Scans.trimEnd {cs : List Char} {ts : List Token} (h : Scans cs ts) : Scans (Text.trimEnd cs) ts := by
  have hcut : Text.trimEnd cs ++ (cs.reverse.takeWhile isBlank).reverse = cs := by
    rw [Text.trimEnd, ← List.reverse_append, List.takeWhile_append_dropWhile, List.reverse_reverse]
  refine Scans.of_append (b := (cs.reverse.takeWhile isBlank).reverse) (fun c hc => ?_) (hcut.symm ▸ h)
  exact List.mem_takeWhile_imp (List.mem_reverse.1 hc)

end Token

/-- **Blanks around an expression** make no difference to it. -/
theorem parse_trim {s : String} {e : Expr} (h : parse s = .ok e) : parse (Text.trim s) = .ok e := by
  unfold parse Token.scan at h ⊢
  cases hscan : Token.scanFrom 0 s.toList with
  | error f =>
    rw [hscan] at h
    cases h
  | ok ts =>
    rw [hscan] at h
    have hscans : Token.Scans (Text.trim s).toList ts := by
      rw [Text.trim, String.toList_ofList]
      exact (Token.scanFrom_eq_ok.1 hscan).trimStart.trimEnd
    rw [Token.scanFrom_eq_ok.2 hscans]
    exact h

end ReportPress.Expr
