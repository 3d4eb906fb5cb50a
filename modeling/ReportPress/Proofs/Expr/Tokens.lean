import ReportPress.Proofs.Expr.Blanks
import ReportPress.Proofs.Text.Quoted
/-!
Tokens written down and read back. What a recogniser takes of a text is settled by the first character, which tells the
kind of the token, and by where the token ends; a blank behind a token ends it, since a blank goes on with no token but
an open string. So tokens with blanks between them are read back one for one. The other way round, a text that falls
into tokens is made of their texts and of blanks, as each step takes blanks, a text that is not empty, and leaves the rest.

- `Written`: the tokens there are, with the text of each. `unquote_quote`: a string is what was quoted.
- `at?_written`: the recogniser of tokens finds a written token before a blank, by kind.
- `Row`: the texts of tokens in a row with blanks behind each; `Row True` has blanks between neighbours.
- `scans_row`, `Scans.row`: a row is read as its tokens, and what is read as tokens is a row of them.
- `scan_lossless`: both for the tokens of a text. `scan_lossless_sample`: a condition with strings in either quotes.
-/

namespace ReportPress.Expr.Token

open Text

/-! ## Tokens as they are written -/

/-- one character at least, and all of a kind -/
def Run (p : Char → Bool) (cs : List Char) : Prop := cs ≠ [] ∧ ∀ c ∈ cs, p c = true

instance (p : Char → Bool) (cs : List Char) : Decidable (Run p cs) :=
  decidable_of_iff ((!cs.isEmpty && cs.all p) = true) (by simp [Run])

/-- a text as it stands between quotes, with a backslash before each backslash and each quote -/
def escape (q : Char) (cs : List Char) : List Char :=
  cs.flatMap fun c => if c = '\\' ∨ c = q then ['\\', c] else [c]

def quote (q : Char) (cs : List Char) : List Char := q :: (escape q cs ++ [q])

/-- the tokens there are -/
inductive Written : Token → Prop
  | string {q : Char} (hq : IsQuote q) (content : List Char) : Written ⟨.string, quote q content⟩
  | whole {sign digits : List Char} (hsign : sign = [] ∨ sign = ['-']) (hdigits : Run isDigit digits) :
      Written ⟨.number, sign ++ digits⟩
  | decimal {sign digits decimals : List Char} (hsign : sign = [] ∨ sign = ['-']) (hdigits : Run isDigit digits)
      (hdecimals : Run isDigit decimals) : Written ⟨.number, sign ++ (digits ++ '.' :: decimals)⟩
  | operator {op : List Char} (hop : op ∈ operators) : Written ⟨.operator, op⟩
  | name {c : Char} {more : List Char} {parts : List (List Char)} (hc : isNameStart c = true)
      (hmore : ∀ d ∈ more, isNamePart d = true) (hparts : ∀ p ∈ parts, Run isNamePart p) :
      Written ⟨.name, c :: (more ++ parts.flatMap ('.' :: ·))⟩

/-- there is nothing, or a blank comes first -/
def Parted (cs : List Char) : Prop := ∀ c, cs.head? = some c → isBlank c = true

/-! ## Where runs end -/

theorem takeWhile_run {p : Char → Bool} {cs rest : List Char} (hcs : ∀ c ∈ cs, p c = true)
    (hrest : ∀ c, rest.head? = some c → p c = false) : (cs ++ rest).takeWhile p = cs := by
  rw [List.takeWhile_append_of_pos hcs]
  cases rest with
  | nil => simp
  | cons c rest => simp [hrest c rfl]

theorem dropWhile_run {p : Char → Bool} {cs rest : List Char} (hcs : ∀ c ∈ cs, p c = true)
    (hrest : ∀ c, rest.head? = some c → p c = false) : (cs ++ rest).dropWhile p = rest := by
  rw [List.dropWhile_append_of_pos hcs]
  cases rest with
  | nil => simp
  | cons c rest => simp [hrest c rfl]

namespace Parted

variable {rest : List Char}

theorem of_gap {gap : List Char} (hgap : Blank gap) (hne : gap = [] → rest = []) : Parted (gap ++ rest) := by
  intro c hc
  cases gap with
  | nil => simp [hne rfl] at hc
  | cons g gap =>
    obtain rfl : g = c := by simpa using hc
    exact hgap g List.mem_cons_self

/-- what a blank is not, what comes first is not -/
theorem blank (h : Parted rest) {c : Char} (hc : rest.head? = some c) : Blank [c] := by
  intro d hd
  rw [List.mem_singleton.1 hd]
  exact h c hc

theorem isDigit (h : Parted rest) : ∀ c, rest.head? = some c → Text.isDigit c = false :=
  fun c hc => (h.blank hc).isDigit c (List.mem_singleton_self c)

theorem isNamePart (h : Parted rest) : ∀ c, rest.head? = some c → Token.isNamePart c = false :=
  fun c hc => (h.blank hc).isNamePart c (List.mem_singleton_self c)

theorem head?_ne (h : Parted rest) {m : Char} (hm : m ∈ marks) : rest.head? ≠ some m :=
  fun hc => (h.blank hc).not_mem hm (List.mem_singleton_self m)

end Parted

/-! ## Strings -/

theorem ne_backslash_of_isQuote {q : Char} (hq : IsQuote q) : q ≠ '\\' := by
  rcases hq with rfl | rfl <;> decide

theorem escape_cons (q c : Char) (cs : List Char) :
    escape q (c :: cs) = if c = '\\' ∨ c = q then '\\' :: c :: escape q cs else c :: escape q cs := by
  unfold escape
  rw [List.flatMap_cons]
  split <;> rfl

/-- the first quote without a backslash before it ends a string, and no such quote is inside -/
theorem stringEnd?_escape {q : Char} (hq : IsQuote q) (cs rest : List Char) :
    stringEnd? q (escape q cs ++ q :: rest) = some (escape q cs ++ [q], rest) := by
  have hslash := ne_backslash_of_isQuote hq
  induction cs with
  | nil => simp [escape, stringEnd?_cons hslash]
  | cons c cs ih =>
    rw [escape_cons]
    by_cases hc : c = '\\' ∨ c = q
    · have hline : c ≠ '\n' := by
        rcases hc with rfl | rfl
        · decide
        · rcases hq with rfl | rfl <;> decide
      rw [if_pos hc]
      simp [stringEnd?, hline, ih]
    · obtain ⟨hplain, hother⟩ := not_or.1 hc
      rw [if_neg hc]
      simp [stringEnd?_cons hplain, hother, ih]

theorem unescape_escape {q : Char} (cs : List Char) : unescape (escape q cs) = cs := by
  induction cs with
  | nil => rfl
  | cons c cs ih =>
    rw [escape_cons]
    by_cases hc : c = '\\' ∨ c = q
    · rw [if_pos hc, unescape, ih]
    · have hplain : c ≠ '\\' := (not_or.1 hc).1
      rw [if_neg hc]
      simp [unescape, hplain, ih]

/-- **A quoted string** is what was quoted -/
theorem unquote_quote (q : Char) (cs : List Char) : unquote (quote q cs) = cs := by
  simp [unquote, quote, unescape_escape]

theorem string?_quote {q : Char} (hq : IsQuote q) (cs rest : List Char) :
    string? (quote q cs ++ rest) = some (quote q cs, rest) := by
  have hquote : q = '"' ∨ q = '\'' := hq.symm
  simp [quote, string?, hquote, stringEnd?_escape hq]

/-- what does not start with a quote is no string -/
theorem string?_of_head {cs : List Char} (h : ∀ c, cs.head? = some c → ¬ IsQuote c) : string? cs = none := by
  cases cs with
  | nil => rfl
  | cons c cs => exact if_neg fun hc => h c rfl hc.symm

/-! ## Numbers -/

theorem unsigned?_whole {digits rest : List Char} (hdigits : Run isDigit digits) (hrest : Parted rest) :
    unsigned? (digits ++ rest) = some (digits, rest) := by
  have hnone : fraction rest = ([], rest) := fraction_of_head (hrest.head?_ne (by decide))
  simp [unsigned?, takeWhile_run hdigits.2 hrest.isDigit, dropWhile_run hdigits.2 hrest.isDigit, hdigits.1, hnone]

theorem unsigned?_decimal {digits decimals rest : List Char} (hdigits : Run isDigit digits)
    (hdecimals : Run isDigit decimals) (hrest : Parted rest) :
    unsigned? (digits ++ '.' :: (decimals ++ rest)) = some (digits ++ '.' :: decimals, rest) := by
  have hpoint : ∀ c, ('.' :: (decimals ++ rest)).head? = some c → isDigit c = false := by
    rintro _ ⟨⟩
    decide
  have hfraction : fraction ('.' :: (decimals ++ rest)) = ('.' :: decimals, rest) := by
    simp [fraction, takeWhile_run hdecimals.2 hrest.isDigit, dropWhile_run hdecimals.2 hrest.isDigit, hdecimals.1]
  simp [unsigned?, takeWhile_run hdigits.2 hpoint, dropWhile_run hdigits.2 hpoint, hdigits.1, hfraction]

/-- a sign makes a number of what is a number without it -/
theorem number?_signed {sign cs t rest : List Char} (hsign : sign = [] ∨ sign = ['-'])
    (hcs : ∀ c, cs.head? = some c → isDigit c = true) (h : unsigned? cs = some (t, rest)) :
    number? (sign ++ cs) = some (sign ++ t, rest) := by
  rcases hsign with rfl | rfl
  · have hminus : cs.head? ≠ some '-' := fun hc => absurd (hcs '-' hc) (by decide)
    rw [List.nil_append, number?_of_head hminus, h, List.nil_append]
  · simp [number?, h]

theorem number?_of_digitless {cs : List Char} (hminus : cs.head? ≠ some '-')
    (hdigit : ∀ c, cs.head? = some c → isDigit c = false) : number? cs = none := by
  rw [number?_of_head hminus]
  cases cs with
  | nil => rfl
  | cons c cs => simp [unsigned?, hdigit c rfl]

/-- a character that starts no string and no number -/
def IsBare (c : Char) : Prop := isDigit c = false ∧ ¬ IsQuote c ∧ c ≠ '-'

theorem IsBare.literals {c : Char} (h : IsBare c) (cs : List Char) :
    string? (c :: cs) = none ∧ number? (c :: cs) = none := by
  obtain ⟨hdigit, hquote, hminus⟩ := h
  constructor
  · exact if_neg fun hc => hquote hc.symm
  · exact number?_of_digitless (by simpa using hminus) (by simpa using hdigit)

/-! ## Operators -/

/-- the longer operator is tried first, so what follows a shorter one matters: a blank does not go on with it -/
theorem operator?_written {op rest : List Char} (hop : op ∈ operators) (hrest : Parted rest) :
    operator? (op ++ rest) = some (op, rest) := by
  have hequals : ∀ c ∈ rest.head?, ¬ '=' = c := by
    rintro _ hc rfl
    exact hrest.head?_ne (by decide) hc
  simp only [operators, List.mem_cons, List.not_mem_nil, or_false] at hop
  cases rest with
  | nil => rcases hop with rfl | rfl | rfl | rfl | rfl | rfl <;> rfl
  | cons c rest =>
    have hc : ('=' == c) = false := beq_eq_false_iff_ne.2 (hequals c rfl)
    rcases hop with rfl | rfl | rfl | rfl | rfl | rfl <;> simp [operator?, operators, List.find?, List.isPrefixOf, hc]

/-- the characters that operators start with -/
def operatorHeads : List Char := ['=', '!', '?', ':']

theorem head?_operator {op : List Char} (hop : op ∈ operators) : ∃ c ∈ operatorHeads, op.head? = some c := by
  have hall : operators.all (fun op => operatorHeads.any fun c => op.head? == some c) = true := by decide
  obtain ⟨c, hc, hhead⟩ := List.any_eq_true.1 (List.all_eq_true.1 hall op hop)
  exact ⟨c, hc, eq_of_beq hhead⟩

theorem isBare_of_operatorHead {c : Char} (hc : c ∈ operatorHeads) : IsBare c := by
  simp only [operatorHeads, List.mem_cons, List.not_mem_nil, or_false] at hc
  unfold IsBare IsQuote
  rcases hc with rfl | rfl | rfl | rfl <;> decide

theorem operator?_of_head {c : Char} (hc : c ∉ operatorHeads) (cs : List Char) : operator? (c :: cs) = none := by
  have hnone : operators.find? (·.isPrefixOf (c :: cs)) = none := by
    refine List.find?_eq_none.2 fun op hop hprefix => hc ?_
    obtain ⟨d, hd, hhead⟩ := head?_operator hop
    cases op with
    | nil => cases hhead
    | cons e op =>
      obtain rfl : e = d := by simpa using hhead
      obtain rfl : e = c := by simpa using (List.cons_prefix_cons.1 (List.isPrefixOf_iff_prefix.1 hprefix)).1
      exact hd
  simp [operator?, hnone]

/-! ## Names -/

/-- what starts a name starts no other token -/
theorem nameStart_apart {c : Char} (h : isNameStart c = true) : IsBare c ∧ c ∉ operatorHeads := by
  have hcode : c.toNat < 128 := by
    simp only [isNameStart, isAsciiLetter, Bool.or_eq_true, Bool.and_eq_true, decide_eq_true_eq, beq_iff_eq] at h
    rcases h with ((⟨-, h⟩ | ⟨-, h⟩) | rfl) | rfl
    · exact Nat.lt_of_le_of_lt (Char.le_def.1 h) (by decide)
    · exact Nat.lt_of_le_of_lt (Char.le_def.1 h) (by decide)
    · decide
    · decide
  have hall : ∀ n < 128, isNameStart (Char.ofNat n) = true →
      isDigit (Char.ofNat n) = false ∧ Char.ofNat n ∉ '"' :: '\'' :: '-' :: operatorHeads := by decide +kernel
  have hc := hall c.toNat hcode
  rw [Char.ofNat_toNat] at hc
  obtain ⟨hdigit, hother⟩ := hc h
  simp only [List.mem_cons, not_or] at hother
  obtain ⟨hdouble, hsingle, hminus, hop⟩ := hother
  exact ⟨⟨hdigit, not_or.2 ⟨hsingle, hdouble⟩, hminus⟩, hop⟩

/-- the parts of a name end where the next one, or what follows the name, begins -/
theorem head?_parts (parts : List (List Char)) {rest : List Char} (hrest : Parted rest) :
    ∀ c, (parts.flatMap ('.' :: ·) ++ rest).head? = some c → isNamePart c = false := by
  cases parts with
  | nil => simpa using hrest.isNamePart
  | cons p parts =>
    rintro _ ⟨⟩
    decide

theorem length_le_parts (parts : List (List Char)) : parts.length ≤ (parts.flatMap ('.' :: ·)).length := by
  induction parts with
  | nil => simp
  | cons p parts ih =>
    simp only [List.flatMap_cons, List.length_append, List.length_cons]
    omega

theorem nameTail_parts {parts : List (List Char)} {rest : List Char} (hparts : ∀ p ∈ parts, Run isNamePart p)
    (hrest : Parted rest) {fuel : ℕ} (hfuel : parts.length ≤ fuel) :
    nameTail fuel (parts.flatMap ('.' :: ·) ++ rest) = (parts.flatMap ('.' :: ·), rest) := by
  induction parts generalizing fuel with
  | nil => exact nameTail_of_head (hrest.head?_ne (by decide)) fuel
  | cons p parts ih =>
    obtain ⟨⟨hsome, hp⟩, hparts⟩ := List.forall_mem_cons.1 hparts
    obtain ⟨n, rfl⟩ : ∃ n, fuel = n + 1 := Nat.exists_eq_add_one.2 (Nat.lt_of_lt_of_le (Nat.succ_pos _) hfuel)
    have htail := ih hparts (Nat.le_of_succ_le_succ hfuel)
    have hend := head?_parts parts hrest
    simp [nameTail, takeWhile_run hp hend, dropWhile_run hp hend, hsome, htail]

theorem name?_written {c : Char} {more rest : List Char} {parts : List (List Char)} (hc : isNameStart c = true)
    (hmore : ∀ d ∈ more, isNamePart d = true) (hparts : ∀ p ∈ parts, Run isNamePart p) (hrest : Parted rest) :
    name? (c :: (more ++ (parts.flatMap ('.' :: ·) ++ rest))) =
      some (c :: (more ++ parts.flatMap ('.' :: ·)), rest) := by
  have hend := head?_parts parts hrest
  have hfuel : parts.length ≤ (more ++ (parts.flatMap ('.' :: ·) ++ rest)).length := by
    have hlength := length_le_parts parts
    simp only [List.length_append]
    omega
  rw [name?, if_pos hc, takeWhile_run hmore hend, dropWhile_run hmore hend]
  dsimp only
  rw [nameTail_parts hparts hrest hfuel, List.cons_append]

/-! ## Tokens before a blank -/

theorem Run.head? {p : Char → Bool} {cs : List Char} (h : Run p cs) (rest : List Char) :
    ∀ c, (cs ++ rest).head? = some c → p c = true := by
  intro c hc
  rw [List.head?_append_of_ne_nil _ h.1] at hc
  exact h.2 c (List.mem_of_head? hc)

theorem not_isQuote_of_isDigit {c : Char} (h : isDigit c = true) : ¬ IsQuote c := by
  rintro (rfl | rfl) <;> exact absurd h (by decide)

/-- a number starts with its sign or a digit, so it is no string -/
theorem string?_signed {sign cs : List Char} (hsign : sign = [] ∨ sign = ['-'])
    (hcs : ∀ c, cs.head? = some c → isDigit c = true) : string? (sign ++ cs) = none := by
  apply string?_of_head
  intro c hc
  rcases hsign with rfl | rfl
  · exact not_isQuote_of_isDigit (hcs c hc)
  · obtain rfl : '-' = c := by simpa using hc
    rintro (h | h) <;> exact absurd h (by decide)

/-- **A written token** is found before a blank, and nothing of what follows is taken -/
theorem at?_written {t : Token} {rest : List Char} (ht : Written t) (hrest : Parted rest) :
    at? (t.text ++ rest) = some (t, rest) := by
  cases ht with
  | string hq content => simp [at?, string?_quote hq]
  | whole hsign hdigits =>
    have hhead := hdigits.head? rest
    have hstring := string?_signed hsign hhead
    have hnumber := number?_signed hsign hhead (unsigned?_whole hdigits hrest)
    rw [← List.append_assoc] at hstring hnumber
    simp only [at?, hstring, hnumber]
  | @decimal sign digits decimals hsign hdigits hdecimals =>
    have hhead := hdigits.head? ('.' :: (decimals ++ rest))
    have hstring := string?_signed hsign hhead
    have hnumber := number?_signed hsign hhead (unsigned?_decimal hdigits hdecimals hrest)
    have htext : sign ++ (digits ++ '.' :: decimals) ++ rest = sign ++ (digits ++ '.' :: (decimals ++ rest)) := by simp
    simp only [at?, htext, hstring, hnumber]
  | @operator op hop =>
    obtain ⟨c, hc, hhead⟩ := head?_operator hop
    obtain ⟨more, rfl⟩ := List.head?_eq_some_iff.1 hhead
    obtain ⟨hstring, hnumber⟩ := (isBare_of_operatorHead hc).literals (more ++ rest)
    have hoperator := operator?_written hop hrest
    rw [List.cons_append] at hoperator
    simp only [at?, List.cons_append, hstring, hnumber, hoperator]
  | name hc hmore hparts =>
    obtain ⟨hbare, hop⟩ := nameStart_apart hc
    have hname := name?_written hc hmore hparts hrest
    simp only [at?, List.cons_append, List.append_assoc, hbare.literals, operator?_of_head hop, hname]

/-- a blank starts no token -/
theorem at?_of_parted {cs : List Char} (h : Parted cs) : at? cs = none := by
  cases cs with
  | nil => rfl
  | cons c cs =>
    have hquote : ¬ IsQuote c := by
      rintro (rfl | rfl)
      · exact h.head?_ne (by decide) rfl
      · exact h.head?_ne (by decide) rfl
    have hminus : c ≠ '-' := by
      rintro rfl
      exact h.head?_ne (by decide) rfl
    obtain ⟨hstring, hnumber⟩ := IsBare.literals ⟨h.isDigit c rfl, hquote, hminus⟩ cs
    have hmark : operatorHeads.all marks.contains = true := by decide
    have hoperator : operator? (c :: cs) = none := by
      apply operator?_of_head
      intro hc
      exact h.head?_ne (List.contains_iff_mem.1 (List.all_eq_true.1 hmark c hc)) rfl
    have hname : name? (c :: cs) = none := by
      simp [name?, (h.blank rfl).isNameStart c (List.mem_singleton_self c)]
    simp only [at?, hstring, hnumber, hoperator, hname]

/-- blanks in front of a written token are skipped -/
theorem next?_written {t : Token} {b rest : List Char} (ht : Written t) (hb : Blank b) (hrest : Parted rest) :
    next? (b ++ (t.text ++ rest)) = some (t, rest) := by
  have hfound := at?_written ht hrest
  have hsolid : ∀ c, (t.text ++ rest).head? = some c → isBlank c = false := by
    intro c hc
    by_contra hblank
    have hparted : Parted (t.text ++ rest) := by
      intro d hd
      obtain rfl : c = d := Option.some.inj (hc.symm.trans hd)
      simpa using hblank
    rw [at?_of_parted hparted] at hfound
    cases hfound
  have hskip : Text.trimStart (b ++ (t.text ++ rest)) = t.text ++ rest := by
    have hstart := trimStart_of_head hsolid
    unfold Text.trimStart at hstart ⊢
    rw [List.dropWhile_append_of_pos hb, hstart]
  rw [next?, hskip, hfound]

/-! ## Tokens in a row -/

/-- the texts of tokens in a row, each with blanks behind it, or none; with some between neighbours if they stand
`apart` -/
inductive Row (apart : Prop) : List Token → List Char → Prop
  | nil : Row apart [] []
  | cons {t : Token} {ts : List Token} {gap rest : List Char} (hgap : Blank gap) (hapart : apart → ts ≠ [] → gap ≠ [])
      (hrest : Row apart ts rest) : Row apart (t :: ts) (t.text ++ (gap ++ rest))

/-- the induction is on the row; blanks behind one token are those in front of the next -/
theorem scans_row {ts : List Token} {b cs : List Char} (hts : ∀ t ∈ ts, Written t) (hb : Blank b)
    (hrow : Row True ts cs) : Scans (b ++ cs) ts := by
  induction hrow generalizing b with
  | nil =>
    apply Scans.done
    simpa using hb
  | @cons t ts gap rest hgap hapart hrest ih =>
    obtain ⟨ht, hts⟩ := List.forall_mem_cons.1 hts
    have hparted : Parted (gap ++ rest) := by
      apply Parted.of_gap hgap
      rintro rfl
      cases hrest with
      | nil => rfl
      | cons => exact absurd rfl (hapart trivial (List.cons_ne_nil _ _))
    exact .more (next?_written ht hb hparted) (ih hts hgap)

/-- what a text falls into makes it up, blanks aside -/
theorem Scans.row {cs : List Char} {ts : List Token} (h : Scans cs ts) :
    ∃ b rest, cs = b ++ rest ∧ Blank b ∧ Row False ts rest := by
  induction h with
  | done hblank => exact ⟨_, [], (List.append_nil _).symm, hblank, .nil⟩
  | @more cs rest t ts hnext hrest ih =>
    obtain ⟨gap, tail, rfl, hgap, hrow⟩ := ih
    refine ⟨cs.takeWhile isBlank, t.text ++ (gap ++ tail), ?_, ?_, .cons hgap False.elim hrow⟩
    · rw [← List.append_assoc, next?_append hnext]
    · exact fun c hc => List.mem_takeWhile_imp hc

/-- **Tokens are read back, and nothing is lost.** Written tokens with blanks between them are what is read, and each
quoted string among them is the string that was quoted; what is read as tokens is made up of them and of blanks, and
each step takes part of the text. -/
theorem scan_lossless :
    (∀ ts b cs, (∀ t ∈ ts, Written t) → Blank b → Row True ts cs → scan (String.ofList (b ++ cs)) = .ok ts) ∧
      (∀ q content, IsQuote q → Written ⟨.string, quote q content⟩ ∧ unquote (quote q content) = content) ∧
      (∀ s ts, scan s = .ok ts → ∃ b cs, s.toList = b ++ cs ∧ Blank b ∧ Row False ts cs) ∧
      ∀ cs t rest, next? cs = some (t, rest) → rest.length < cs.length := by
  refine ⟨?_, ?_, ?_, fun _ _ _ => next?_length_lt⟩
  · intro ts b cs hts hb hrow
    rw [scan, String.toList_ofList]
    exact scanFrom_eq_ok.2 (scans_row hts hb hrow)
  · exact fun q content hq => ⟨.string hq content, unquote_quote q content⟩
  · intro s ts hscan
    exact Scans.row (scanFrom_eq_ok.1 hscan)

namespace Sample

/-- a text compared with what a path leads to, and two values to choose from -/
def tokens : List Token :=
  [⟨.string, quote '\'' "it's".toList⟩, ⟨.operator, "===".toList⟩, ⟨.name, "site.name_2".toList⟩, ⟨.operator, ['?']⟩,
    ⟨.number, "-12.5".toList⟩, ⟨.operator, [':']⟩, ⟨.string, quote '"' "a\\b".toList⟩]

def text : String := " 'it\\'s' ===\tsite.name_2 ? -12.5\n: \"a\\\\b\" "

theorem tokens_written : ∀ t ∈ tokens, Written t := by
  simp only [tokens, List.forall_mem_cons]
  refine ⟨.string (.inl rfl) _, .operator (by decide), ?_, .operator (by decide), ?_, .operator (by decide),
    .string (.inr rfl) _, nofun⟩
  · exact @Written.name 's' "ite".toList ["name_2".toList] (by decide) (List.all_eq_true.1 rfl) (by decide)
  · exact @Written.decimal ['-'] "12".toList ['5'] (.inr rfl) (by decide) (by decide)

theorem text_row : ∃ cs, text.toList = ' ' :: cs ∧ Row True tokens cs := by
  have hspace : Blank [' '] := List.all_eq_true.1 rfl
  have htab : Blank ['\t'] := List.all_eq_true.1 rfl
  have hline : Blank ['\n'] := List.all_eq_true.1 rfl
  have hgap : ∀ {c : Char} {ts : List Token}, True → ts ≠ [] → [c] ≠ [] := fun _ _ => List.cons_ne_nil _ _
  refine ⟨_, rfl, ?_⟩
  exact .cons hspace hgap <| .cons htab hgap <| .cons hspace hgap <| .cons hspace hgap <| .cons hline hgap <|
    .cons hspace hgap <| .cons hspace hgap .nil

end Sample

theorem scan_lossless_sample :
    scan Sample.text = .ok Sample.tokens ∧ unquote (quote '\'' "it's".toList) = "it's".toList ∧
      ∃ b cs, Sample.text.toList = b ++ cs ∧ Blank b ∧ Row False Sample.tokens cs := by
  obtain ⟨hread, hstring, hmade, -⟩ := scan_lossless
  obtain ⟨cs, htext, hrow⟩ := Sample.text_row
  have hblank : Blank [' '] := List.all_eq_true.1 rfl
  have hscan := hread Sample.tokens [' '] cs Sample.tokens_written hblank hrow
  rw [List.singleton_append, ← htext, String.ofList_toList] at hscan
  exact ⟨hscan, (hstring '\'' _ (.inl rfl)).2, hmade _ _ hscan⟩

end ReportPress.Expr.Token
