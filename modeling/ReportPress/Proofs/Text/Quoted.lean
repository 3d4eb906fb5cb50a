import Mathlib.Algebra.Group.Nat.Defs
import Mathlib.Tactic.Common
import ReportPress.Text.Quoted
/-!
Quoted texts. A character between quotes is told by what is written for it, whatever follows, and nothing that is
written for a character starts with the quote. So a quoted text, and where it ends, is told from any text that starts
with it.

- `readHex_hex`: the number that hexadecimal digits write.
- `firstQuoted_append`: the first character between quotes.
- `quotedChars_append_inj`: two texts that start with quoted texts start with the same one, if they are the same.
-/

namespace ReportPress.Text

/-! ## Hexadecimal digits -/

def hexDigitValue (c : Char) : ℕ := if c.toNat < 58 then c.toNat - 48 else c.toNat - 87

def readHex (cs : List Char) : ℕ := cs.foldl (fun n c => 16 * n + hexDigitValue c) 0

theorem hexDigitValue_digitChar : ∀ d < 16, hexDigitValue (Nat.digitChar d) = d := by decide

theorem length_hex (width n : ℕ) : (hex width n).length = width := by
  induction width generalizing n with
  | zero => rfl
  | succ w ih => rw [hex, List.length_append, ih]; rfl

theorem readHex_hex (width n : ℕ) : readHex (hex width n) = n % 16 ^ width := by
  induction width generalizing n with
  | zero => rw [Nat.pow_zero, Nat.mod_one]; rfl
  | succ w ih =>
    have hlast : hexDigitValue (Nat.digitChar (n % 16)) = n % 16 :=
      hexDigitValue_digitChar _ (Nat.mod_lt n (by decide))
    have hsplit : readHex (hex (w + 1) n) = 16 * readHex (hex w (n / 16)) + hexDigitValue (Nat.digitChar (n % 16)) := by
      rw [hex, readHex, List.foldl_append]
      rfl
    rw [hsplit, hlast, ih, Nat.pow_succ', Nat.mod_mul, Nat.add_comm]

/-! ## Characters between quotes -/

/-- how many hexadecimal digits follow a letter behind a backslash -/
def escapeWidth : Char → ℕ
  | 'x' => 2
  | 'u' => 4
  | 'U' => 8
  | _ => 0

/-- the character that a character behind a backslash stands for -/
def unescape : Char → Char
  | 't' => '\t'
  | 'n' => '\n'
  | 'r' => '\r'
  | c => c

/-- the number of the first character of a text between quotes, and what follows it -/
def firstQuoted : List Char → Option (ℕ × List Char)
  | '\\' :: m :: rest =>
    if escapeWidth m = 0 then some ((unescape m).toNat, rest)
    else some (readHex (rest.take (escapeWidth m)), rest.drop (escapeWidth m))
  | c :: rest => some (c.toNat, rest)
  | [] => none

def IsQuote (q : Char) : Prop := q = '\'' ∨ q = '"'

theorem isQuote_quoteFor (cs : List Char) : IsQuote (quoteFor cs) := by
  unfold quoteFor
  split
  · exact .inr rfl
  · exact .inl rfl

theorem firstQuoted_hex {m : Char} {n : ℕ} (hm : escapeWidth m ≠ 0) (hn : n < 16 ^ escapeWidth m)
    (rest : List Char) :
    firstQuoted ('\\' :: m :: (hex (escapeWidth m) n ++ rest)) = some (n, rest) := by
  have hlength := length_hex (escapeWidth m) n
  rw [firstQuoted, if_neg hm, List.take_left' hlength, List.drop_left' hlength, readHex_hex, Nat.mod_eq_of_lt hn]

/-- **A character between quotes** is told by what is written for it -/
theorem firstQuoted_append {q : Char} (hq : IsQuote q) (c : Char) (rest : List Char) :
    firstQuoted (quotedChar q c ++ rest) = some (c.toNat, rest) := by
  unfold quotedChar
  split
  · next h =>
    rw [Bool.or_eq_true, beq_iff_eq, beq_iff_eq] at h
    rcases h with rfl | rfl
    · rcases hq with rfl | rfl <;> rfl
    · rfl
  · next h =>
    split
    · next h => rw [beq_iff_eq.1 h]; rfl
    · split
      · next h => rw [beq_iff_eq.1 h]; rfl
      · split
        · next h => rw [beq_iff_eq.1 h]; rfl
        · split
          · have hslash : c ≠ '\\' := by
              rintro rfl
              simp at h
            unfold firstQuoted
            split
            · next heq => exact absurd (List.cons.inj heq).1 hslash
            · next heq => cases heq; rfl
            · next heq => cases heq
          · split
            · next h => exact firstQuoted_hex (m := 'x') (by decide) h rest
            · split
              · next h => exact firstQuoted_hex (m := 'u') (by decide) h rest
              · have hbound : c.toNat < 16 ^ escapeWidth 'U' := c.val.toNat_lt
                exact firstQuoted_hex (m := 'U') (by decide) hbound rest

theorem quotedChar_append_inj {q : Char} (hq : IsQuote q) {c d : Char} {rest more : List Char}
    (h : quotedChar q c ++ rest = quotedChar q d ++ more) : c = d ∧ rest = more := by
  have hfirst := congrArg firstQuoted h
  rw [firstQuoted_append hq, firstQuoted_append hq, Option.some.injEq, Prod.mk.injEq] at hfirst
  exact ⟨Char.toNat_inj.1 hfirst.1, hfirst.2⟩

/-- what is written for a character does not start with the quote -/
theorem quotedChar_append_ne {q : Char} (hq : IsQuote q) (c : Char) (rest more : List Char) :
    quotedChar q c ++ rest ≠ q :: more := by
  have hslash : ∀ cs : List Char, '\\' :: cs ≠ q :: more := by
    intro cs h
    rcases hq with rfl | rfl <;> exact absurd (List.cons.inj h).1 (by decide)
  unfold quotedChar
  split
  · exact hslash _
  · next h =>
    have hc : c ≠ q := by
      rintro rfl
      simp at h
    repeat' split
    all_goals first | exact hslash _ | exact fun heq => hc (List.cons.inj heq).1

/-! ## Quoted texts -/

theorem flatMap_quotedChar_inj {q : Char} (hq : IsQuote q) {cs ds rest more : List Char}
    (h : cs.flatMap (quotedChar q) ++ q :: rest = ds.flatMap (quotedChar q) ++ q :: more) :
    cs = ds ∧ rest = more := by
  induction cs generalizing ds with
  | nil =>
    cases ds with
    | nil => exact ⟨rfl, (List.cons.inj h).2⟩
    | cons d ds =>
      rw [List.flatMap_cons, List.append_assoc] at h
      exact absurd h.symm (quotedChar_append_ne hq d _ rest)
  | cons c cs ih =>
    cases ds with
    | nil =>
      rw [List.flatMap_cons, List.append_assoc] at h
      exact absurd h (quotedChar_append_ne hq c _ more)
    | cons d ds =>
      rw [List.flatMap_cons, List.flatMap_cons, List.append_assoc, List.append_assoc] at h
      obtain ⟨rfl, hrest⟩ := quotedChar_append_inj hq h
      obtain ⟨rfl, hmore⟩ := ih hrest
      exact ⟨rfl, hmore⟩

/-- **A quoted text** is told from any text that starts with it -/
theorem quotedChars_append_inj {cs ds rest more : List Char}
    (h : quotedChars cs ++ rest = quotedChars ds ++ more) : cs = ds ∧ rest = more := by
  have hlayout : ∀ (cs rest : List Char), quotedChars cs ++ rest =
      quoteFor cs :: (cs.flatMap (quotedChar (quoteFor cs)) ++ quoteFor cs :: rest) := by
    intro cs rest
    unfold quotedChars
    simp
  rw [hlayout, hlayout] at h
  obtain ⟨hquote, hbody⟩ := List.cons.inj h
  rw [← hquote] at hbody
  exact flatMap_quotedChar_inj (isQuote_quoteFor cs) hbody

end ReportPress.Text
