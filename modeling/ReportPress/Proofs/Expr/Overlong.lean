import ReportPress.Proofs.Expr.Blanks
import ReportPress.Proofs.Expr.Grammar
/-!
Integers with too many digits in expressions. Reading goes from the left, and the first token that cannot be read where
an operand is due decides the fault. Such a token is an operator, which is a fault of form like all others, or an
integer of more digits than are converted, and that is the one fault that is not.

- `ofTokens_comesTo`: tokens that come to what is no operand fail with its fault.
- `ofTokens_cases`: tokens are derived, or malformed, or come to an integer that is too long.
- `parse_eq_numberTooLong`: when a text fails for the length of an integer. `parse_cases`: every other text is an
  expression or malformed.
-/

namespace ReportPress.Expr

/-! ## The first fault decides -/

/-- two cuts of a list at different items: one of them is before the other -/
theorem cut_cases {α : Type} {x y : α} (hne : x ≠ y) {before after before' after' : List α}
    (h : before ++ x :: after = before' ++ y :: after') :
    (∃ between, before = before' ++ y :: between) ∨
      ∃ between, before' = before ++ x :: between ∧ after = between ++ y :: after' := by
  rcases List.append_eq_append_iff.1 h with ⟨between, rfl, hrest⟩ | ⟨between, rfl, hrest⟩
  · cases between with
    | nil => exact absurd (List.cons.inj hrest).1 hne
    | cons z between =>
      obtain ⟨rfl, hafter⟩ := List.cons.inj hrest
      exact .inr ⟨between, rfl, hafter⟩
  · cases between with
    | nil => exact absurd (List.cons.inj hrest).1 hne.symm
    | cons z between =>
      obtain ⟨rfl, -⟩ := List.cons.inj hrest
      exact .inl ⟨between, rfl⟩

namespace Operand

theorem kind_token (o : Operand) : o.token.kind ≠ .operator := by
  cases o <;> exact nofun

theorem comparison_ne (o : Operand) (how : Comparison) : how.token ≠ o.token := fun h =>
  o.kind_token (congrArg Token.kind h).symm

theorem question_ne (o : Operand) : question ≠ o.token := fun h => o.kind_token (congrArg Token.kind h).symm

theorem colon_ne (o : Operand) : colon ≠ o.token := fun h => o.kind_token (congrArg Token.kind h).symm

end Operand

variable {t : Token} {f : Fault}

theorem parseOperand_fault (ht : operandOf t = .error f) (rest : List Token) : parseOperand (t :: rest) = .error f := by
  rw [parseOperand, ht]
  rfl

/-- a comparison is not read past a token that stands where one of its operands is due and is none -/
theorem parseCompare_fault (ht : operandOf t = .error f) (rest : List Token) {c : Compared} {o : Operand}
    {before after : List Token} (h : c.yield = before ++ o.token :: after) :
    parseCompare (before ++ t :: rest) = .error f := by
  have hfirst : parseCompare (t :: rest) = .error f := by
    rw [parseCompare, parseOperand_fault ht]
  rcases before with _ | ⟨l, _ | ⟨m, before⟩⟩
  · exact hfirst
  · -- behind the first operand there is an operator
    cases c with
    | operand o' => cases h
    | comparison left how right => exact absurd (List.cons.inj (List.cons.inj h).2).1 (o.comparison_ne how)
  · cases c with
    | operand o' => cases h
    | comparison left how right =>
      obtain ⟨hl, h⟩ := List.cons.inj h
      obtain ⟨hm, h⟩ := List.cons.inj h
      obtain ⟨rfl, -⟩ | ⟨-, hnil⟩ := List.append_eq_singleton_iff.1 h.symm
      · obtain ⟨hlt, hread⟩ := reads_parseOperand left (how.token :: t :: rest)
        rw [← hl, ← hm]
        show parseCompare (left.token :: how.token :: t :: rest) = .error f
        rw [parseCompare, hread]
        dsimp only
        rw [comparison?_token, parseOperand_fault ht]
      · cases hnil

/-- an expression is not read past a token that stands where one of its operands is due and is none -/
theorem parseExpr_fault (ht : operandOf t = .error f) (rest : List Token) {d : Derivation} {o : Operand}
    {before after : List Token} (h : d.yield = before ++ o.token :: after) :
    parseExpr (before ++ t :: rest) = .error f := by
  have hcondition : ∀ {c : Compared} {before after : List Token}, c.yield = before ++ o.token :: after →
      parseExpr (before ++ t :: rest) = .error f := by
    intro c before after h
    rw [parseExpr, parseCompare_fault ht rest h]
  induction d generalizing before after with
  | compared c => exact hcondition h
  | ternary c a b iha ihb =>
    rcases cut_cases o.question_ne h with ⟨between, hc⟩ | ⟨inner, rfl, hbranch⟩
    · exact hcondition hc
    · rw [List.append_assoc, List.cons_append]
      rcases cut_cases o.colon_ne hbranch with ⟨between, ha⟩ | ⟨tail, rfl, hb⟩
      · exact parseExpr_whenTrue_fault c (iha ha)
      · rw [List.append_assoc, List.cons_append]
        exact parseExpr_whenFalse_fault c a (ihb hb)

/-- **The first fault decides**: tokens that come to what is no operand fail with its fault -/
theorem ofTokens_comesTo {ts : List Token} (ht : operandOf t = .error f) (h : ComesTo ts t) :
    ofTokens ts = .error f := by
  obtain ⟨before, rest, rfl, d, o, after, hd⟩ := h
  have hempty : (before ++ t :: rest).isEmpty = false := by simp
  rw [ofTokens, hempty, if_neg Bool.false_ne_true, parseExpr_fault ht rest hd]

/-! ## Texts -/

/-- tokens are derived, or malformed, or come to an integer that is too long -/
theorem ofTokens_cases {ts : List Token} (hts : ∀ t ∈ ts, t.kind = .number → Token.IsNumber t.text) :
    (∃ d : Derivation, d.yield = ts ∧ ofTokens ts = .ok d.tree) ∨
      (∃ f, ofTokens ts = .error f ∧ f.isMalformed = true) ∨ ∃ t, t.Overlong ∧ ComesTo ts t := by
  cases hts' : ts.isEmpty with
  | true => exact .inr (.inl ⟨.empty, by rw [ofTokens, hts', if_pos rfl], rfl⟩)
  | false =>
    rcases parseExpr_outcome ts hts with ⟨d, rest, rfl, hends⟩ | ⟨f, hf, hmalformed⟩ | hlong
    · obtain ⟨hlt, hread⟩ := reads_parseExpr d hends
      cases rest with
      | nil =>
        rw [List.append_nil]
        exact .inl ⟨d, rfl, ofTokens_yield d⟩
      | cons t rest =>
        refine .inr (.inl ⟨.unexpectedToken (textOf t), ?_, rfl⟩)
        rw [ofTokens, hts', if_neg Bool.false_ne_true, hread]
    · exact .inr (.inl ⟨f, by rw [ofTokens, hts', if_neg Bool.false_ne_true, hf], hmalformed⟩)
    · exact .inr (.inr hlong)

/-- a text that does not fall into tokens is malformed -/
theorem Token.scanFrom_error {offset : ℕ} {cs : List Char} (h : Token.scanFrom offset cs = .error f) :
    f.isMalformed = true := by
  fun_induction Token.scanFrom offset cs with
  | case1 => cases h
  | case2 =>
    cases h
    rfl
  | case3 offset cs hblank t rest hnext hlt ih =>
    cases hrest : Token.scanFrom (offset + (cs.length - rest.length)) rest with
    | error g =>
      rw [hrest] at h
      cases h
      exact ih hrest
    | ok ts =>
      rw [hrest] at h
      cases h

/-- read from the left, the text comes to an integer that is too long, of so many digits, where an operand is due -/
def ComesToOverlong (source : String) (digits : ℕ) : Prop :=
  ∃ ts t, Token.scan source = .ok ts ∧ ComesTo ts t ∧ t.Overlong ∧ t.text.countP Text.isDigit = digits

theorem parse_of_comesToOverlong {source : String} {digits : ℕ} (h : ComesToOverlong source digits) :
    parse source = .error (.numberTooLong digits) := by
  obtain ⟨ts, t, hscan, hcomes, hlong, rfl⟩ := h
  have hnumber := Token.scanFrom_isNumber hscan t hcomes.mem hlong.number
  rw [parse, hscan]
  exact ofTokens_comesTo (operandOf_overlong hnumber hlong) hcomes

/-- **A text** is an expression, or malformed, or comes to an integer that is too long -/
theorem parse_cases (source : String) :
    (∃ ts, ∃ d : Derivation, Token.scan source = .ok ts ∧ d.yield = ts ∧ parse source = .ok d.tree) ∨
      (∃ f, parse source = .error f ∧ f.isMalformed = true) ∨ ∃ digits, ComesToOverlong source digits := by
  cases hscan : Token.scan source with
  | error f => exact .inr (.inl ⟨f, by rw [parse, hscan]; rfl, Token.scanFrom_error hscan⟩)
  | ok ts =>
    have hparse : parse source = ofTokens ts := by
      rw [parse, hscan]
      rfl
    rcases ofTokens_cases (Token.scanFrom_isNumber hscan) with ⟨d, hd, hread⟩ | ⟨f, hf, hmalformed⟩ | ⟨t, hlong, hcomes⟩
    · exact .inl ⟨ts, d, rfl, hd, hparse.trans hread⟩
    · exact .inr (.inl ⟨f, hparse.trans hf, hmalformed⟩)
    · exact .inr (.inr ⟨_, ts, t, hscan, hcomes, hlong, rfl⟩)

/-- **A text fails for the length of an integer** just if it comes to one that is too long -/
theorem parse_eq_numberTooLong {source : String} {digits : ℕ} :
    parse source = .error (.numberTooLong digits) ↔ ComesToOverlong source digits := by
  refine ⟨fun h => ?_, parse_of_comesToOverlong⟩
  rcases parse_cases source with ⟨ts, d, -, -, hread⟩ | ⟨f, hf, hmalformed⟩ | ⟨digits', hlong⟩
  · rw [h] at hread
    cases hread
  · rw [h] at hf
    cases hf
    cases hmalformed
  · have hsame := parse_of_comesToOverlong hlong
    rw [h] at hsame
    cases hsame
    exact hlong

/-! ## Texts that start with an integer -/

/-- digits at the start of a text are a token, up to what is neither a digit nor a point -/
theorem Token.next?_digits {ds rest : List Char} (hne : ds ≠ []) (hds : ∀ c ∈ ds, Text.isDigit c = true)
    (hrest : ∀ c ∈ rest.head?, Text.isDigit c = false ∧ c ≠ '.') :
    Token.next? (ds ++ rest) = some (⟨.number, ds⟩, rest) := by
  have htake : (ds ++ rest).takeWhile Text.isDigit = ds := by
    rw [List.takeWhile_append_of_pos hds]
    cases rest with
    | nil => simp
    | cons c rest => simp [(hrest c rfl).1]
  have hdrop : (ds ++ rest).dropWhile Text.isDigit = rest := by
    rw [List.dropWhile_append_of_pos hds]
    cases rest with
    | nil => rfl
    | cons c rest => simp [(hrest c rfl).1]
  have hpoint : rest.head? ≠ some '.' := fun h => (hrest '.' h).2 rfl
  have hnumber : Token.unsigned? (ds ++ rest) = some (ds, rest) := by
    rw [Token.unsigned?, htake, if_neg (by simpa using hne), hdrop]
    dsimp only
    rw [Token.fraction_of_head hpoint, List.append_nil]
  obtain ⟨d, ds, rfl⟩ := List.exists_cons_of_ne_nil hne
  have hd := hds d List.mem_cons_self
  have hother : ∀ m, Text.isDigit m = false → d ≠ m := by
    rintro m hm rfl
    rw [hd] at hm
    cases hm
  have hblank : Text.isBlank d = false := Numeral.isBlank_of_digitLike (Numeral.digitLike_of_digit hd)
  have hstring : Token.string? (d :: ds ++ rest) = none :=
    if_neg (not_or.2 ⟨hother '"' (by decide), hother '\'' (by decide)⟩)
  have hminus : (d :: ds ++ rest).head? ≠ some '-' := by simpa using hother '-' (by decide)
  have htrim : Text.trimStart (d :: ds ++ rest) = d :: ds ++ rest := Text.trimStart_of_head fun c hc => by
    cases hc
    exact hblank
  rw [Token.next?, htrim, Token.at?, hstring]
  dsimp only
  rw [Token.number?_of_head hminus, hnumber]

/-- too many digits at the start of a text are an integer that is too long -/
theorem comesToOverlong_digits {ds rest : List Char} (hds : ∀ c ∈ ds, Text.isDigit c = true)
    (hrest : ∀ c ∈ rest.head?, Text.isDigit c = false ∧ c ≠ '.') (hlong : Numeral.digitLimit < ds.length)
    {ts : List Token} (hscans : Token.Scans rest ts) : ComesToOverlong (String.ofList (ds ++ rest)) ds.length := by
  have hne : ds ≠ [] := List.length_pos_iff.1 (Nat.zero_lt_of_lt hlong)
  have hcount : ds.countP Text.isDigit = ds.length := List.countP_eq_length.2 hds
  refine ⟨⟨.number, ds⟩ :: ts, ⟨.number, ds⟩, ?_, ⟨[], ts, rfl, .nil⟩, ⟨rfl, ?_, hcount ▸ hlong⟩, hcount⟩
  · rw [Token.scan, String.toList_ofList]
    exact Token.scanFrom_eq_ok.2 (.more (Token.next?_digits hne hds hrest) hscans)
  · intro hpoint
    exact absurd (hds '.' hpoint) (by decide)

end ReportPress.Expr
