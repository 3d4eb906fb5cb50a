import ReportPress.Expr.Parser
import ReportPress.Proofs.Number.Numeral
/-!
The grammar of expressions, and that the reader accepts just what it derives.

    expr     := compare ( "?" expr ":" expr )?
    compare  := operand ( ( "===" | "==" | "!==" | "!=" ) operand )?
    operand  := STRING | NUMBER | true | false | null | itemIndex | PATH

A derivation is a tree with one constructor for each way through a rule. It yields the tokens at its leaves, and it
stands for an expression. Nothing of the tokens behind a derivation belongs to it unless it starts like a comparison or
a branch; so of two derivations that begin a list of tokens and end there, one is the other (`Derivation.cut_unique`),
and the reader finds it.

- `Operand`, `Compared`, `Derivation`: the rules, each with what it yields and what it stands for.
- `operandOf_cases`: a token is read as an operand just if it is one.
- `reads_parseExpr`: what a derivation yields is read, up to where it ends. `parseExpr_outcome`: whatever is read is
  yielded by a derivation.
- `Awaits`, `ComesTo`: where an operand is due.
- `ofTokens_grammar`: reading a whole list of tokens.
-/

namespace ReportPress

def Comparison.token (how : Comparison) : Expr.Token := ⟨.operator, how.text.toList⟩

namespace Expr

/-! ## The grammar -/

/-- the words that are operands of their own -/
inductive Keyword where
  | yes
  | no
  | null
  | itemIndex

namespace Keyword

def text : Keyword → String
  | .yes => "true"
  | .no => "false"
  | .null => "null"
  | .itemIndex => "itemIndex"

def tree : Keyword → Expr
  | .yes => .literal (.bool true)
  | .no => .literal (.bool false)
  | .null => .literal .null
  | .itemIndex => .itemIndex

end Keyword

/-- a number and its value: with a point it is a decimal, without one an integer -/
inductive Writes (text : List Char) : Value → Prop where
  | whole {n : ℤ} (hpoint : '.' ∉ text) (h : Numeral.readInt (String.ofList text) = .ok n) : Writes text (.int n)
  | decimal {x : Float} (hpoint : '.' ∈ text) (h : Numeral.readFloat (String.ofList text) = some x) :
      Writes text (.float x)

inductive Operand where
  | string (text : List Char)
  | number (text : List Char) (v : Value) (h : Writes text v)
  | keyword (k : Keyword)
  | path (text : List Char) (h : ∀ k : Keyword, String.ofList text ≠ k.text)

namespace Operand

def token : Operand → Token
  | .string text => ⟨.string, text⟩
  | .number text _ _ => ⟨.number, text⟩
  | .keyword k => ⟨.name, k.text.toList⟩
  | .path text _ => ⟨.name, text⟩

def tree : Operand → Expr
  | .string text => .literal (.string (String.ofList (Token.unquote text)))
  | .number _ v _ => .literal v
  | .keyword k => k.tree
  | .path text _ => .path (String.ofList text)

end Operand

inductive Compared where
  | operand (o : Operand)
  | comparison (left : Operand) (how : Comparison) (right : Operand)

namespace Compared

def yield : Compared → List Token
  | .operand o => [o.token]
  | .comparison left how right => [left.token, how.token, right.token]

def tree : Compared → Expr
  | .operand o => o.tree
  | .comparison left how right => .compare left.tree how right.tree

end Compared

def question : Token := ⟨.operator, ['?']⟩

def colon : Token := ⟨.operator, [':']⟩

inductive Derivation where
  | compared (c : Compared)
  | ternary (condition : Compared) (whenTrue whenFalse : Derivation)

namespace Derivation

def yield : Derivation → List Token
  | .compared c => c.yield
  | .ternary c a b => c.yield ++ question :: (a.yield ++ colon :: b.yield)

def tree : Derivation → Expr
  | .compared c => c.tree
  | .ternary c a b => .ternary c.tree a.tree b.tree

end Derivation

/-! ## Operators -/

@[simp] theorem comparison?_token (how : Comparison) : comparison? how.token = some how := by
  cases how <;> decide

theorem comparison?_eq_some {t : Token} {how : Comparison} (h : comparison? t = some how) : t = how.token := by
  unfold comparison? at h
  split at h
  · next hkind =>
    have hfound := List.find?_some h
    have htext : how.text.toList = t.text := beq_iff_eq.1 hfound
    rw [Comparison.token, htext, ← hkind]
  · cases h

theorem isOperator_iff {t : Token} {text : List Char} : isOperator t text = true ↔ t = ⟨.operator, text⟩ := by
  obtain ⟨kind, written⟩ := t
  simp [isOperator]

theorem isOperator_question {t : Token} : isOperator t ['?'] = true ↔ t = question := isOperator_iff

theorem expectOperator_colon (rest : List Token) :
    expectOperator [':'] (colon :: rest) = .ok ⟨rest, Nat.lt_succ_self _⟩ := rfl

/-- anything but a colon, where one is expected, is malformed -/
theorem expectOperator_cases (ts : List Token) :
    (∃ rest, ts = colon :: rest) ∨ ∃ f, expectOperator [':'] ts = .error f ∧ f.isMalformed = true := by
  cases ts with
  | nil => exact .inr ⟨.unexpectedEnd, rfl, rfl⟩
  | cons t rest =>
    cases ht : isOperator t [':'] with
    | true => exact .inl ⟨rest, by rw [isOperator_iff.1 ht, colon]⟩
    | false =>
      refine .inr ⟨.expected (String.ofList [':']) (textOf t), ?_, rfl⟩
      rw [expectOperator, ht, if_neg Bool.false_ne_true]

/-! ## Where a derivation ends -/

/-- the tokens behind a comparison do not belong to it -/
def Compared.Stops : Compared → List Token → Prop
  | .operand _, rest => ∀ t ∈ rest.head?, comparison? t = none
  | .comparison .., _ => True

/-- the tokens behind a derivation do not belong to it -/
def Derivation.Ends : Derivation → List Token → Prop
  | .compared c, rest => c.Stops rest ∧ ∀ t ∈ rest.head?, t ≠ question
  | .ternary _ _ whenFalse, rest => whenFalse.Ends rest

theorem Compared.stops_question (c : Compared) (rest : List Token) : c.Stops (question :: rest) := by
  cases c with
  | operand o =>
    intro t ht
    rw [← Option.some.inj ht]
    decide
  | comparison left how right => trivial

theorem Compared.stops_colon (c : Compared) (rest : List Token) : c.Stops (colon :: rest) := by
  cases c with
  | operand o =>
    intro t ht
    rw [← Option.some.inj ht]
    decide
  | comparison left how right => trivial

/-- what is before a colon ends there -/
theorem Derivation.ends_colon (d : Derivation) (rest : List Token) : d.Ends (colon :: rest) := by
  induction d with
  | compared c =>
    refine ⟨c.stops_colon rest, fun t ht => ?_⟩
    rw [← Option.some.inj ht]
    decide
  | ternary c a b iha ihb => exact ihb

theorem Derivation.ends_nil (d : Derivation) : d.Ends [] := by
  induction d with
  | compared c =>
    refine ⟨?_, nofun⟩
    cases c with
    | operand o => exact nofun
    | comparison left how right => trivial
  | ternary c a b iha ihb => exact ihb

/-! ## Operands -/

theorem name_keyword (k : Keyword) : name k.text = k.tree := by
  cases k <;> rfl

/-- every other word is a path -/
theorem name_path {text : String} (h : ∀ k : Keyword, text ≠ k.text) : name text = .path text := by
  have hyes := beq_eq_false_iff_ne.2 (h .yes)
  have hno := beq_eq_false_iff_ne.2 (h .no)
  have hnull := beq_eq_false_iff_ne.2 (h .null)
  have hindex := beq_eq_false_iff_ne.2 (h .itemIndex)
  simp only [Keyword.text] at hyes hno hnull hindex
  simp [name, keywords, List.lookup_cons, hyes, hno, hnull, hindex]

theorem number_of_writes {text : List Char} {v : Value} (h : Writes text v) : number text = .ok v := by
  cases h with
  | whole hpoint h => simp [number, hpoint, h]
  | decimal hpoint h => simp [number, hpoint, h]

theorem Writes.unique {text : List Char} {v w : Value} (hv : Writes text v) (hw : Writes text w) : v = w := by
  have hsame := (number_of_writes hv).symm.trans (number_of_writes hw)
  exact Except.ok.inj hsame

theorem operandOf_token (o : Operand) : operandOf o.token = .ok o.tree := by
  cases o with
  | string text => rfl
  | number text v h =>
    show (number text).map Expr.literal = _
    rw [number_of_writes h]
    rfl
  | keyword k =>
    show Except.ok (name (String.ofList k.text.toList)) = _
    rw [String.ofList_toList, name_keyword]
    rfl
  | path text h =>
    show Except.ok (name (String.ofList text)) = _
    rw [name_path h]
    rfl

theorem Keyword.text_injective {k k' : Keyword} (h : k.text = k'.text) : k = k' := by
  cases k <;> cases k' <;> first | rfl | exact absurd h (by decide)

/-- an operand is known by its token -/
theorem Operand.token_injective {o o' : Operand} (h : o.token = o'.token) : o = o' := by
  cases o with
  | string text =>
    cases o' with
    | string text' => rw [(Token.mk.inj h).2]
    | _ => cases (Token.mk.inj h).1
  | number text v hv =>
    cases o' with
    | number text' v' hv' =>
      obtain rfl : text = text' := (Token.mk.inj h).2
      obtain rfl : v = v' := hv.unique hv'
      rfl
    | _ => cases (Token.mk.inj h).1
  | keyword k =>
    cases o' with
    | keyword k' => rw [Keyword.text_injective (String.toList_inj.1 (Token.mk.inj h).2)]
    | path text' hpath =>
      have htext : String.ofList text' = k.text := by
        rw [← (Token.mk.inj h).2, String.ofList_toList]
      exact absurd htext (hpath k)
    | _ => cases (Token.mk.inj h).1
  | path text hpath =>
    cases o' with
    | path text' hpath' =>
      obtain rfl : text = text' := (Token.mk.inj h).2
      rfl
    | keyword k' =>
      have htext : String.ofList text = k'.text := by
        rw [(Token.mk.inj h).2, String.ofList_toList]
      exact absurd htext (hpath k')
    | _ => cases (Token.mk.inj h).1

/-! ## Numbers -/

namespace Token

/-- how a number is written: a sign, digits, and perhaps a point and digits -/
inductive IsNumber : List Char → Prop where
  | whole {sign ds : List Char} (hsign : Numeral.IsSign sign) (hne : ds ≠ []) (hds : ∀ c ∈ ds, Text.isDigit c = true) :
      IsNumber (sign ++ ds)
  | decimal {sign ds fs : List Char} (hsign : Numeral.IsSign sign) (hne : ds ≠ [])
      (hds : ∀ c ∈ ds, Text.isDigit c = true) (hfs : ∀ c ∈ fs, Text.isDigit c = true) :
      IsNumber (sign ++ (ds ++ '.' :: fs))

theorem fraction_cases (cs : List Char) :
    (fraction cs).1 = [] ∨ ∃ fs, (fraction cs).1 = '.' :: fs ∧ ∀ c ∈ fs, Text.isDigit c = true := by
  unfold fraction
  split
  · split
    · exact .inl rfl
    · exact .inr ⟨_, rfl, fun c hc => List.all_eq_true.1 List.all_takeWhile c hc⟩
  · exact .inl rfl

theorem isNumber_of_unsigned {sign cs t rest : List Char} (hsign : Numeral.IsSign sign)
    (h : unsigned? cs = some (t, rest)) : IsNumber (sign ++ t) := by
  unfold unsigned? at h
  split at h
  · cases h
  · next hne =>
    have hne' : cs.takeWhile Text.isDigit ≠ [] := fun hnil => hne (List.isEmpty_iff.2 hnil)
    have hds : ∀ c ∈ cs.takeWhile Text.isDigit, Text.isDigit c = true := List.all_eq_true.1 List.all_takeWhile
    obtain ⟨rfl, -⟩ := Prod.mk.inj (Option.some.inj h)
    rcases fraction_cases (cs.dropWhile Text.isDigit) with hnone | ⟨fs, hfraction, hfs⟩
    · rw [hnone, List.append_nil]
      exact .whole hsign hne' hds
    · rw [hfraction]
      exact .decimal hsign hne' hds hfs

/-- what the scanner takes for a number is written like one -/
theorem isNumber_of_number? {cs t rest : List Char} (h : number? cs = some (t, rest)) : IsNumber t := by
  unfold number? at h
  split at h
  · obtain ⟨⟨body, rest'⟩, hbody, hpair⟩ := Option.map_eq_some_iff.1 h
    obtain ⟨rfl, -⟩ := Prod.mk.inj hpair
    exact isNumber_of_unsigned (.inr rfl) hbody
  · exact isNumber_of_unsigned (.inl rfl) h

theorem isNumber_of_at? {cs rest : List Char} {t : Token} (h : at? cs = some (t, rest)) (hkind : t.kind = .number) :
    IsNumber t.text := by
  unfold at? at h
  split at h
  · cases h
    cases hkind
  · split at h
    · next hnumber =>
      cases h
      exact isNumber_of_number? hnumber
    · split at h
      · cases h
        cases hkind
      · split at h
        · cases h
          cases hkind
        · cases h

/-- the numbers among the tokens of a text are written like numbers -/
theorem scanFrom_isNumber {offset : ℕ} {cs : List Char} {ts : List Token} (h : scanFrom offset cs = .ok ts) :
    ∀ t ∈ ts, t.kind = .number → IsNumber t.text := by
  fun_induction scanFrom offset cs generalizing ts with
  | case1 =>
    cases h
    exact nofun
  | case2 => cases h
  | case3 offset cs hblank t rest hnext hlt ih =>
    obtain ⟨later, hlater, rfl⟩ : ∃ later, scanFrom (offset + (cs.length - rest.length)) rest = .ok later ∧
        t :: later = ts := by
      cases hscan : scanFrom (offset + (cs.length - rest.length)) rest with
      | error f =>
        rw [hscan] at h
        cases h
      | ok later =>
        rw [hscan] at h
        exact ⟨later, rfl, Except.ok.inj h⟩
    intro u hu hkind
    rcases List.mem_cons.1 hu with rfl | hu
    · exact isNumber_of_at? hnext hkind
    · exact ih hlater u hu hkind

/-- a token whose text is a number if it is said to be one, and of no more digits than are converted -/
structure Fits (t : Token) : Prop where
  number : t.kind = .number → IsNumber t.text
  digits : t.kind = .number → '.' ∉ t.text → t.text.countP Text.isDigit ≤ Numeral.digitLimit

/-- an integer of more digits than are converted -/
structure Overlong (t : Token) : Prop where
  number : t.kind = .number
  whole : '.' ∉ t.text
  digits : Numeral.digitLimit < t.text.countP Text.isDigit

theorem Fits.not_overlong {t : Token} (ht : t.Fits) : ¬ t.Overlong := fun h =>
  Nat.not_lt.2 (ht.digits h.number h.whole) h.digits

theorem fits_of_not_overlong {t : Token} (ht : t.kind = .number → IsNumber t.text) (h : ¬ t.Overlong) : t.Fits :=
  ⟨ht, fun hkind hpoint => Nat.not_lt.1 fun hlong => h ⟨hkind, hpoint, hlong⟩⟩

end Token

/-- **A number has a value**, unless it is of too many digits -/
theorem writes_of_isNumber {text : List Char} (h : Token.IsNumber text)
    (hdigits : '.' ∉ text → text.countP Text.isDigit ≤ Numeral.digitLimit) : ∃ v, Writes text v := by
  cases h with
  | @whole sign ds hsign hne hds =>
    have hpoint : '.' ∉ sign ++ ds := by
      intro hmem
      rcases List.mem_append.1 hmem with hmem | hmem
      · rcases hsign with rfl | rfl
        · cases hmem
        · exact absurd hmem (by decide)
      · exact absurd (hds _ hmem) (by decide)
    have hlen : ds.length ≤ Numeral.digitLimit := by
      have hcount := hdigits hpoint
      rw [List.countP_append, List.countP_eq_length.2 hds] at hcount
      omega
    obtain ⟨n, hn⟩ := Numeral.readInt_signed hsign hne hds hlen
    exact ⟨_, .whole hpoint hn⟩
  | decimal hsign hne hds hfs =>
    obtain ⟨x, hx⟩ := Numeral.readFloat_signed hsign hne hds hfs
    exact ⟨_, .decimal (by simp) hx⟩

/-! ## Reading operands -/

/-- every token but an operator is an operand -/
theorem exists_operand {t : Token} (ht : t.Fits) (hkind : t.kind ≠ .operator) : ∃ o : Operand, o.token = t := by
  obtain ⟨kind, text⟩ := t
  cases kind with
  | string => exact ⟨.string text, rfl⟩
  | number =>
    obtain ⟨v, hv⟩ := writes_of_isNumber (ht.number rfl) (ht.digits rfl)
    exact ⟨.number text v hv, rfl⟩
  | operator => exact absurd rfl hkind
  | name =>
    by_cases hkeyword : ∃ k : Keyword, String.ofList text = k.text
    · obtain ⟨k, hk⟩ := hkeyword
      refine ⟨.keyword k, ?_⟩
      rw [Operand.token, ← hk, String.toList_ofList]
    · exact ⟨.path text fun k hk => hkeyword ⟨k, hk⟩, rfl⟩

theorem operandOf_overlong {t : Token} (ht : Token.IsNumber t.text) (h : t.Overlong) :
    operandOf t = .error (.numberTooLong (t.text.countP Text.isDigit)) := by
  obtain ⟨kind, text⟩ := t
  obtain ⟨rfl, hpoint, hlong⟩ := h
  dsimp only at ht hpoint hlong
  cases ht with
  | @whole sign ds hsign hne hds =>
    have hcount : (sign ++ ds).countP Text.isDigit = ds.length := by
      have hnone : sign.countP Text.isDigit = 0 := by rcases hsign with rfl | rfl <;> decide
      rw [List.countP_append, hnone, List.countP_eq_length.2 hds, Nat.zero_add]
    rw [hcount] at hlong ⊢
    show (number (sign ++ ds)).map Expr.literal = _
    have hpoint' : (sign ++ ds).contains '.' = false := by simpa using hpoint
    simp only [number, hpoint', Bool.false_eq_true, if_false, Numeral.readInt_overlong hsign hds hlong]
    rfl
  | decimal => exact absurd (by simp) hpoint

/-- **A token is read as an operand** just if it is one; else it is malformed, or an integer that is too long -/
theorem operandOf_cases {t : Token} (ht : t.kind = .number → Token.IsNumber t.text) :
    (∃ o : Operand, o.token = t) ∨ (∃ f, operandOf t = .error f ∧ f.isMalformed = true) ∨ t.Overlong := by
  by_cases hkind : t.kind = .operator
  · refine .inr (.inl ⟨.unexpectedOperator (textOf t), ?_, rfl⟩)
    rw [operandOf, hkind]
  · by_cases hlong : t.Overlong
    · exact .inr (.inr hlong)
    · exact .inl (exists_operand (Token.fits_of_not_overlong ht hlong) hkind)

/-! ## What is derived is read -/

/-- tokens are read as an expression up to the rest -/
def Reads {ts : List Token} (x : Except Fault (Expr × Left ts)) (e : Expr) (rest : List Token) : Prop :=
  ∃ h : rest.length < ts.length, x = .ok (e, ⟨rest, h⟩)

theorem reads_parseOperand (o : Operand) (rest : List Token) :
    Reads (parseOperand (o.token :: rest)) o.tree rest := by
  refine ⟨Nat.lt_succ_self _, ?_⟩
  rw [parseOperand, operandOf_token]
  rfl

theorem reads_parseCompare (c : Compared) {rest : List Token} (hrest : c.Stops rest) :
    Reads (parseCompare (c.yield ++ rest)) c.tree rest := by
  cases c with
  | operand o =>
    obtain ⟨hlt, hread⟩ := reads_parseOperand o rest
    refine ⟨hlt, ?_⟩
    show parseCompare (o.token :: rest) = _
    rw [parseCompare, hread]
    cases rest with
    | nil => rfl
    | cons t rest =>
      have hno : comparison? t = none := hrest t rfl
      dsimp only
      rw [hno]
      rfl
  | comparison left how right =>
    obtain ⟨hleft, hreadLeft⟩ := reads_parseOperand left (how.token :: right.token :: rest)
    obtain ⟨hright, hreadRight⟩ := reads_parseOperand right rest
    refine ⟨by simp only [Compared.yield, List.length_append, List.length_cons]; omega, ?_⟩
    show parseCompare (left.token :: how.token :: right.token :: rest) = _
    rw [parseCompare, hreadLeft]
    dsimp only
    rw [comparison?_token, hreadRight]
    rfl

/-- **Completeness**: what a derivation yields is read as what it stands for, up to its end -/
theorem reads_parseExpr (d : Derivation) {rest : List Token} (hrest : d.Ends rest) :
    Reads (parseExpr (d.yield ++ rest)) d.tree rest := by
  induction d generalizing rest with
  | compared c =>
    obtain ⟨hlt, hread⟩ := reads_parseCompare c hrest.1
    refine ⟨hlt, ?_⟩
    show parseExpr (c.yield ++ rest) = _
    rw [parseExpr, hread]
    cases rest with
    | nil => rfl
    | cons t rest =>
      have hno : isOperator t ['?'] = false := by
        rw [← Bool.not_eq_true, isOperator_question]
        exact hrest.2 t rfl
      dsimp only
      rw [hno]
      rfl
  | ternary c a b iha ihb =>
    obtain ⟨hc, hreadC⟩ := reads_parseCompare c (c.stops_question (a.yield ++ colon :: (b.yield ++ rest)))
    obtain ⟨ha, hreadA⟩ := iha (a.ends_colon (b.yield ++ rest))
    obtain ⟨hb, hreadB⟩ := ihb hrest
    have hyield : (Derivation.ternary c a b).yield ++ rest =
        c.yield ++ question :: (a.yield ++ colon :: (b.yield ++ rest)) := by
      simp [Derivation.yield]
    rw [hyield]
    refine ⟨by simp only [List.length_append, List.length_cons]; omega, ?_⟩
    rw [parseExpr, hreadC]
    dsimp only
    rw [if_pos (isOperator_question.2 rfl), hreadA]
    dsimp only
    rw [expectOperator_colon]
    dsimp only
    rw [hreadB]
    rfl

/-! ## Where an operand is due -/

/-- after these tokens an expression may go on with an operand -/
def Awaits (before : List Token) : Prop :=
  ∃ (d : Derivation) (o : Operand) (after : List Token), d.yield = before ++ o.token :: after

namespace Awaits

theorem nil : Awaits [] := ⟨.compared (.operand (.keyword .null)), .keyword .null, [], rfl⟩

theorem comparison (left : Operand) (how : Comparison) : Awaits [left.token, how.token] :=
  ⟨.compared (.comparison left how (.keyword .null)), .keyword .null, [], rfl⟩

variable {before : List Token}

theorem whenTrue (c : Compared) (h : Awaits before) : Awaits (c.yield ++ question :: before) := by
  obtain ⟨d, o, after, hd⟩ := h
  refine ⟨.ternary c d (.compared (.operand (.keyword .null))), o,
    after ++ colon :: [(Operand.keyword .null).token], ?_⟩
  simp [Derivation.yield, Compared.yield, hd]

theorem whenFalse (c : Compared) (a : Derivation) (h : Awaits before) :
    Awaits (c.yield ++ question :: (a.yield ++ colon :: before)) := by
  obtain ⟨d, o, after, hd⟩ := h
  exact ⟨.ternary c a d, o, after, by simp [Derivation.yield, hd]⟩

end Awaits

/-- read from the left, the tokens come to this one where an operand is due -/
def ComesTo (ts : List Token) (t : Token) : Prop := ∃ before after, ts = before ++ t :: after ∧ Awaits before

namespace ComesTo

variable {ts : List Token} {t : Token}

theorem mem (h : ComesTo ts t) : t ∈ ts := by
  obtain ⟨before, after, rfl, -⟩ := h
  exact List.mem_append_right before List.mem_cons_self

theorem whenTrue (c : Compared) (h : ComesTo ts t) : ComesTo (c.yield ++ question :: ts) t := by
  obtain ⟨before, after, rfl, hawaits⟩ := h
  exact ⟨c.yield ++ question :: before, after, by simp, hawaits.whenTrue c⟩

theorem whenFalse (c : Compared) (a : Derivation) (h : ComesTo ts t) :
    ComesTo (c.yield ++ question :: (a.yield ++ colon :: ts)) t := by
  obtain ⟨before, after, rfl, hawaits⟩ := h
  exact ⟨c.yield ++ question :: (a.yield ++ colon :: before), after, by simp, hawaits.whenFalse c a⟩

end ComesTo

/-! ## What is read is derived -/

/-- a fault in the first branch is the fault of the whole -/
theorem parseExpr_whenTrue_fault (c : Compared) {inner : List Token} {f : Fault} (hf : parseExpr inner = .error f) :
    parseExpr (c.yield ++ question :: inner) = .error f := by
  obtain ⟨hlt, hread⟩ := reads_parseCompare c (c.stops_question inner)
  rw [parseExpr, hread]
  dsimp only
  rw [if_pos (isOperator_question.2 rfl), hf]

/-- a colon has to be between the branches -/
theorem parseExpr_colon_fault (c : Compared) (a : Derivation) {rest : List Token} {f : Fault} (hends : a.Ends rest)
    (hf : expectOperator [':'] rest = .error f) : parseExpr (c.yield ++ question :: (a.yield ++ rest)) = .error f := by
  obtain ⟨hlt, hread⟩ := reads_parseCompare c (c.stops_question (a.yield ++ rest))
  obtain ⟨ha, hreadA⟩ := reads_parseExpr a hends
  rw [parseExpr, hread]
  dsimp only
  rw [if_pos (isOperator_question.2 rfl), hreadA]
  dsimp only
  rw [hf]

/-- a fault in the second branch is the fault of the whole -/
theorem parseExpr_whenFalse_fault (c : Compared) (a : Derivation) {tail : List Token} {f : Fault}
    (hf : parseExpr tail = .error f) : parseExpr (c.yield ++ question :: (a.yield ++ colon :: tail)) = .error f := by
  obtain ⟨hlt, hread⟩ := reads_parseCompare c (c.stops_question (a.yield ++ colon :: tail))
  obtain ⟨ha, hreadA⟩ := reads_parseExpr a (a.ends_colon tail)
  rw [parseExpr, hread]
  dsimp only
  rw [if_pos (isOperator_question.2 rfl), hreadA]
  dsimp only
  rw [expectOperator_colon]
  dsimp only
  rw [hf]

/-- the tokens begin with a comparison that ends there; or they are not read, and the fault is one of form, or they
come to an integer that is too long -/
theorem parseCompare_cases {ts : List Token} (hts : ∀ t ∈ ts, t.kind = .number → Token.IsNumber t.text) :
    (∃ c : Compared, ∃ rest, ts = c.yield ++ rest ∧ c.Stops rest) ∨
      (∃ f, parseCompare ts = .error f ∧ f.isMalformed = true) ∨ ∃ t, t.Overlong ∧ ComesTo ts t := by
  cases ts with
  | nil => exact .inr (.inl ⟨.unexpectedEnd, rfl, rfl⟩)
  | cons t rest =>
    rcases operandOf_cases (hts t List.mem_cons_self) with ⟨left, rfl⟩ | ⟨f, hf, hmalformed⟩ | hlong
    · cases hnext : rest.head?.bind comparison? with
      | none =>
        refine .inl ⟨.operand left, rest, rfl, fun u hu => ?_⟩
        rw [Option.mem_def.1 hu] at hnext
        exact hnext
      | some how =>
        -- an operator is next, and behind it has to be an operand
        obtain ⟨u, hu, hhow⟩ := Option.bind_eq_some_iff.1 hnext
        obtain ⟨rest, rfl⟩ := List.head?_eq_some_iff.1 hu
        obtain rfl : u = how.token := comparison?_eq_some hhow
        obtain ⟨hlt, hread⟩ := reads_parseOperand left (how.token :: rest)
        have hfault : ∀ f, parseOperand rest = .error f →
            parseCompare (left.token :: how.token :: rest) = .error f := by
          intro f hf
          rw [parseCompare, hread]
          dsimp only
          rw [comparison?_token, hf]
        cases rest with
        | nil => exact .inr (.inl ⟨.unexpectedEnd, hfault _ rfl, rfl⟩)
        | cons v rest =>
          rcases operandOf_cases (hts v (by simp)) with ⟨right, rfl⟩ | ⟨f, hf, hmalformed⟩ | hlong
          · exact .inl ⟨.comparison left how right, rest, rfl, trivial⟩
          · refine .inr (.inl ⟨f, hfault f ?_, hmalformed⟩)
            rw [parseOperand, hf]
            rfl
          · exact .inr (.inr ⟨v, hlong, [left.token, how.token], rest, rfl, .comparison left how⟩)
    · refine .inr (.inl ⟨f, ?_, hmalformed⟩)
      rw [parseCompare, parseOperand, hf]
      rfl
    · exact .inr (.inr ⟨t, hlong, [], rest, rfl, .nil⟩)

/-- **Soundness**: the tokens begin with a derivation that ends there; or they are not read, and the fault is one of
form, or they come to an integer that is too long -/
theorem parseExpr_outcome (ts : List Token) (hts : ∀ t ∈ ts, t.kind = .number → Token.IsNumber t.text) :
    (∃ d : Derivation, ∃ rest, ts = d.yield ++ rest ∧ d.Ends rest) ∨
      (∃ f, parseExpr ts = .error f ∧ f.isMalformed = true) ∨ ∃ t, t.Overlong ∧ ComesTo ts t := by
  rcases parseCompare_cases hts with ⟨c, rest, rfl, hstops⟩ | ⟨f, hf, hmalformed⟩ | hlong
  · obtain ⟨hlt, hread⟩ := reads_parseCompare c hstops
    by_cases hbranch : ∀ t ∈ rest.head?, t ≠ question
    · exact .inl ⟨.compared c, rest, rfl, hstops, hbranch⟩
    · obtain ⟨inner, rfl⟩ : ∃ inner, rest = question :: inner := by
        simp only [not_forall, not_not] at hbranch
        obtain ⟨t, ht, rfl⟩ := hbranch
        exact List.head?_eq_some_iff.1 ht
      have hinner : ∀ t ∈ inner, t.kind = .number → Token.IsNumber t.text := fun t ht => hts t (by simp [ht])
      have : inner.length < (c.yield ++ question :: inner).length := Nat.lt_trans (Nat.lt_succ_self _) hlt
      -- the first branch, then a colon, then the second branch
      rcases parseExpr_outcome inner hinner with ⟨a, rest, rfl, hends⟩ | ⟨f, hf, hmalformed⟩ | ⟨t, hlong, hcomes⟩
      · rcases expectOperator_cases rest with ⟨tail, rfl⟩ | ⟨f, hf, hmalformed⟩
        · have htail : ∀ t ∈ tail, t.kind = .number → Token.IsNumber t.text := fun t ht => hinner t (by simp [ht])
          have : tail.length < (c.yield ++ question :: (a.yield ++ colon :: tail)).length := by
            simp only [List.length_append, List.length_cons]
            omega
          rcases parseExpr_outcome tail htail with ⟨b, rest, rfl, hendsB⟩ | ⟨f, hf, hmalformed⟩ | ⟨t, hlong, hcomes⟩
          · refine .inl ⟨.ternary c a b, rest, ?_, hendsB⟩
            simp [Derivation.yield]
          · exact .inr (.inl ⟨f, parseExpr_whenFalse_fault c a hf, hmalformed⟩)
          · exact .inr (.inr ⟨t, hlong, hcomes.whenFalse c a⟩)
        · exact .inr (.inl ⟨f, parseExpr_colon_fault c a hends hf, hmalformed⟩)
      · exact .inr (.inl ⟨f, parseExpr_whenTrue_fault c hf, hmalformed⟩)
      · exact .inr (.inr ⟨t, hlong, hcomes.whenTrue c⟩)
  · refine .inr (.inl ⟨f, ?_, hmalformed⟩)
    rw [parseExpr, hf]
  · exact .inr (.inr hlong)
termination_by ts.length

/-- without integers that are too long, what is not derived is malformed -/
theorem parseExpr_cases (ts : List Token) (hts : ∀ t ∈ ts, t.Fits) :
    (∃ d : Derivation, ∃ rest, ts = d.yield ++ rest ∧ d.Ends rest) ∨
      ∃ f, parseExpr ts = .error f ∧ f.isMalformed = true := by
  rcases parseExpr_outcome ts fun t ht => (hts t ht).number with h | h | ⟨t, hlong, hcomes⟩
  · exact .inl h
  · exact .inr h
  · exact absurd hlong (hts t hcomes.mem).not_overlong

/-! ## Derivations are unique -/

theorem Comparison.token_injective {how how' : Comparison} (h : how.token = how'.token) : how = how' := by
  have hsame := congrArg comparison? h
  rw [comparison?_token, comparison?_token] at hsame
  exact Option.some.inj hsame

/-- two comparisons that begin the same tokens, and end there, are the same -/
theorem Compared.cut_unique {c c' : Compared} {rest rest' : List Token} (h : c.yield ++ rest = c'.yield ++ rest')
    (hc : c.Stops rest) (hc' : c'.Stops rest') : c = c' ∧ rest = rest' := by
  cases c with
  | operand o =>
    cases c' with
    | operand o' =>
      obtain ⟨ho, hrest⟩ := List.cons.inj h
      rw [Operand.token_injective ho]
      exact ⟨rfl, hrest⟩
    | comparison left how right =>
      -- the first ends before an operator
      obtain ⟨-, rfl⟩ := List.cons.inj h
      have hno := hc how.token rfl
      rw [comparison?_token] at hno
      cases hno
  | comparison left how right =>
    cases c' with
    | operand o' =>
      obtain ⟨-, hrest⟩ := List.cons.inj h
      obtain rfl : how.token :: right.token :: rest = rest' := hrest
      have hno := hc' how.token rfl
      rw [comparison?_token] at hno
      cases hno
    | comparison left' how' right' =>
      obtain ⟨hleft, htail⟩ := List.cons.inj h
      obtain ⟨hhow, htail⟩ := List.cons.inj htail
      obtain ⟨hright, hrest⟩ := List.cons.inj htail
      rw [Operand.token_injective hleft, Comparison.token_injective hhow, Operand.token_injective hright]
      exact ⟨rfl, hrest⟩

/-- **Two derivations** that begin the same tokens, and end there, are the same -/
theorem Derivation.cut_unique {d d' : Derivation} {rest rest' : List Token} (h : d.yield ++ rest = d'.yield ++ rest')
    (hd : d.Ends rest) (hd' : d'.Ends rest') : d = d' ∧ rest = rest' := by
  induction d generalizing d' rest rest' with
  | compared c =>
    cases d' with
    | compared c' =>
      obtain ⟨rfl, hrest⟩ := Compared.cut_unique h hd.1 hd'.1
      exact ⟨rfl, hrest⟩
    | ternary c' a b =>
      have hcut : c.yield ++ rest = c'.yield ++ question :: (a.yield ++ colon :: b.yield ++ rest') := by
        rw [← List.cons_append, ← List.append_assoc]
        exact h
      obtain ⟨-, rfl⟩ := Compared.cut_unique hcut hd.1 (c'.stops_question _)
      exact absurd rfl (hd.2 question rfl)
  | ternary c a b iha ihb =>
    cases d' with
    | compared c' =>
      have hcut : c.yield ++ question :: (a.yield ++ colon :: b.yield ++ rest) = c'.yield ++ rest' := by
        rw [← List.cons_append, ← List.append_assoc]
        exact h
      obtain ⟨-, hrest⟩ := Compared.cut_unique hcut (c.stops_question _) hd'.1
      exact absurd rfl (hd'.2 question (by rw [← hrest]; rfl))
    | ternary c' a' b' =>
      have hcut : c.yield ++ question :: (a.yield ++ colon :: (b.yield ++ rest)) =
          c'.yield ++ question :: (a'.yield ++ colon :: (b'.yield ++ rest')) := by
        simpa [yield] using h
      obtain ⟨rfl, hinner⟩ := Compared.cut_unique hcut (c.stops_question _) (c'.stops_question _)
      obtain ⟨rfl, htail⟩ := iha (List.cons.inj hinner).2 (a.ends_colon _) (a'.ends_colon _)
      have hends' : b'.Ends rest' := hd'
      obtain ⟨rfl, hrest⟩ := ihb (List.cons.inj htail).2 hd hends'
      exact ⟨rfl, hrest⟩

/-! ## Whole lists of tokens -/

theorem Derivation.yield_ne_nil (d : Derivation) : d.yield ≠ [] := by
  have hcompared : ∀ c : Compared, c.yield ≠ [] := by
    intro c
    cases c <;> exact List.cons_ne_nil _ _
  cases d with
  | compared c => exact hcompared c
  | ternary c a b => exact List.append_ne_nil_of_left_ne_nil (hcompared c) _

/-- what a derivation yields is read as what it stands for -/
theorem ofTokens_yield (d : Derivation) : ofTokens d.yield = .ok d.tree := by
  have hreads := reads_parseExpr d d.ends_nil
  rw [List.append_nil] at hreads
  obtain ⟨hlt, hread⟩ := hreads
  rw [ofTokens, List.isEmpty_eq_false_iff.2 d.yield_ne_nil, if_neg Bool.false_ne_true, hread]

/-- **Reading tokens as an expression.** Tokens whose numbers are numbers, and none too long, are read as an expression
just if they are derived as that expression; the derivation is the only one; and what is not derived is malformed. -/
theorem ofTokens_grammar (ts : List Token) (hts : ∀ t ∈ ts, t.Fits) :
    (∀ e, ofTokens ts = .ok e ↔ ∃ d : Derivation, d.yield = ts ∧ d.tree = e) ∧
      (∀ d d' : Derivation, d.yield = ts → d'.yield = ts → d = d') ∧
      ((¬ ∃ d : Derivation, d.yield = ts) → ∃ f, ofTokens ts = .error f ∧ f.isMalformed = true) := by
  have hcomplete : ∀ d : Derivation, d.yield = ts → ofTokens ts = .ok d.tree := by
    intro d hd
    have hreads := reads_parseExpr d d.ends_nil
    rw [List.append_nil, hd] at hreads
    obtain ⟨hlt, hread⟩ := hreads
    have hempty : ts.isEmpty = false := by
      rw [← hd, List.isEmpty_eq_false_iff]
      exact d.yield_ne_nil
    rw [ofTokens, hempty, if_neg Bool.false_ne_true, hread]
  have hsound : (∃ d : Derivation, d.yield = ts) ∨ ∃ f, ofTokens ts = .error f ∧ f.isMalformed = true := by
    cases hts' : ts.isEmpty with
    | true => exact .inr ⟨.empty, by rw [ofTokens, hts', if_pos rfl], rfl⟩
    | false =>
      rcases parseExpr_cases ts hts with ⟨d, rest, hcut, hends⟩ | ⟨f, hf, hmalformed⟩
      · cases rest with
        | nil => exact .inl ⟨d, by rw [hcut, List.append_nil]⟩
        | cons t rest =>
          have hreads := reads_parseExpr d hends
          rw [← hcut] at hreads
          obtain ⟨hlt, hread⟩ := hreads
          refine .inr ⟨.unexpectedToken (textOf t), ?_, rfl⟩
          rw [ofTokens, hts', if_neg Bool.false_ne_true, hread]
      · refine .inr ⟨f, ?_, hmalformed⟩
        rw [ofTokens, hts', if_neg Bool.false_ne_true, hf]
  refine ⟨fun e => ⟨fun he => ?_, ?_⟩, fun d d' hd hd' => ?_, fun hno => hsound.resolve_left hno⟩
  · rcases hsound with ⟨d, hd⟩ | ⟨f, hf, -⟩
    · refine ⟨d, hd, ?_⟩
      rw [hcomplete d hd] at he
      exact Except.ok.inj he
    · rw [hf] at he
      cases he
  · rintro ⟨d, hd, rfl⟩
    exact hcomplete d hd
  · have hsame : d.yield ++ [] = d'.yield ++ [] := by
      rw [hd, hd']
    exact (Derivation.cut_unique hsame d.ends_nil d'.ends_nil).1

namespace Sample

/-- a path compared with a string, then an integer or a ternary -/
def derivation : Derivation :=
  .ternary
    (.comparison (.path "severity".toList (by intro k; cases k <;> decide)) .strictEqual (.string "'high'".toList))
    (.compared (.operand (.number "-12".toList (.int (-12)) (.whole (by decide) (by decide +kernel)))))
    (.ternary (.operand (.keyword .itemIndex)) (.compared (.operand (.keyword .yes)))
      (.compared (.operand (.keyword .null))))

def tokens : List Token :=
  [⟨.name, "severity".toList⟩, ⟨.operator, "===".toList⟩, ⟨.string, "'high'".toList⟩, ⟨.operator, "?".toList⟩,
    ⟨.number, "-12".toList⟩, ⟨.operator, ":".toList⟩, ⟨.name, "itemIndex".toList⟩, ⟨.operator, "?".toList⟩,
    ⟨.name, "true".toList⟩, ⟨.operator, ":".toList⟩, ⟨.name, "null".toList⟩]

end Sample

/-- the tokens of a text with a ternary in the second branch of another -/
theorem ofTokens_grammar_sample :
    Token.scan "severity === 'high' ? -12 : itemIndex ? true : null" = .ok Sample.tokens ∧
      (∀ t ∈ Sample.tokens, t.Fits) ∧
      ofTokens Sample.tokens = .ok (.ternary (.compare (.path "severity") .strictEqual (.literal (.string "high")))
        (.literal (.int (-12))) (.ternary .itemIndex (.literal (.bool true)) (.literal .null))) := by
  have hscan : Token.scan "severity === 'high' ? -12 : itemIndex ? true : null" = .ok Sample.tokens := by
    decide +kernel
  have hfits : ∀ t ∈ Sample.tokens, t.Fits := by
    intro t ht
    refine ⟨Token.scanFrom_isNumber hscan t ht, fun _ _ => ?_⟩
    revert t
    decide
  refine ⟨hscan, hfits, ?_⟩
  exact ((ofTokens_grammar Sample.tokens hfits).1 _).2 ⟨Sample.derivation, by decide, by rfl⟩

end Expr

end ReportPress
