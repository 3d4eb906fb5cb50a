import ReportPress.Proofs.Effect
import ReportPress.Proofs.Record.Token
/-!
Texts with tokens are gone through once, from left to right. What is replaced is the first token, wherever it starts:
what stands before it is left as it is, what it is worth is not looked at again, and the same is done with the rest of
the text. Tokens are looked for by a search that takes as many characters for an inside as it can and gives them back
one by one until two closing braces follow. As an inside has no closing brace, giving back is of no avail.

- `TokenIn`, `FirstToken`: a token somewhere in a text, and the first one.
- `search?`: the search with its way back. `backtrack?_eq`: no token is found on the way back. `search?_eq_some`: it
  finds the first token.
- `Scanned`: a text and what it comes to. `Scanned.cons`: one more character in front of it. `pieces_first`: how a text
  is taken to pieces.
- `any_isToken_pieces`: a text has tokens if there is one in it. `fill_pieces`: by the recursion on pieces in one
  direction, and by induction on what was scanned in the other.
- `substitute_scans`: substitution as a whole.
-/

namespace ReportPress.Record

/-! ## Tokens in texts -/

/-- a token in a text, with what is before it, inside it and after it -/
structure TokenIn (text before inside after : List Char) : Prop where
  here : text = before ++ '\x7b' :: '\x7b' :: (inside ++ '\x7d' :: '\x7d' :: after)
  ne : inside ≠ []
  closed : '\x7d' ∉ inside

/-- the token that starts first -/
structure FirstToken (text before inside after : List Char) : Prop extends TokenIn text before inside after where
  first : ∀ other inside' after', TokenIn text other inside' after' → before.length ≤ other.length

variable {text before inside after rest : List Char} {c : Char}

theorem tokenIn_nil_iff : TokenIn text [] inside after ↔ tokenAt? text = some (inside, after) := by
  rw [tokenAt?_eq_some]
  exact ⟨fun h => ⟨h.ne, h.closed, h.here⟩, fun ⟨hne, hclosed, hhere⟩ => ⟨hhere, hne, hclosed⟩⟩

theorem TokenIn.cons (h : TokenIn rest before inside after) (c : Char) :
    TokenIn (c :: rest) (c :: before) inside after :=
  ⟨congrArg (c :: ·) h.here, h.ne, h.closed⟩

/-- where no token starts, one starts later on -/
theorem TokenIn.later (h : TokenIn (c :: rest) before inside after) (hnone : tokenAt? (c :: rest) = none) :
    ∃ before', before = c :: before' ∧ TokenIn rest before' inside after := by
  cases before with
  | nil => cases hnone.symm.trans (tokenIn_nil_iff.1 h)
  | cons d before' =>
    obtain ⟨rfl, hrest⟩ := List.cons_eq_cons.1 h.here
    exact ⟨before', rfl, hrest, h.ne, h.closed⟩

theorem not_tokenIn_nil : ¬ TokenIn [] before inside after := fun h => by
  cases (List.append_eq_nil_iff.1 h.here.symm).2

theorem firstToken_nil (h : tokenAt? text = some (inside, after)) : FirstToken text [] inside after :=
  ⟨tokenIn_nil_iff.2 h, fun _ _ _ _ => Nat.zero_le _⟩

theorem FirstToken.cons (h : FirstToken rest before inside after) (hnone : tokenAt? (c :: rest) = none) :
    FirstToken (c :: rest) (c :: before) inside after := by
  refine ⟨h.toTokenIn.cons c, fun other inside' after' hother => ?_⟩
  obtain ⟨other', rfl, hlater⟩ := hother.later hnone
  exact Nat.succ_le_succ (h.first other' inside' after' hlater)

/-- before the first token no token starts -/
theorem FirstToken.tail (h : FirstToken (c :: rest) (c :: before) inside after) :
    tokenAt? (c :: rest) = none ∧ FirstToken rest before inside after := by
  have hnone : tokenAt? (c :: rest) = none := by
    refine Option.eq_none_iff_forall_not_mem.2 fun found hfound => ?_
    exact Nat.not_succ_le_zero _ (h.first [] found.1 found.2 (tokenIn_nil_iff.2 hfound))
  obtain ⟨before', hbefore, htoken⟩ := h.toTokenIn.later hnone
  obtain ⟨-, rfl⟩ := List.cons_eq_cons.1 hbefore
  exact ⟨hnone, htoken, fun other inside' after' hother => Nat.le_of_succ_le_succ (h.first _ _ _ (hother.cons c))⟩

/-! ## Looking for a token -/

/-- all ways to take one or more characters that are no closing brace, the longest first, with what is left -/
def runs : List Char → List (List Char × List Char)
  | [] => []
  | c :: rest =>
    if c = '\x7d' then [] else (runs rest).map (fun way => (c :: way.1, way.2)) ++ [([c], rest)]

/-- what comes after two closing braces -/
def closing? : List Char → Option (List Char)
  | '\x7d' :: '\x7d' :: after => some after
  | _ => none

/-- a token that starts here: the first way to take its inside that two closing braces follow -/
def backtrack? : List Char → Option (List Char × List Char)
  | '\x7b' :: '\x7b' :: rest => (runs rest).findSome? fun way => (closing? way.2).map (way.1, ·)
  | _ => none

/-- the first place where a token starts, told by what is before it, and the token -/
def search? (text : List Char) : Option (List Char × List Char × List Char) :=
  match backtrack? text, text with
  | some (inside, after), _ => some ([], inside, after)
  | none, [] => none
  | none, c :: rest => (search? rest).map fun found => (c :: found.1, found.2)

theorem closing?_eq_some : closing? text = some after ↔ text = '\x7d' :: '\x7d' :: after := by
  constructor
  · intro h
    unfold closing? at h
    split at h
    · cases h
      rfl
    · cases h
  · rintro rfl
    rfl

theorem mem_runs {way : List Char × List Char} :
    way ∈ runs text ↔ way.1 ≠ [] ∧ '\x7d' ∉ way.1 ∧ text = way.1 ++ way.2 := by
  induction text generalizing way with
  | nil => exact ⟨fun h => absurd h List.not_mem_nil, fun ⟨hne, _, h⟩ => absurd (List.append_eq_nil_iff.1 h.symm).1 hne⟩
  | cons c rest ih =>
    unfold runs
    split
    · next hclosing =>
      refine ⟨fun h => absurd h List.not_mem_nil, fun ⟨hne, hclosed, htext⟩ => ?_⟩
      obtain ⟨d, taken, hway⟩ := List.exists_cons_of_ne_nil hne
      rw [hway] at htext hclosed
      obtain ⟨rfl, -⟩ := List.cons_eq_cons.1 htext
      exact absurd (hclosing ▸ List.mem_cons_self) hclosed
    · next hopen =>
      rw [List.mem_append, List.mem_map, List.mem_singleton]
      constructor
      · rintro (⟨shorter, hshorter, rfl⟩ | rfl)
        · obtain ⟨-, hclosed, rfl⟩ := ih.1 hshorter
          exact ⟨List.cons_ne_nil _ _, List.not_mem_cons_of_ne_of_not_mem (Ne.symm hopen) hclosed, rfl⟩
        · exact ⟨List.cons_ne_nil _ _, List.not_mem_cons_of_ne_of_not_mem (Ne.symm hopen) List.not_mem_nil, rfl⟩
      · rintro ⟨hne, hclosed, htext⟩
        obtain ⟨taken, left⟩ := way
        obtain ⟨d, taken', rfl⟩ := List.exists_cons_of_ne_nil hne
        obtain ⟨rfl, rfl⟩ := List.cons_eq_cons.1 htext
        by_cases hlast : taken' = []
        · exact .inr (by rw [hlast]; rfl)
        · exact .inl ⟨(taken', left), ih.2 ⟨hlast, fun h => hclosed (List.mem_cons_of_mem c h), rfl⟩, rfl⟩

theorem backtrack?_sound (h : backtrack? text = some (inside, after)) : tokenAt? text = some (inside, after) := by
  unfold backtrack? at h
  split at h
  · next rest =>
    obtain ⟨way, hway, hfound⟩ := List.exists_of_findSome?_eq_some h
    obtain ⟨left, hleft, hpair⟩ := Option.map_eq_some_iff.1 hfound
    obtain ⟨hne, hclosed, rfl⟩ := mem_runs.1 hway
    cases hpair
    rw [closing?_eq_some.1 hleft]
    exact tokenAt?_eq_some.2 ⟨hne, hclosed, rfl⟩
  · cases h

/-- **No token is found on the way back**: the search finds the one that ends at the first closing brace, or none -/
theorem backtrack?_eq (text : List Char) : backtrack? text = tokenAt? text := by
  cases hback : backtrack? text with
  | some found => exact (backtrack?_sound hback).symm
  | none =>
    refine (Option.eq_none_iff_forall_not_mem.2 fun found hfound => ?_).symm
    obtain ⟨hne, hclosed, rfl⟩ := tokenAt?_eq_some.1 hfound
    have hway : (found.1, '\x7d' :: '\x7d' :: found.2) ∈ runs (found.1 ++ '\x7d' :: '\x7d' :: found.2) :=
      mem_runs.2 ⟨hne, hclosed, rfl⟩
    cases List.findSome?_eq_none_iff.1 hback _ hway

theorem FirstToken.before_eq_nil (h : FirstToken text before inside after) {found : List Char × List Char}
    (htoken : tokenAt? text = some found) : before = [] :=
  List.eq_nil_of_length_eq_zero (Nat.eq_zero_of_le_zero (h.first [] found.1 found.2 (tokenIn_nil_iff.2 htoken)))

/-- **The search** finds the token that starts first -/
theorem search?_eq_some : search? text = some (before, inside, after) ↔ FirstToken text before inside after := by
  induction text generalizing before with
  | nil => exact ⟨fun h => (by cases h), fun h => absurd h.toTokenIn not_tokenIn_nil⟩
  | cons c rest ih =>
    unfold search?
    rw [backtrack?_eq]
    cases htoken : tokenAt? (c :: rest) with
    | some found =>
      constructor
      · intro h
        cases h
        exact firstToken_nil htoken
      · intro h
        obtain rfl := h.before_eq_nil htoken
        obtain rfl := Option.some.inj (htoken.symm.trans (tokenIn_nil_iff.1 h.toTokenIn))
        rfl
    | none =>
      constructor
      · intro h
        obtain ⟨⟨before', inside', after'⟩, hlater, hpair⟩ := Option.map_eq_some_iff.1 h
        cases hpair
        exact (ih.1 hlater).cons htoken
      · intro h
        obtain ⟨before', rfl, -⟩ := h.toTokenIn.later htoken
        exact Option.map_eq_some_iff.2 ⟨_, ih.2 h.tail.2, rfl⟩

/-! ## Texts that are gone through -/

/-- what a text comes to if its first token is replaced by what it is worth, and after it the same is done again; a text
without tokens stays as it is -/
inductive Scanned (worth : List Char → List Char → Prop) : List Char → List Char → Prop
  | plain {text : List Char} (hnone : ∀ before inside after, ¬ TokenIn text before inside after) :
      Scanned worth text text
  | token {text before inside after shown rest : List Char} (hfirst : FirstToken text before inside after)
      (hshown : worth inside shown) (hrest : Scanned worth after rest) : Scanned worth text (before ++ shown ++ rest)

/-- a character at which no token starts goes in front of what the rest comes to -/
theorem Scanned.cons {worth : List Char → List Char → Prop} {out : List Char} (h : Scanned worth rest out)
    (hnone : tokenAt? (c :: rest) = none) : Scanned worth (c :: rest) (c :: out) := by
  cases h with
  | plain hplain =>
    refine .plain fun before inside after htoken => ?_
    obtain ⟨before', -, hlater⟩ := htoken.later hnone
    exact hplain before' inside after hlater
  | token hfirst hshown hrest => exact .token (hfirst.cons hnone) hshown hrest

theorem pieces_of_token (h : tokenAt? text = some (inside, after)) : pieces text = .token inside :: pieces after := by
  rw [pieces]
  split
  · next inside' after' h' =>
    cases h.symm.trans h'
    rfl
  · next h' => cases h.symm.trans h'

theorem pieces_of_none (h : tokenAt? (c :: rest) = none) : pieces (c :: rest) = .plain c :: pieces rest := by
  rw [pieces]
  split
  · next h' => cases h.symm.trans h'
  · rfl

/-- **Up to its first token** a text is taken to pieces character by character -/
theorem pieces_first (h : FirstToken text before inside after) :
    pieces text = before.map .plain ++ .token inside :: pieces after := by
  induction before generalizing text with
  | nil => exact pieces_of_token (tokenIn_nil_iff.1 h.toTokenIn)
  | cons c before ih =>
    obtain ⟨rest, rfl⟩ : ∃ rest, text = c :: rest := ⟨_, h.here⟩
    rw [pieces_of_none h.tail.1, ih h.tail.2]
    rfl

/-- a text has tokens just if there is one somewhere in it -/
theorem any_isToken_pieces (text : List Char) :
    (pieces text).any Piece.isToken = true ↔ ∃ before inside after, TokenIn text before inside after := by
  fun_induction pieces text with
  | case1 text inside after htoken hlt ih =>
    exact ⟨fun _ => ⟨[], inside, after, tokenIn_nil_iff.2 htoken⟩, fun _ => rfl⟩
  | case2 hnone => exact ⟨fun h => (by cases h), fun ⟨_, _, _, h⟩ => absurd h not_tokenIn_nil⟩
  | case3 c rest hnone ih =>
    rw [List.any_cons, Piece.isToken, Bool.false_or, ih]
    constructor
    · rintro ⟨before, inside, after, h⟩
      exact ⟨c :: before, inside, after, h.cons c⟩
    · rintro ⟨before, inside, after, h⟩
      obtain ⟨before', -, hlater⟩ := h.later hnone
      exact ⟨before', inside, after, hlater⟩

/-- a text without an opening brace has no tokens -/
theorem hasTokens_of_no_brace {s : String} (h : '\x7b' ∉ s.toList) : hasTokens s = false := by
  refine Bool.eq_false_iff.2 fun htokens => h ?_
  obtain ⟨before, inside, after, htoken⟩ := (any_isToken_pieces s.toList).1 htokens
  rw [htoken.here]
  exact List.mem_append_right _ List.mem_cons_self

/-! ## Substitution -/

/-- what the inside of a token is worth, as a text -/
def Worth (scope : Value) (index : Option Int) (inside shown : List Char) : Prop :=
  ∃ found, evalToken (String.ofList inside) scope index = .ok found ∧ shown = (displayFound found).toList

variable {scope : Value} {index : Option Int}

/-- between tokens, characters stand for themselves -/
theorem fill_pieces_of_no_tokens (scope : Value) (index : Option Int) {cs : List Char}
    (h : (pieces cs).any Piece.isToken = false) : fill scope index (pieces cs) = .ok cs := by
  fun_induction pieces cs with
  | case1 cs inside after htoken hlt ih => simp [Piece.isToken] at h
  | case2 hnone => rfl
  | case3 c rest hnone ih =>
    rw [List.any_cons, Bool.or_eq_false_iff] at h
    rw [fill, ih h.2]
    rfl

/-- **A text without tokens** is left as it is, whatever the record -/
theorem substitute_of_no_tokens {s : String} (h : hasTokens s = false) (scope : Value) (index : Option Int) :
    substitute s scope index = .ok s := by
  rw [substitute, fill_pieces_of_no_tokens scope index h]
  exact congrArg Except.ok String.ofList_toList

theorem fill_plain (before : List Char) (later : List Piece) :
    fill scope index (before.map .plain ++ later) = (fill scope index later).map (before ++ ·) := by
  induction before with
  | nil =>
    rw [List.map_nil, List.nil_append]
    cases fill scope index later with
    | error f => rfl
    | ok out => rfl
  | cons c before ih =>
    rw [List.map_cons, List.cons_append, fill, ih]
    cases fill scope index later with
    | error f => rfl
    | ok out => rfl

theorem fill_token {inside out : List Char} {later : List Piece} :
    fill scope index (.token inside :: later) = .ok out ↔
      ∃ shown rest, Worth scope index inside shown ∧ fill scope index later = .ok rest ∧ out = shown ++ rest := by
  rw [fill]
  unfold Worth
  cases heval : evalToken (String.ofList inside) scope index with
  | error f => simp
  | ok found =>
    cases fill scope index later with
    | error f => simp [Except.map]
    | ok rest => simp [Except.map, eq_comm]

/-- **What a text comes to**, piece by piece, is what it comes to from one first token to the next -/
theorem fill_pieces (text out : List Char) :
    fill scope index (pieces text) = .ok out ↔ Scanned (Worth scope index) text out := by
  constructor
  · intro h
    fun_induction pieces text generalizing out with
    | case1 text inside after htoken hlt ih =>
      obtain ⟨shown, rest, hshown, hrest, rfl⟩ := fill_token.1 h
      have hscanned := Scanned.token (firstToken_nil htoken) hshown (ih rest hrest)
      rwa [List.nil_append] at hscanned
    | case2 hnone =>
      cases h
      exact .plain fun _ _ _ => not_tokenIn_nil
    | case3 c rest hnone ih =>
      unfold fill at h
      cases hrest : fill scope index (pieces rest) with
      | error f =>
        rw [hrest] at h
        cases h
      | ok out' =>
        rw [hrest] at h
        cases h
        exact (ih out' hrest).cons hnone
  · intro h
    induction h with
    | plain hnone =>
      refine fill_pieces_of_no_tokens scope index (Bool.eq_false_iff.2 fun hany => ?_)
      obtain ⟨before, inside, after, htoken⟩ := (any_isToken_pieces _).1 hany
      exact hnone before inside after htoken
    | token hfirst hshown _ ih =>
      rw [pieces_first hfirst, fill_plain, fill_token.2 ⟨_, _, hshown, ih, rfl⟩, List.append_assoc]
      rfl

/-- **Substitution** goes through a text once, from left to right: it replaces the first token, as a search with a way
back finds it, leaves what is before it as it is, and goes on after it. A text has tokens just if there is one somewhere
in it, and is left as it is otherwise. -/
theorem substitute_scans (s : String) :
    (∀ scope index t, substitute s scope index = .ok t ↔ Scanned (Worth scope index) s.toList t.toList) ∧
      (∀ text before inside after, search? text = some (before, inside, after) ↔ FirstToken text before inside after) ∧
      (hasTokens s = true ↔ ∃ before inside after, TokenIn s.toList before inside after) ∧
      (hasTokens s = false → ∀ scope index, substitute s scope index = .ok s) := by
  refine ⟨fun scope index t => ?_, fun _ _ _ _ => search?_eq_some, any_isToken_pieces s.toList, substitute_of_no_tokens⟩
  rw [← fill_pieces, substitute]
  cases fill scope index (pieces s.toList) with
  | error f => exact ⟨fun h => (by cases h), fun h => (by cases h)⟩
  | ok out =>
    constructor
    · intro h
      cases h
      rw [String.toList_ofList]
    · intro h
      cases h
      exact congrArg Except.ok String.ofList_toList

namespace Noted

def remarks : Value := .object .record [("note", .string "\x7b\x7bn\x7d\x7d"), ("n", .int 2)]

/-- two tokens next to each other, a brace behind them, and braces with nothing between them -/
def twoTokens : String := "\x7b\x7b note \x7d\x7d\x7b\x7bn\x7d\x7d\x7d \x7b\x7b\x7d\x7d"

/-- braces with nothing between them, and braces with a closing one too early -/
def noToken : String := "\x7b\x7b\x7d\x7d \x7b\x7ba\x7db\x7d\x7d"

end Noted

/-- a value that looks like a token is not replaced, and no more are braces that enclose none -/
theorem substitute_scans_sample :
    substitute Noted.twoTokens Noted.remarks none = .ok "\x7b\x7bn\x7d\x7d2\x7d \x7b\x7b\x7d\x7d" ∧
      Scanned (Worth Noted.remarks none) Noted.twoTokens.toList "\x7b\x7bn\x7d\x7d2\x7d \x7b\x7b\x7d\x7d".toList ∧
      hasTokens Noted.noToken = false ∧
      substitute Noted.noToken Noted.remarks none = .ok Noted.noToken := by
  have hrun : substitute Noted.twoTokens Noted.remarks none = .ok "\x7b\x7bn\x7d\x7d2\x7d \x7b\x7b\x7d\x7d" :=
    Effect.except_eq_ok (by decide +kernel)
  have hnone : hasTokens Noted.noToken = false := by decide +kernel
  have hscans := (substitute_scans Noted.twoTokens).1 Noted.remarks none
  have hplain := (substitute_scans Noted.noToken).2.2.2 hnone Noted.remarks none
  exact ⟨hrun, (hscans _).1 hrun, hnone, hplain⟩

end ReportPress.Record
