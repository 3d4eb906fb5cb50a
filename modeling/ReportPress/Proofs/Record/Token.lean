import ReportPress.Proofs.Expr.Blanks
import ReportPress.Record.Token
/-!
Expressions in tokens. What is between the braces of a token is read as an expression, and the token is replaced by what
the expression is worth. Where a token ends is not left to the reader of expressions, though: it ends at the first
closing brace, also at one inside a string. So an expression can be put between braces just if it has no closing brace.

- `tokenAt?_eq_some`: the tokens at the start of a text.
- `pieces_enclosed`: an inside between braces is one token just if there is no closing brace in it.
- `evalToken_of_parse`: a token is worth what its inside is worth as an expression.
- `substitute_enclosed`: expressions between braces. `brace_ends_token`: one with closing braces in a string.
-/

namespace ReportPress

namespace Record

/-- a text between the braces of a token -/
def enclosed (inside : String) : String := "\x7b\x7b" ++ inside ++ "\x7d\x7d"

theorem toList_enclosed (inside : String) :
    (enclosed inside).toList = '\x7b' :: '\x7b' :: (inside.toList ++ ['\x7d', '\x7d']) := by
  simp [enclosed]

/-- the tokens at the start of a text: no closing brace inside, and two behind -/
theorem tokenAt?_eq_some {cs inside after : List Char} :
    tokenAt? cs = some (inside, after) ↔
      inside ≠ [] ∧ '\x7d' ∉ inside ∧ cs = '\x7b' :: '\x7b' :: (inside ++ '\x7d' :: '\x7d' :: after) := by
  constructor
  · intro h
    unfold tokenAt? at h
    split at h
    · next rest =>
      split at h
      · next c taken rest' htake hdrop =>
        cases h
        have hwhole := List.takeWhile_append_dropWhile (p := (· != '\x7d')) (l := rest)
        rw [htake, hdrop] at hwhole
        refine ⟨List.cons_ne_nil _ _, fun hmem => ?_, by rw [hwhole]⟩
        rw [← htake] at hmem
        exact absurd (List.mem_takeWhile_imp hmem) (by decide)
      · cases h
    · cases h
  · rintro ⟨hne, hclosed, rfl⟩
    have hopen : ∀ c ∈ inside, (c != '\x7d') = true := fun c hc => bne_iff_ne.2 fun heq => hclosed (heq ▸ hc)
    have htake : (inside ++ '\x7d' :: '\x7d' :: after).takeWhile (· != '\x7d') = inside := by
      rw [List.takeWhile_append_of_pos hopen, List.takeWhile_cons_of_neg (by decide), List.append_nil]
    have hdrop : (inside ++ '\x7d' :: '\x7d' :: after).dropWhile (· != '\x7d') = '\x7d' :: '\x7d' :: after := by
      rw [List.dropWhile_append_of_pos hopen, List.dropWhile_cons_of_neg (by decide)]
    obtain ⟨c, taken, rfl⟩ := List.exists_cons_of_ne_nil hne
    simp only [tokenAt?, htake, hdrop]

/-- a text is one token -/
theorem pieces_eq_token {cs inside : List Char} : pieces cs = [.token inside] ↔ tokenAt? cs = some (inside, []) := by
  constructor
  · intro h
    unfold pieces at h
    split at h
    · next inside' after htoken =>
      obtain ⟨hinside, hafter⟩ := List.cons_eq_cons.1 h
      cases hinside
      have hnil : after = [] := by
        unfold pieces at hafter
        split at hafter
        · cases hafter
        · split at hafter
          · rfl
          · cases hafter
      rw [htoken, hnil]
    · split at h
      · cases h
      · cases h
  · intro h
    have hnil : pieces [] = [] := by
      unfold pieces
      rfl
    unfold pieces
    split
    · next inside' after htoken =>
      rw [h] at htoken
      cases htoken
      rw [hnil]
    · next htoken =>
      rw [h] at htoken
      cases htoken

/-- what is put between braces is the inside of a token just if there is no closing brace in it -/
theorem pieces_enclosed {inside : String} (hne : inside ≠ "") :
    pieces (enclosed inside).toList = [.token inside.toList] ↔ '\x7d' ∉ inside.toList := by
  have hlist : inside.toList ≠ [] := fun hnil => hne (String.toList_eq_nil_iff.1 hnil)
  rw [pieces_eq_token, tokenAt?_eq_some, toList_enclosed]
  exact ⟨fun h => h.2.1, fun h => ⟨hlist, h, rfl⟩⟩

/-- the number of an instance is the same as a token and as an expression -/
theorem parse_itemIndex : Expr.parse "itemIndex" = .ok .itemIndex := by
  have hscan : Expr.Token.scan "itemIndex" = .ok [⟨.name, "itemIndex".toList⟩] := by decide +kernel
  have hread : Expr.ofTokens [⟨.name, "itemIndex".toList⟩] = .ok .itemIndex := by
    unfold Expr.ofTokens Expr.parseExpr
    rfl
  rw [Expr.parse, hscan]
  exact hread

/-- a token is worth what its inside is worth as an expression -/
theorem evalToken_of_parse {inside : String} {e : Expr} (h : Expr.parse inside = .ok e) (scope : Value)
    (index : Option Int) : evalToken inside scope index = Expr.eval (resolve scope) index e := by
  have htrim := Expr.parse_trim h
  unfold evalToken
  dsimp only
  split
  · next i hname =>
    have hnamed : Text.trim inside = "itemIndex" := beq_iff_eq.1 hname
    rw [hnamed, parse_itemIndex] at htrim
    cases htrim
    rfl
  · rw [htrim]

/-- **An expression between braces.** The braces enclose it in one token just if there is no closing brace in it; then
the token is replaced by what the expression is worth, for every record and every instance. -/
theorem substitute_enclosed {s : String} {e : Expr} (h : Expr.parse s = .ok e) :
    (pieces (enclosed s).toList = [.token s.toList] ↔ '\x7d' ∉ s.toList) ∧
      ('\x7d' ∉ s.toList → ∀ scope index,
        substitute (enclosed s) scope index = (Expr.eval (resolve scope) index e).map displayFound) := by
  have hne : s ≠ "" := by
    rintro rfl
    have hempty : Expr.parse "" = .error .empty := by
      have hscan : Expr.Token.scan "" = .ok [] := by decide +kernel
      rw [Expr.parse, hscan]
      rfl
    rw [hempty] at h
    cases h
  refine ⟨pieces_enclosed hne, fun hclosed scope index => ?_⟩
  rw [substitute, (pieces_enclosed hne).2 hclosed, fill, String.ofList_toList, evalToken_of_parse h]
  cases Expr.eval (resolve scope) index e with
  | error f => rfl
  | ok found =>
    show Except.ok (String.ofList ((displayFound found).toList ++ [])) = Except.ok (displayFound found)
    rw [List.append_nil, String.ofList_toList]

/-- a comparison with blanks around it, over a record in which it holds -/
theorem substitute_enclosed_sample :
    substitute (enclosed " level == 'high' ") (.object .record [("level", .string "high")]) none = .ok "true" := by
  have hscan : Expr.Token.scan " level == 'high' " =
      .ok [⟨.name, "level".toList⟩, ⟨.operator, "==".toList⟩, ⟨.string, "'high'".toList⟩] := by
    decide +kernel
  have hparse : Expr.parse " level == 'high' " =
      .ok (.compare (.path "level") .looseEqual (.literal (.string "high"))) := by
    rw [Expr.parse, hscan]
    show Expr.ofTokens _ = _
    unfold Expr.ofTokens Expr.parseExpr
    rfl
  rw [(substitute_enclosed hparse).2 (by decide) _ none]
  rfl

/-- a string of two closing braces is an expression, but between braces its first brace ends the token -/
theorem brace_ends_token :
    Expr.parse "\"\x7d\x7d\"" = .ok (.literal (.string "\x7d\x7d")) ∧
      ((Expr.eval (resolve (.object .record [])) none (.literal (.string "\x7d\x7d"))).map displayFound).toOption =
        some "\x7d\x7d" ∧
      (substitute (enclosed "\"\x7d\x7d\"") (.object .record []) none).toOption = some "\"\x7d\x7d" := by
  have hscan : Expr.Token.scan "\"\x7d\x7d\"" = .ok [⟨.string, "\"\x7d\x7d\"".toList⟩] := by decide +kernel
  refine ⟨?_, rfl, by decide +kernel⟩
  rw [Expr.parse, hscan]
  show Expr.ofTokens _ = _
  unfold Expr.ofTokens Expr.parseExpr
  rfl

end Record

end ReportPress
