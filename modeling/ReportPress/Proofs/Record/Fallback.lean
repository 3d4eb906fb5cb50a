import ReportPress.Proofs.Effect
import ReportPress.Proofs.Expr.Overlong
import ReportPress.Proofs.Record.Path
import ReportPress.Proofs.Record.Token
import ReportPress.Proofs.Text.Trim
/-!
Tokens that are no expressions. What is between the braces is looked up as a path if it is no expression, and looked up
as a path, too, if it is an expression that is one. Both ways lead to the same value: the names that an expression reads
leave nothing of the text out and change nothing of it, so the path that it reads is the text itself.

- `parse_trim_path`: what is read as a path is that path.
- `evalToken_of_path`, `evalToken_of_error`: the two ways.
- `evalToken_paths`: they agree, and only other expressions are worth anything else.
- `malformed_degrades`: every text that is no expression is looked up as a path, unless it comes to an integer that is
  too long; then the fault is told instead, as `overlong_not_looked_up` shows of a text that is no expression either.
- `Failure.IsOfToken`: the two ways in which tokens fail, each about a value, so that a style is let off for them.
  `substitute_error`, `styleValue_error`: texts and style entries fail as the tokens in them do.
  `styleValue_of_no_tokens`: an entry without tokens does not fail.
-/

namespace ReportPress

namespace Expr

/-! ## Texts that are read as paths -/

theorem Operand.token_of_path {o : Operand} {p : String} (h : o.tree = .path p) : o.token = ⟨.name, p.toList⟩ := by
  cases o with
  | path text hword =>
    cases h
    rw [Operand.token, String.toList_ofList]
  | keyword k => cases k <;> cases h
  | _ => cases h

/-- only a single name is derived as a path -/
theorem Derivation.yield_of_path {d : Derivation} {p : String} (h : d.tree = .path p) :
    d.yield = [⟨.name, p.toList⟩] := by
  cases d with
  | ternary => cases h
  | compared c =>
    cases c with
    | comparison => cases h
    | operand o =>
      show [o.token] = _
      rw [Operand.token_of_path h]

/-- a text that is read as a path is the path with blanks around it -/
theorem parse_eq_path {source p : String} (h : parse source = .ok (.path p)) :
    ∃ before after, source.toList = before ++ p.toList ++ after ∧ Blank before ∧ Blank after := by
  rcases parse_cases source with ⟨ts, d, hscan, hyield, hread⟩ | ⟨f, hf, -⟩ | ⟨digits, hlong⟩
  · rw [h] at hread
    rw [Derivation.yield_of_path (Except.ok.inj hread).symm] at hyield
    subst hyield
    rcases Token.scanFrom_eq_ok.1 hscan with _ | ⟨hnext, hrest⟩
    rcases hrest with ⟨hblank⟩ | _
    exact ⟨_, _, (Token.next?_append hnext).symm, fun c hc => List.mem_takeWhile_imp hc, hblank⟩
  · rw [h] at hf
    cases hf
  · rw [parse_of_comesToOverlong hlong] at h
    cases h

/-- **What is read as a path** is that path -/
theorem parse_trim_path {inside p : String} (h : parse (Text.trim inside) = .ok (.path p)) : p = Text.trim inside := by
  obtain ⟨before, after, hwhole, hbefore, hafter⟩ := parse_eq_path h
  by_cases hempty : Text.trim inside = ""
  · rw [hempty] at hwhole ⊢
    obtain ⟨hfront, -⟩ := List.append_eq_nil_iff.1 hwhole.symm
    exact String.toList_eq_nil_iff.1 (List.append_eq_nil_iff.1 hfront).2
  · -- a blank neither in front nor at the end, so there are none
    have hneat := Text.isNeat_trim hempty
    rw [Text.isNeat, hwhole, Bool.and_eq_true] at hneat
    obtain ⟨hhead, hlast⟩ := hneat
    have hnone : before = [] := by
      cases before with
      | nil => rfl
      | cons c rest =>
        have hc : (!Text.isBlank c) = true := hhead
        rw [hbefore c List.mem_cons_self] at hc
        cases hc
    have hnone' : after = [] := by
      rcases List.eq_nil_or_concat after with rfl | ⟨rest, c, rfl⟩
      · rfl
      · rw [List.concat_eq_append, ← List.append_assoc, List.getLast?_append] at hlast
        have hc : (!Text.isBlank c) = true := hlast
        rw [hafter c (by simp)] at hc
        cases hc
    rw [hnone, hnone', List.nil_append, List.append_nil] at hwhole
    exact (String.toList_inj.1 hwhole).symm

/-- an expression that is worth something without being a path -/
inductive Computes : Expr → Prop
  | literal (v : Value) : Computes (.literal v)
  | itemIndex : Computes .itemIndex
  | compare (left : Expr) (how : Comparison) (right : Expr) : Computes (.compare left how right)
  | ternary (condition whenTrue whenFalse : Expr) : Computes (.ternary condition whenTrue whenFalse)

end Expr

namespace Record

/-! ## The two ways to look a token up -/

variable {inside : String} {scope : Value} {index : Option ℤ}

/-- the number of an instance has a way of its own -/
theorem evalToken_of_ne (h : Expr.parse (Text.trim inside) ≠ .ok .itemIndex) :
    evalToken inside scope index = match Expr.parse (Text.trim inside) with
      | .ok e => Expr.eval (resolve scope) index e
      | .error fault => if fault.isMalformed then resolve scope (Text.trim inside) else .error (.expression fault) := by
  unfold evalToken
  dsimp only
  split
  · next i hname => exact absurd (beq_iff_eq.1 hname ▸ parse_itemIndex) h
  · rfl

theorem evalToken_of_path {p : String} (h : Expr.parse (Text.trim inside) = .ok (.path p)) :
    evalToken inside scope index = resolve scope (Text.trim inside) := by
  rw [evalToken_of_ne (by rw [h]; nofun), h, ← Expr.parse_trim_path h]
  rfl

theorem evalToken_of_error {f : Expr.Fault} (h : Expr.parse (Text.trim inside) = .error f) :
    evalToken inside scope index =
      if f.isMalformed then resolve scope (Text.trim inside) else .error (.expression f) := by
  rw [evalToken_of_ne (by rw [h]; nofun), h]

/-- **Paths, read or looked up.** What is between the braces and is read as a path is that path, so the token is worth
what it leads to; and the same holds of what is no expression, if the token is worth anything. So only a literal, the
number of an instance, a comparison or a ternary is worth anything else. -/
theorem evalToken_paths (inside : String) (scope : Value) (index : Option ℤ) :
    (∀ p, Expr.parse (Text.trim inside) = .ok (.path p) →
      p = Text.trim inside ∧ evalToken inside scope index = resolve scope (Text.trim inside)) ∧
    (∀ f, Expr.parse (Text.trim inside) = .error f → ∀ found, evalToken inside scope index = .ok found →
      resolve scope (Text.trim inside) = .ok found) ∧
    (∀ found, evalToken inside scope index = .ok found → resolve scope (Text.trim inside) ≠ .ok found →
      ∃ e, Expr.parse (Text.trim inside) = .ok e ∧ e.Computes) := by
  have herror : ∀ f, Expr.parse (Text.trim inside) = .error f → ∀ found, evalToken inside scope index = .ok found →
      resolve scope (Text.trim inside) = .ok found := by
    intro f hf found hfound
    rw [evalToken_of_error hf] at hfound
    split at hfound
    · exact hfound
    · cases hfound
  refine ⟨fun p hp => ⟨Expr.parse_trim_path hp, evalToken_of_path hp⟩, herror, fun found hfound hother => ?_⟩
  cases hparse : Expr.parse (Text.trim inside) with
  | error f => exact absurd (herror f hparse found hfound) hother
  | ok e =>
    refine ⟨e, rfl, ?_⟩
    cases e with
    | path p => exact absurd (evalToken_of_path hparse ▸ hfound) hother
    | literal v => exact .literal v
    | itemIndex => exact .itemIndex
    | compare left how right => exact .compare left how right
    | ternary condition whenTrue whenFalse => exact .ternary condition whenTrue whenFalse

namespace Looked

/-- a field with a blank in its name, and a field of a field -/
def record : Value :=
  .object .record [("odd key", .string "value"), ("finding", .object .record [("level", .int 2)])]

/-- so many ones, and a unit -/
def millimetres (n : ℕ) : String := String.ofList (List.replicate n '1' ++ " mm".toList)

end Looked

theorem parse_odd_key : Expr.parse (Text.trim " odd key ") = .error (.unexpectedToken "key") := by
  have hscan : Expr.Token.scan "odd key" = .ok [⟨.name, "odd".toList⟩, ⟨.name, "key".toList⟩] := by decide +kernel
  rw [show Text.trim " odd key " = "odd key" by decide +kernel, Expr.parse, hscan]
  show Expr.ofTokens _ = _
  unfold Expr.ofTokens Expr.parseExpr
  rfl

/-- a path and a text that is no expression, both with blanks around them, and the number of an instance -/
theorem evalToken_paths_sample :
    evalToken " finding.level " Looked.record none = resolve Looked.record "finding.level" ∧
      resolve Looked.record "odd key" = .ok (some (.string "value")) ∧
      ∃ e, Expr.parse "itemIndex" = .ok e ∧ e.Computes := by
  have hscan : Expr.Token.scan "finding.level" = .ok [⟨.name, "finding.level".toList⟩] := by decide +kernel
  have hpath : Expr.parse (Text.trim " finding.level ") = .ok (.path "finding.level") := by
    rw [show Text.trim " finding.level " = "finding.level" by decide +kernel, Expr.parse, hscan]
    show Expr.ofTokens _ = _
    unfold Expr.ofTokens Expr.parseExpr
    rfl
  have hvalue : evalToken " odd key " Looked.record none = .ok (some (.string "value")) := by
    rw [evalToken_of_error parse_odd_key]
    rfl
  have hnumber : evalToken "itemIndex" Looked.record (some 0) = .ok (some (.int 1)) := rfl
  have hother : resolve Looked.record (Text.trim "itemIndex") ≠ .ok (some (.int 1)) := by
    have hnowhere : resolve Looked.record (Text.trim "itemIndex") = .ok none := rfl
    rw [hnowhere]
    exact Except.ok.inj.mt (Option.some_ne_none _).symm
  refine ⟨((evalToken_paths " finding.level " Looked.record none).1 _ hpath).2, ?_, ?_⟩
  · exact (evalToken_paths " odd key " Looked.record none).2.1 _ parse_odd_key _ hvalue
  · exact (evalToken_paths "itemIndex" Looked.record (some 0)).2.2 _ hnumber hother

/-! ## Texts that are no expressions -/

/-- **What is no expression** is looked up as a path: a text is an expression or malformed, whatever it holds, and a
malformed text is looked up. The exception is a text that, read from the left, comes to an integer of more digits than
are converted where an operand is due: then the token fails for the length of the integer. -/
theorem malformed_degrades (inside : String) (scope : Value) (index : Option ℤ) :
    (∀ digits, Expr.parse inside = .error (.numberTooLong digits) ↔ Expr.ComesToOverlong inside digits) ∧
    ((∀ digits, ¬ Expr.ComesToOverlong inside digits) →
      (∃ e, Expr.parse inside = .ok e) ∨ ∃ f, Expr.parse inside = .error f ∧ f.isMalformed = true) ∧
    ((∀ e, Expr.parse (Text.trim inside) ≠ .ok e) →
      ((∀ digits, ¬ Expr.ComesToOverlong (Text.trim inside) digits) →
        evalToken inside scope index = resolve scope (Text.trim inside)) ∧
      ∀ digits, Expr.ComesToOverlong (Text.trim inside) digits →
        evalToken inside scope index = .error (.expression (.numberTooLong digits))) := by
  have hmalformed : ∀ source, (∀ digits, ¬ Expr.ComesToOverlong source digits) →
      (∃ e, Expr.parse source = .ok e) ∨ ∃ f, Expr.parse source = .error f ∧ f.isMalformed = true := by
    intro source hshort
    rcases Expr.parse_cases source with ⟨ts, d, -, -, hread⟩ | h | ⟨digits, hlong⟩
    · exact .inl ⟨d.tree, hread⟩
    · exact .inr h
    · exact absurd hlong (hshort digits)
  refine ⟨fun _ => Expr.parse_eq_numberTooLong, hmalformed inside, fun hno => ⟨fun hshort => ?_, ?_⟩⟩
  · rcases hmalformed _ hshort with ⟨e, he⟩ | ⟨f, hf, hform⟩
    · exact absurd he (hno e)
    · rw [evalToken_of_error hf, if_pos hform]
  · intro digits hlong
    rw [evalToken_of_error (Expr.parse_of_comesToOverlong hlong)]
    rfl

theorem comesToOverlong_millimetres {n : ℕ} (h : Numeral.digitLimit < n) :
    Expr.ComesToOverlong (Looked.millimetres n) n := by
  have hunit : Expr.Token.next? " mm".toList = some (⟨.name, ['m', 'm']⟩, []) := by decide +kernel
  have hones : ∀ c ∈ List.replicate n '1', Text.isDigit c = true := by
    intro c hc
    rw [List.eq_of_mem_replicate hc]
    decide
  have hblank : ∀ c ∈ " mm".toList.head?, Text.isDigit c = false ∧ c ≠ '.' := by
    intro c hc
    rw [← Option.some.inj hc]
    decide
  have hlong := Expr.comesToOverlong_digits hones hblank (by rwa [List.length_replicate]) (.more hunit (.done nofun))
  rwa [List.length_replicate] at hlong

/-- a text that is no expression is looked up, and one that comes to an integer that is too long fails for it -/
theorem malformed_degrades_sample :
    Expr.parse (Looked.millimetres 5000) = .error (.numberTooLong 5000) ∧
      evalToken " odd key " Looked.record none = resolve Looked.record (Text.trim " odd key ") := by
  have hno : ∀ e, Expr.parse (Text.trim " odd key ") ≠ .ok e := by
    intro e he
    rw [parse_odd_key] at he
    cases he
  have hshort : ∀ digits, ¬ Expr.ComesToOverlong (Text.trim " odd key ") digits := by
    intro digits hlong
    have htoo := Expr.parse_of_comesToOverlong hlong
    rw [parse_odd_key] at htoo
    cases htoo
  obtain ⟨hoverlong, -, -⟩ := malformed_degrades (Looked.millimetres 5000) Looked.record none
  obtain ⟨-, -, hlooked⟩ := malformed_degrades " odd key " Looked.record none
  exact ⟨(hoverlong 5000).2 (comesToOverlong_millimetres (by decide)), (hlooked hno).1 hshort⟩

theorem trim_millimetres {n : ℕ} (hn : n ≠ 0) : Text.trim (Looked.millimetres n) = Looked.millimetres n := by
  rw [Text.trim, Looked.millimetres, String.toList_ofList]
  refine congrArg String.ofList (Text.trim_of_edges (fun c hc => ?_) fun c hc => ?_)
  · rw [List.head?_append_of_ne_nil _ (by simpa using hn), List.head?_replicate, if_neg hn] at hc
    cases hc
    decide
  · rw [List.getLast?_append_of_ne_nil _ (by decide)] at hc
    cases hc
    decide

/-- a length that is written with too many digits, and a unit: no expression, but it is not looked up -/
theorem overlong_not_looked_up :
    Expr.parse (Text.trim (Looked.millimetres 4301)) = .error (.numberTooLong 4301) ∧
      evalToken (Looked.millimetres 4301) (.object .record []) none = .error (.expression (.numberTooLong 4301)) ∧
      resolve (.object .record []) (Text.trim (Looked.millimetres 4301)) = .ok none := by
  have hlong : Expr.ComesToOverlong (Text.trim (Looked.millimetres 4301)) 4301 := by
    rw [trim_millimetres (by decide)]
    exact comesToOverlong_millimetres (by decide)
  have hparse := Expr.parse_of_comesToOverlong hlong
  refine ⟨hparse, by rw [evalToken_of_error hparse]; rfl, ?_⟩
  have hchars : (Looked.millimetres 4301).toList = List.replicate 4301 '1' ++ " mm".toList := String.toList_ofList
  rw [trim_millimetres (by decide), resolve_field]
  · rfl
  · intro hempty
    rw [hempty] at hchars
    exact absurd hchars.symm (List.append_ne_nil_of_right_ne_nil _ (by decide))
  · rw [hchars, List.mem_append]
    rintro (hmem | hmem)
    · exact absurd (List.eq_of_mem_replicate hmem) (by decide)
    · exact absurd hmem (by decide)

end Record

/-! ## What tokens fail with -/

/-- a failure of a token -/
inductive Failure.IsOfToken : Failure → Prop
  | path {f : Failure} (h : f.IsOfPath) : IsOfToken f
  | overlong (digits : ℕ) : IsOfToken (.expression (.numberTooLong digits))

/-- both are about a value -/
theorem Failure.IsOfToken.isStyleFault {f : Failure} (h : f.IsOfToken) : f.isStyleFault = true := by
  cases h with
  | path h => cases h <;> rfl
  | overlong digits => rfl

/-- an expression fails only where a path in it is looked up -/
theorem Expr.eval_error {lookup : Lookup} {index : Option ℤ} {e : Expr} {f : Failure}
    (h : eval lookup index e = .error f) : ∃ path, lookup path = .error f := by
  induction e with
  | literal v => cases h
  | path p => exact ⟨p, h⟩
  | itemIndex =>
    unfold eval at h
    split at h
    · exact ⟨_, h⟩
    · cases h
  | compare left how right hleft hright =>
    unfold eval at h
    split at h
    · next hl => cases h; exact hleft hl
    · split at h
      · next hr => cases h; exact hright hr
      · cases h
  | ternary condition whenTrue whenFalse hcondition htrue hfalse =>
    unfold eval at h
    split at h
    · next hc => cases h; exact hcondition hc
    · split at h
      · exact htrue h
      · exact hfalse h

namespace Record

variable {scope : Value} {index : Option Int} {f : Failure}

theorem evalToken_error {inside : String} (h : evalToken inside scope index = .error f) : f.IsOfToken := by
  unfold evalToken at h
  dsimp only at h
  split at h
  · cases h
  · split at h
    · obtain ⟨path, hpath⟩ := Expr.eval_error h
      exact .path (resolve_error hpath)
    · next fault hfault =>
      by_cases hmalformed : fault.isMalformed = true
      · rw [if_pos hmalformed] at h
        exact .path (resolve_error h)
      · rw [if_neg hmalformed] at h
        cases h
        -- there is one fault that is not about the form of the text
        cases fault with
        | numberTooLong digits => exact .overlong digits
        | _ => exact absurd rfl hmalformed

/-- the induction is on the pieces; a piece between tokens adds nothing that fails -/
theorem fill_error {pieces : List Piece} (h : fill scope index pieces = .error f) : f.IsOfToken := by
  induction pieces with
  | nil => cases h
  | cons piece rest ih =>
    cases piece with
    | plain c => exact ih (Effect.except_map_eq_error h)
    | token inside =>
      unfold fill at h
      split at h
      · next htoken => cases h; exact evalToken_error htoken
      · exact ih (Effect.except_map_eq_error h)

theorem substitute_error {s : String} (h : substitute s scope index = .error f) : f.IsOfToken :=
  fill_error (Effect.except_map_eq_error h)

/-- **A style entry** fails as its tokens do -/
theorem styleValue_error {palette : Palette} {v : Value} (h : styleValue palette v scope index = .error f) :
    f.IsOfToken := by
  unfold styleValue at h
  split at h
  · split at h
    · split at h
      · exact evalToken_error (Effect.except_map_eq_error h)
      · exact substitute_error (Effect.except_map_eq_error h)
    · cases h
  · cases h

/-- the entry holds tokens -/
def hasTokensIn : Value → Bool
  | .string s => hasTokens s
  | _ => false

/-- **A style entry without tokens** does not fail: at most it is the name of a colour -/
theorem styleValue_of_no_tokens {v : Value} (h : hasTokensIn v = false) (palette : Palette) :
    styleValue palette v scope index = .ok (paint palette v) := by
  cases v with
  | string s =>
    have hs : hasTokens s = false := h
    simp only [styleValue, hs, Bool.false_eq_true, if_false]
  | _ => rfl

end Record

end ReportPress
