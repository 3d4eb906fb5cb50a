import ReportPress.Expr.Eval
import ReportPress.Proofs.Expr.Grammar
/-!
Chains of ternaries, each in the second branch of the one before. Such a chain is a table: rows of a condition and what
it leads to, and what is left over at the end. It is worth what the first row leads to whose condition holds; conditions
behind that row, and what the other rows lead to, are not looked at.

- `chainTokens`: how a table is written. `yield_chain`: it is derived as a chain.
- `Decides`: what a condition comes to. `decides_iff`: that is whether its value holds.
- `eval_skip`: rows whose condition does not hold make no difference.
- `chain_first_match`: a table as it is read and evaluated.
-/

namespace ReportPress.Expr

/-! ## Tables -/

/-- a condition, and what it leads to -/
abbrev Row := Compared × Operand

/-- the rows, each with its question mark and colon, and what is left over -/
def chainTokens (last : Operand) : List Row → List Token
  | [] => [last.token]
  | (c, v) :: rows => c.yield ++ question :: v.token :: colon :: chainTokens last rows

/-- a table as ternaries: the rows that follow are the second branch of a row -/
def chain (last : Operand) : List Row → Derivation
  | [] => .compared (.operand last)
  | (c, v) :: rows => .ternary c (.compared (.operand v)) (chain last rows)

theorem yield_chain (last : Operand) (rows : List Row) : (chain last rows).yield = chainTokens last rows := by
  induction rows with
  | nil => rfl
  | cons row rows ih =>
    obtain ⟨c, v⟩ := row
    rw [chain, Derivation.yield, ih]
    rfl

/-! ## What conditions come to -/

/-- what a condition comes to: a path that leads nowhere is false as a condition, and null in a comparison -/
inductive Decides (lookup : Lookup) (index : Option ℤ) : Compared → Bool → Prop
  | missing {o : Operand} (h : eval lookup index o.tree = .ok none) : Decides lookup index (.operand o) false
  | found {o : Operand} {v : Value} (h : eval lookup index o.tree = .ok (some v)) :
      Decides lookup index (.operand o) v.truthy
  | comparison {left right : Operand} {l r : Option Value} (how : Comparison)
      (hleft : eval lookup index left.tree = .ok l) (hright : eval lookup index right.tree = .ok r) :
      Decides lookup index (.comparison left how right) (how.holds (l.getD .null) (r.getD .null))

variable {lookup : Lookup} {index : Option ℤ}

/-- a condition comes to whether its value holds -/
theorem decides_iff {c : Compared} {b : Bool} :
    Decides lookup index c b ↔ ∃ found, eval lookup index c.tree = .ok found ∧ holds found = b := by
  constructor
  · rintro (h | h | ⟨how, hleft, hright⟩)
    · exact ⟨none, h, rfl⟩
    · exact ⟨_, h, rfl⟩
    · refine ⟨some (.bool (how.holds _ _)), ?_, rfl⟩
      rw [Compared.tree, eval, hleft, hright]
  · rintro ⟨found, hfound, rfl⟩
    cases c with
    | operand o =>
      cases found with
      | none => exact .missing hfound
      | some v => exact .found hfound
    | comparison left how right =>
      rw [Compared.tree, eval] at hfound
      cases hleft : eval lookup index left.tree with
      | error f =>
        rw [hleft] at hfound
        cases hfound
      | ok l =>
        cases hright : eval lookup index right.tree with
        | error f =>
          rw [hleft, hright] at hfound
          cases hfound
        | ok r =>
          rw [hleft, hright] at hfound
          cases hfound
          exact .comparison how hleft hright

/-- a ternary is worth what the branch is that its condition decides for -/
theorem eval_ternary {c : Compared} {b : Bool} (h : Decides lookup index c b) (whenTrue whenFalse : Expr) :
    eval lookup index (.ternary c.tree whenTrue whenFalse) =
      if b then eval lookup index whenTrue else eval lookup index whenFalse := by
  obtain ⟨found, hfound, rfl⟩ := decides_iff.1 h
  rw [eval, hfound]

/-! ## The first row that matches -/

/-- rows whose condition does not hold make no difference -/
theorem eval_skip (last : Operand) {before : List Row} (hbefore : ∀ row ∈ before, Decides lookup index row.1 false)
    (rows : List Row) :
    eval lookup index (chain last (before ++ rows)).tree = eval lookup index (chain last rows).tree := by
  induction before with
  | nil => rfl
  | cons row before ih =>
    obtain ⟨hrow, hbefore⟩ := List.forall_mem_cons.1 hbefore
    rw [List.cons_append, chain, Derivation.tree, eval_ternary hrow, if_neg Bool.false_ne_true, ih hbefore]

/-- **A chain of ternaries is a table.** Its tokens are read, and what is read is worth what the first row leads to
whose condition holds, or what is left over if there is none; and if a condition that is come to has no value, neither
has the whole. A condition comes to whether its value holds, where a path that leads nowhere is false, or null in a
comparison. -/
theorem chain_first_match (rows : List Row) (last : Operand) (lookup : Lookup) (index : Option ℤ) :
    (∀ c b, Decides lookup index c b ↔ ∃ found, eval lookup index c.tree = .ok found ∧ holds found = b) ∧
      ∃ e, ofTokens (chainTokens last rows) = .ok e ∧
        (∀ before c v after, rows = before ++ (c, v) :: after → (∀ row ∈ before, Decides lookup index row.1 false) →
          (Decides lookup index c true → eval lookup index e = eval lookup index v.tree) ∧
          ∀ f, eval lookup index c.tree = .error f → eval lookup index e = .error f) ∧
        ((∀ row ∈ rows, Decides lookup index row.1 false) → eval lookup index e = eval lookup index last.tree) := by
  refine ⟨fun c b => decides_iff, (chain last rows).tree, ?_, ?_, fun hrows => ?_⟩
  · rw [← yield_chain]
    exact ofTokens_yield _
  · rintro before c v after rfl hbefore
    have hhere : (chain last ((c, v) :: after)).tree = .ternary c.tree v.tree (chain last after).tree := rfl
    rw [eval_skip last hbefore, hhere]
    refine ⟨fun hc => ?_, fun f hf => ?_⟩
    · rw [eval_ternary hc, if_pos rfl]
    · rw [eval, hf]
  · have hskip := eval_skip last hrows []
    rw [List.append_nil] at hskip
    exact hskip

namespace Danger

def level : Operand := .path "dangerLevel".toList (by intro k; cases k <;> decide)

def quoted (text : String) : Operand := .string ('\'' :: text.toList ++ ['\''])

/-- red for a high level, and orange for a medium one -/
def rows : List Row :=
  [(.comparison level .strictEqual (quoted "high"), quoted "#dc2626"),
    (.comparison level .strictEqual (quoted "medium"), quoted "#ea580c")]

def text : String :=
  "dangerLevel === 'high' ? '#dc2626' : dangerLevel === 'medium' ? '#ea580c' : '#16a34a'"

/-- every path leads to the level, if there is one -/
def leads (level : Option String) : Lookup := fun _ => .ok (level.map .string)

/-- what a comparison of the level comes to -/
theorem decides (found : Option String) (text : List Char) :
    Decides (leads found) none (.comparison level .strictEqual (.string text))
      (Comparison.strictEqual.holds ((found.map Value.string).getD .null)
        ((some (Value.string (String.ofList (Token.unquote text)))).getD .null)) :=
  .comparison .strictEqual rfl rfl

end Danger

/-- a medium level is orange, and a missing one green -/
theorem chain_first_match_sample :
    ∃ e, parse Danger.text = .ok e ∧
      eval (Danger.leads (some "medium")) none e = .ok (some (.string "#ea580c")) ∧
      eval (Danger.leads none) none e = .ok (some (.string "#16a34a")) := by
  have hscan : Token.scan Danger.text = .ok (chainTokens (Danger.quoted "#16a34a") Danger.rows) := by decide +kernel
  obtain ⟨-, e, he, hmedium, -⟩ :=
    chain_first_match Danger.rows (Danger.quoted "#16a34a") (Danger.leads (some "medium")) none
  obtain ⟨-, e', he', -, hmissing⟩ := chain_first_match Danger.rows (Danger.quoted "#16a34a") (Danger.leads none) none
  obtain rfl : e = e' := Except.ok.inj (he.symm.trans he')
  refine ⟨e, by rw [parse, hscan]; exact he, ?_, ?_⟩
  · have hhigh : ∀ row ∈ [Danger.rows[0]], Decides (Danger.leads (some "medium")) none row.1 false :=
      List.forall_mem_singleton.2 (Danger.decides (some "medium") _)
    exact (hmedium [Danger.rows[0]] _ _ [] rfl hhigh).1 (Danger.decides (some "medium") _)
  · refine hmissing (List.forall_mem_cons.2 ⟨Danger.decides none _, ?_⟩)
    exact List.forall_mem_singleton.2 (Danger.decides none _)

end ReportPress.Expr
