import ReportPress.Record.Path
import ReportPress.Value.Equality
/-!
What an expression is worth. Paths are looked up; a path that leads nowhere is worth nothing, which counts as null in a
comparison and as false in a condition. Only the branch of a ternary that is chosen is looked at.
-/

namespace ReportPress

def Comparison.holds : Comparison → Value → Value → Bool
  | .strictEqual, v, w => Value.strictEq v w
  | .strictDiffer, v, w => !Value.strictEq v w
  | .looseEqual, v, w => Value.looseEq v w
  | .looseDiffer, v, w => !Value.looseEq v w

namespace Expr

/-- how paths are looked up -/
abbrev Lookup := String → Except Failure (Option Value)

/-- nothing counts as false -/
def holds : Option Value → Bool
  | none => false
  | some v => v.truthy

/-- the value of an expression; `index` is the place of the repeated instance, from zero -/
def eval (lookup : Lookup) (index : Option Int) : Expr → Except Failure (Option Value)
  | .literal v => .ok (some v)
  | .path p => lookup p
  | .itemIndex =>
    match index with
    | none => lookup "itemIndex"
    | some i => .ok (some (.int (i + 1)))
  | .compare left how right =>
    match eval lookup index left with
    | .error f => .error f
    | .ok l =>
      match eval lookup index right with
      | .error f => .error f
      | .ok r => .ok (some (.bool (how.holds (l.getD .null) (r.getD .null))))
  | .ternary condition whenTrue whenFalse =>
    match eval lookup index condition with
    | .error f => .error f
    | .ok c => if holds c then eval lookup index whenTrue else eval lookup index whenFalse

end Expr

end ReportPress
