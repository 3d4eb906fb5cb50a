import ReportPress.Text.Quoted
import ReportPress.Value.Basic
/-!
Expressions of the tokens in a template's texts.

    expr     := compare ( "?" expr ":" expr )?
    compare  := operand ( ( "===" | "==" | "!==" | "!=" ) operand )?
    operand  := STRING | NUMBER | true | false | null | itemIndex | PATH
-/

namespace ReportPress

/-- how two operands are compared -/
inductive Comparison where
  | strictEqual
  | looseEqual
  | strictDiffer
  | looseDiffer
deriving DecidableEq, Repr

def Comparison.text : Comparison → String
  | .strictEqual => "==="
  | .looseEqual => "=="
  | .strictDiffer => "!=="
  | .looseDiffer => "!="

inductive Expr where
  | literal (v : Value)
  | path (p : String)
  /-- the number of the repeated instance, from one -/
  | itemIndex
  | compare (left : Expr) (how : Comparison) (right : Expr)
  | ternary (condition whenTrue whenFalse : Expr)

namespace Expr

/-- why a text is no expression -/
inductive Fault where
  | unexpectedInput (offset : Nat) (excerpt : String)
  | empty
  | unexpectedToken (text : String)
  | unexpectedEnd
  | expected (wanted got : String)
  | unexpectedOperator (text : String)
  /-- a number of more digits than are converted; the one fault that is not about the form of the text -/
  | numberTooLong (digits : Nat)
deriving DecidableEq, Repr

/-- the text is not of the form of an expression -/
def Fault.isMalformed : Fault → Bool
  | .numberTooLong _ => false
  | _ => true

end Expr

end ReportPress
