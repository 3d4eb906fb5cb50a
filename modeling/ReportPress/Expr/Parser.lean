import ReportPress.Expr.Token
import ReportPress.Number.Numeral
/-!
Expressions read from tokens, by descent through the grammar. A reader returns the tokens that it left, fewer than it
was given; so descent ends.
-/

namespace ReportPress.Expr

/-- the tokens left by a reader that took at least one -/
abbrev Left (ts : List Token) := { rest : List Token // rest.length < ts.length }

/-- the rest of a rest is shorter still -/
def Left.further {ts : List Token} (a : Left ts) (b : Left a.val) : Left ts :=
  ⟨b.val, Nat.lt_trans b.property a.property⟩

def textOf (t : Token) : String := String.ofList t.text

def comparison? (t : Token) : Option Comparison :=
  if t.kind = .operator then
    [Comparison.strictEqual, .looseEqual, .strictDiffer, .looseDiffer].find? fun c => c.text.toList == t.text
  else none

def isOperator (t : Token) (text : List Char) : Bool := t.kind == .operator && t.text == text

/-- the number that a token writes: with a point a double, without one an integer -/
def number (text : List Char) : Except Fault Value :=
  let s := String.ofList text
  if text.contains '.' then .ok (.float ((Numeral.readFloat s).getD Numeral.notANumber))
  else
    match Numeral.readInt s with
    | .ok n => .ok (.int n)
    | .error (.tooLong digits) => .error (.numberTooLong digits)
    | .error .malformed => .error (.unexpectedToken s)

/-- the words that are no paths -/
def keywords : List (String × Expr) :=
  [("true", .literal (.bool true)), ("false", .literal (.bool false)), ("null", .literal .null),
   ("itemIndex", .itemIndex)]

def name (text : String) : Expr := (keywords.lookup text).getD (.path text)

def operandOf (t : Token) : Except Fault Expr :=
  match t.kind with
  | .string => .ok (.literal (.string (String.ofList (Token.unquote t.text))))
  | .number => (number t.text).map .literal
  | .name => .ok (name (textOf t))
  | .operator => .error (.unexpectedOperator (textOf t))

def parseOperand : (ts : List Token) → Except Fault (Expr × Left ts)
  | [] => .error .unexpectedEnd
  | t :: rest => (operandOf t).map fun e => (e, ⟨rest, Nat.lt_succ_self _⟩)

def parseCompare (ts : List Token) : Except Fault (Expr × Left ts) :=
  match parseOperand ts with
  | .error f => .error f
  | .ok (left, ⟨[], h⟩) => .ok (left, ⟨[], h⟩)
  | .ok (left, ⟨t :: rest, h⟩) =>
    match comparison? t with
    | none => .ok (left, ⟨t :: rest, h⟩)
    | some how =>
      match parseOperand rest with
      | .error f => .error f
      | .ok (right, r) =>
        .ok (.compare left how right, ⟨r.val, Nat.lt_trans (Nat.lt_succ_of_lt r.property) h⟩)

/-- one given operator -/
def expectOperator (text : List Char) : (ts : List Token) → Except Fault (Left ts)
  | [] => .error .unexpectedEnd
  | t :: rest =>
    if isOperator t text then .ok ⟨rest, Nat.lt_succ_self _⟩
    else .error (.expected (String.ofList text) (textOf t))

def parseExpr (ts : List Token) : Except Fault (Expr × Left ts) :=
  match parseCompare ts with
  | .error f => .error f
  | .ok (condition, ⟨[], h⟩) => .ok (condition, ⟨[], h⟩)
  | .ok (condition, ⟨t :: rest, h⟩) =>
    if isOperator t ['?'] then
      have : rest.length < ts.length := Nat.lt_trans (Nat.lt_succ_self _) h
      match parseExpr rest with
      | .error f => .error f
      | .ok (whenTrue, r₁) =>
        match expectOperator [':'] r₁.val with
        | .error f => .error f
        | .ok r₂ =>
          have := r₁.property
          have := r₂.property
          match parseExpr r₂.val with
          | .error f => .error f
          | .ok (whenFalse, r₃) =>
            .ok (.ternary condition whenTrue whenFalse, ⟨r₃.val, by have := r₃.property; omega⟩)
    else .ok (condition, ⟨t :: rest, h⟩)
termination_by ts.length

/-- a whole list of tokens as one expression -/
def ofTokens (ts : List Token) : Except Fault Expr :=
  if ts.isEmpty then .error .empty
  else
    match parseExpr ts with
    | .error f => .error f
    | .ok (e, ⟨[], _⟩) => .ok e
    | .ok (_, ⟨t :: _, _⟩) => .error (.unexpectedToken (textOf t))

def parse (source : String) : Except Fault Expr := (Token.scan source).bind ofTokens

/-- a fault in words -/
def Fault.message : Fault → String
  | .unexpectedInput offset excerpt => "unexpected input at " ++ Nat.repr offset ++ ": " ++ Text.quoted excerpt
  | .empty => "empty expression"
  | .unexpectedToken text => "unexpected token " ++ Text.quoted text
  | .unexpectedEnd => "unexpected end of expression"
  | .expected wanted got => "expected " ++ Text.quoted wanted ++ ", got " ++ Text.quoted got
  | .unexpectedOperator text => "unexpected operator " ++ Text.quoted text
  | .numberTooLong digits => Numeral.tooLongMessage digits

end ReportPress.Expr
