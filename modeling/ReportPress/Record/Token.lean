import ReportPress.Expr.Eval
import ReportPress.Text.Blank
/-!
Tokens in texts. A token is two opening braces, at least one character that is no closing brace, and two closing braces;
what is between the braces is an expression over the record at hand, or, if it is none, a path. Texts are gone through
once, from left to right: what a token is replaced by is not looked at again.
Main statement: `tokenAt?_length_lt`, a token takes up part of the text.
-/

namespace ReportPress.Record

/-- the inside of a token that starts here, and the text after it -/
def tokenAt? : List Char → Option (List Char × List Char)
  | '\x7b' :: '\x7b' :: rest =>
    match rest.takeWhile (· != '\x7d'), rest.dropWhile (· != '\x7d') with
    | c :: inside, '\x7d' :: '\x7d' :: after => some (c :: inside, after)
    | _, _ => none
  | _ => none

theorem tokenAt?_length_lt {cs inside after : List Char} (h : tokenAt? cs = some (inside, after)) :
    after.length < cs.length := by
  unfold tokenAt? at h
  split at h
  · next rest =>
    split at h
    · next ha hb =>
      have := congrArg List.length (List.takeWhile_append_dropWhile (p := (· != '\x7d')) (l := rest))
      rw [hb] at this
      simp only [Option.some.injEq, Prod.mk.injEq] at h
      obtain ⟨rfl, rfl⟩ := h
      simp only [List.length_append, List.length_cons] at this ⊢
      omega
    · simp at h
  · simp at h

/-- a text as the stretches between its tokens and the tokens' insides -/
inductive Piece where
  | plain (c : Char)
  | token (inside : List Char)

def pieces (cs : List Char) : List Piece :=
  match h : tokenAt? cs with
  | some (inside, after) =>
    have := tokenAt?_length_lt h
    .token inside :: pieces after
  | none =>
    match cs with
    | [] => []
    | c :: rest => .plain c :: pieces rest
termination_by cs.length

def Piece.isToken : Piece → Bool
  | .token _ => true
  | .plain _ => false

def hasTokens (s : String) : Bool := (pieces s.toList).any Piece.isToken

/-- the value of a token's inside -/
def evalToken (inside : String) (scope : Value) (index : Option Int) : Except Failure (Option Value) :=
  let source := Text.trim inside
  match source == "itemIndex", index with
  | true, some i => .ok (some (.int (i + 1)))
  | _, _ =>
    match Expr.parse source with
    | .ok e => Expr.eval (resolve scope) index e
    | .error fault =>
      if fault.isMalformed then resolve scope source
      else .error (.expression fault)

/-- nothing is shown as an empty text -/
def displayFound : Option Value → String
  | none => ""
  | some v => v.display

/-- the text of the pieces, tokens replaced by what they are worth -/
def fill (scope : Value) (index : Option Int) : List Piece → Except Failure (List Char)
  | [] => .ok []
  | .plain c :: rest => (fill scope index rest).map (c :: ·)
  | .token inside :: rest =>
    match evalToken (String.ofList inside) scope index with
    | .error f => .error f
    | .ok found => (fill scope index rest).map ((displayFound found).toList ++ ·)

def substitute (s : String) (scope : Value) (index : Option Int) : Except Failure String :=
  (fill scope index (pieces s.toList)).map String.ofList

/-- the inside of a token that, blanks around it aside, is the whole text -/
def wholeToken? (s : String) : Option String :=
  match tokenAt? (Text.trimChars s.toList) with
  | some (inside, []) => some (String.ofList inside)
  | _ => none

/-- names of colours -/
abbrev Palette := List (String × String)

/-- a name of the palette becomes its colour -/
def paint (palette : Palette) : Value → Value
  | .string s => .string ((Fields.get? palette s).getD s)
  | v => v

/-- the value of an entry of a style bag: a token, tokens within a text, or itself; last, a name of the palette -/
def styleValue (palette : Palette) (v scope : Value) (index : Option Int) : Except Failure Value :=
  match v with
  | .string s =>
    if hasTokens s then
      match wholeToken? s with
      | some inside => (evalToken inside scope index).map fun found => paint palette (found.getD .null)
      | none => (substitute s scope index).map fun t => paint palette (.string t)
    else .ok (paint palette v)
  | _ => .ok v

end ReportPress.Record
