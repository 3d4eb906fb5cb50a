import ReportPress.Json.Reader
import ReportPress.Failure
import ReportPress.Text.Blank
/-!
Colours: three components, as a list of three numbers or as a text of six or three hexadecimal digits with or without a
number sign before them. What is no colour gives the default, except for an infinite component, which is a failure.
-/

namespace ReportPress

structure Rgb where
  red : Int
  green : Int
  blue : Int
deriving DecidableEq, Repr

namespace Rgb

def black : Rgb := ⟨0, 0, 0⟩

def white : Rgb := ⟨255, 255, 255⟩

/-- a component as an integer; nothing if it cannot be taken for one -/
def component (v : Value) : Except Failure (Option Int) :=
  match v with
  | .bool b => .ok (some (if b then 1 else 0))
  | .int n => .ok (some n)
  | .float x =>
    match Binary64.read x with
    | .infinite _ => .error .infiniteInteger
    | _ => .ok (truncate? x)
  | .string s =>
    match Numeral.readInt s with
    | .ok n => .ok (some n)
    | .error _ => .ok none
  | _ => .ok none

/-- three components in turn; the first that cannot be taken decides -/
def ofComponents (r g b : Value) : Except Failure (Option Rgb) := do
  match ← component r with
  | none => return none
  | some r =>
    match ← component g with
    | none => return none
    | some g =>
      match ← component b with
      | none => return none
      | some b => return some ⟨r, g, b⟩

/-- six digits in pairs, or three, each standing for a pair -/
def ofHexDigits : List Nat → Option Rgb
  | [a, b, c, d, e, f] => some ⟨(a * 16 + b : Nat), (c * 16 + d : Nat), (e * 16 + f : Nat)⟩
  | [a, b, c] => some ⟨(a * 17 : Nat), (b * 17 : Nat), (c * 17 : Nat)⟩
  | _ => none

def ofText (s : String) : Option Rgb :=
  let digits := match Text.trimChars s.toList with
    | '#' :: rest => rest
    | cs => cs
  (digits.mapM Json.hexValue?).bind ofHexDigits

/-- the colour that a value writes, or the default -/
def read (v : Value) (default : Option Rgb) : Except Failure (Option Rgb) :=
  match v with
  | .list _ [r, g, b] => (ofComponents r g b).map (·.orElse fun _ => default)
  | .string s => .ok ((ofText s).orElse fun _ => default)
  | _ => .ok default

end Rgb

end ReportPress
