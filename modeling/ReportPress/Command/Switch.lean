/-!
Options on a command line. An option is written with its long name, or with its letter after a single dash; letters may
stand together. A value follows its option as the next word, after an equals sign, or right after the letter. Two
dashes alone end the options.
Main statements: `scan_plain`, words without dashes are words; `scan_end`, so is whatever follows two dashes.
-/

namespace ReportPress

structure Switch where
  /-- the long name, with its dashes -/
  name : String
  letter : Option Char := none
  takesValue : Bool := false
deriving DecidableEq, Repr

/-- an option as it was given; one that takes no value has an empty one -/
structure Choice where
  name : String
  value : String
deriving DecidableEq, Repr

/-- what was given: options, and words that are none, each in order -/
structure Given where
  choices : List Choice := []
  words : List String := []
deriving DecidableEq, Repr

namespace Given

def addChoices (cs : List Choice) (g : Given) : Given := { g with choices := cs ++ g.choices }

def addWord (w : String) (g : Given) : Given := { g with words := w :: g.words }

def has (g : Given) (name : String) : Bool := g.choices.any (·.name == name)

def count (g : Given) (name : String) : Nat := g.choices.countP (·.name == name)

/-- the value given last -/
def value? (g : Given) (name : String) : Option String :=
  (g.choices.reverse.find? (·.name == name)).map (·.value)

end Given

/-- what a word with a dash holds: options that are complete, and perhaps one that waits for its value -/
structure Held where
  complete : List Choice := []
  waiting : Option Switch := none

namespace Switch

/-- an option with the value that is written with it, if any; a value for an option that takes none is misuse -/
def hold (s : Switch) (attached : Option String) : Option Held :=
  match s.takesValue, attached with
  | true, some v => some { complete := [⟨s.name, v⟩] }
  | true, none => some { waiting := some s }
  | false, none => some { complete := [⟨s.name, ""⟩] }
  | false, some _ => none

/-- letters that stand together; the value of an option is what remains of them -/
def ofLetters (known : List Switch) : List Char → Option Held
  | [] => some {}
  | c :: rest =>
    match known.find? (·.letter == some c) with
    | none => none
    | some s =>
      if s.takesValue then s.hold (if rest.isEmpty then none else some (String.ofList rest))
      else (ofLetters known rest).map fun h => { h with complete := ⟨s.name, ""⟩ :: h.complete }

/-- the options that a word with a dash holds -/
def ofWord (known : List Switch) (cs : List Char) : Option Held :=
  let name := String.ofList (cs.takeWhile (· != '='))
  let attached := if cs.contains '=' then some (String.ofList ((cs.dropWhile (· != '=')).drop 1)) else none
  match known.find? (·.name == name) with
  | some s => s.hold attached
  | none => if cs.take 2 = ['-', '-'] then none else ofLetters known (cs.drop 1)

/-- a word that starts with a dash, and is more than it -/
def isOption (w : String) : Bool := w.toList.head? == some '-' && 1 < w.toList.length

/-- reads a command line, or tells that it is misused; unless options and words may be `mixed`, the first word that is
no option ends the options -/
def scan (known : List Switch) (mixed : Bool) : List String → Option Given
  | [] => some {}
  | w :: rest =>
    if w = "--" then some { words := rest }
    else if isOption w then
      match ofWord known w.toList with
      | none => none
      | some ⟨complete, none⟩ => (scan known mixed rest).map (·.addChoices complete)
      | some ⟨complete, some s⟩ =>
        match rest with
        | [] => none
        | v :: rest => (scan known mixed rest).map (·.addChoices (complete ++ [⟨s.name, v⟩]))
    else if mixed then (scan known mixed rest).map (·.addWord w)
    else some { words := w :: rest }

theorem scan_end (known : List Switch) (mixed : Bool) (ws : List String) :
    scan known mixed ("--" :: ws) = some { words := ws } := by simp [scan]

theorem isOption_two_dashes : isOption "--" = true := by decide

theorem scan_plain (known : List Switch) (mixed : Bool) {ws : List String} (h : ∀ w ∈ ws, isOption w = false) :
    scan known mixed ws = some { words := ws } := by
  induction ws with
  | nil => rfl
  | cons w ws ih =>
    have hw : isOption w = false := h w (by simp)
    have hd : w ≠ "--" := fun e => by rw [e, isOption_two_dashes] at hw; cases hw
    cases mixed with
    | false => simp [scan, hw, hd]
    | true => simp [scan, hw, hd, ih fun v hv => h v (by simp [hv]), Given.addWord]

end Switch

end ReportPress
