import ReportPress.Expr.Basic
import ReportPress.Text.Blank
import ReportPress.Text.Digit
import ReportPress.Text.Word
/-!
Tokens of expressions: quoted strings, numbers, operators and dotted names, with blanks before and between them.
Main statements: `Token.next?_length_lt`, reading a token always advances; `Token.next?_append`, the blanks skipped,
the token and the rest are the whole text.
-/

namespace ReportPress.Expr

inductive TokenKind where
  | string
  | number
  | operator
  | name
deriving DecidableEq, Repr

/-- a token with its text as written, quotes included -/
structure Token where
  kind : TokenKind
  text : List Char
deriving DecidableEq, Repr

namespace Token

/-- the rest of a quoted string up to its closing quote `q`, and what follows; a backslash takes the character after
it along, which may be anything but a line feed -/
def stringEnd? (q : Char) : List Char → Option (List Char × List Char)
  | [] => none
  | '\\' :: c :: rest => if c = '\n' then none else (stringEnd? q rest).map fun p => ('\\' :: c :: p.1, p.2)
  | ['\\'] => none
  | c :: rest => if c = q then some ([c], rest) else (stringEnd? q rest).map fun p => (c :: p.1, p.2)

def string? : List Char → Option (List Char × List Char)
  | c :: rest => if c = '"' ∨ c = '\'' then (stringEnd? c rest).map fun p => (c :: p.1, p.2) else none
  | [] => none

/-- a point and digits after it, or nothing -/
def fraction (cs : List Char) : List Char × List Char :=
  match cs with
  | '.' :: rest =>
    if (rest.takeWhile Text.isDigit).isEmpty then ([], cs)
    else ('.' :: rest.takeWhile Text.isDigit, rest.dropWhile Text.isDigit)
  | _ => ([], cs)

/-- digits with an optional fraction -/
def unsigned? (cs : List Char) : Option (List Char × List Char) :=
  if (cs.takeWhile Text.isDigit).isEmpty then none
  else
    let rest := cs.dropWhile Text.isDigit
    some (cs.takeWhile Text.isDigit ++ (fraction rest).1, (fraction rest).2)

def number? : List Char → Option (List Char × List Char)
  | '-' :: rest => (unsigned? rest).map fun p => ('-' :: p.1, p.2)
  | cs => unsigned? cs

/-- the operators, a longer one before its own beginning -/
def operators : List (List Char) :=
  [['=', '=', '='], ['!', '=', '='], ['=', '='], ['!', '='], ['?'], [':']]

def operator? (cs : List Char) : Option (List Char × List Char) :=
  (operators.find? (·.isPrefixOf cs)).map fun op => (op, cs.drop op.length)

def isNamePart (c : Char) : Bool := Text.isWord c || c == '$'

def isNameStart (c : Char) : Bool := Text.isAsciiLetter c || c == '_' || c == '$'

/-- further parts of a name, each after a point; `fuel` bounds their number -/
def nameTail : Nat → List Char → List Char × List Char
  | 0, cs => ([], cs)
  | fuel + 1, cs =>
    match cs with
    | '.' :: rest =>
      if (rest.takeWhile isNamePart).isEmpty then ([], cs)
      else
        let tail := nameTail fuel (rest.dropWhile isNamePart)
        ('.' :: rest.takeWhile isNamePart ++ tail.1, tail.2)
    | _ => ([], cs)

def name? : List Char → Option (List Char × List Char)
  | [] => none
  | c :: rest =>
    if isNameStart c then
      let tail := nameTail rest.length (rest.dropWhile isNamePart)
      some (c :: rest.takeWhile isNamePart ++ tail.1, tail.2)
    else none

/-- the token at the very start of a text -/
def at? (cs : List Char) : Option (Token × List Char) :=
  match string? cs with
  | some (t, rest) => some (⟨.string, t⟩, rest)
  | none =>
    match number? cs with
    | some (t, rest) => some (⟨.number, t⟩, rest)
    | none =>
      match operator? cs with
      | some (t, rest) => some (⟨.operator, t⟩, rest)
      | none =>
        match name? cs with
        | some (t, rest) => some (⟨.name, t⟩, rest)
        | none => none

/-- the first token of a text, and what follows it -/
def next? (cs : List Char) : Option (Token × List Char) := at? (Text.trimStart cs)

theorem stringEnd?_append {q : Char} {cs t rest : List Char} (h : stringEnd? q cs = some (t, rest)) :
    t ++ rest = cs := by
  fun_induction stringEnd? q cs generalizing t rest with
  | case1 => simp at h
  | case2 r => simp at h
  | case3 c r hc ih =>
    obtain ⟨⟨a, b⟩, hp, hq⟩ := Option.map_eq_some_iff.1 h
    simp only [Prod.mk.injEq] at hq
    obtain ⟨rfl, rfl⟩ := hq
    simp [ih hp]
  | case4 => simp at h
  | case5 rest' =>
    simp only [Option.some.injEq, Prod.mk.injEq] at h
    obtain ⟨rfl, rfl⟩ := h
    rfl
  | case6 c r _ _ hc ih =>
    obtain ⟨⟨a, b⟩, hp, hq⟩ := Option.map_eq_some_iff.1 h
    simp only [Prod.mk.injEq] at hq
    obtain ⟨rfl, rfl⟩ := hq
    simp [ih hp]

theorem string?_append {cs t rest : List Char} (h : string? cs = some (t, rest)) :
    t ++ rest = cs ∧ t ≠ [] := by
  unfold string? at h
  split at h
  · split at h
    · obtain ⟨⟨a, b⟩, hp, hq⟩ := Option.map_eq_some_iff.1 h
      simp only [Prod.mk.injEq] at hq
      obtain ⟨rfl, rfl⟩ := hq
      simp [stringEnd?_append hp]
    · simp at h
  · simp at h

theorem fraction_append (cs : List Char) : (fraction cs).1 ++ (fraction cs).2 = cs := by
  unfold fraction
  split
  · split
    · rfl
    · simp [List.takeWhile_append_dropWhile]
  · rfl

theorem unsigned?_append {cs t rest : List Char} (h : unsigned? cs = some (t, rest)) :
    t ++ rest = cs ∧ t ≠ [] := by
  unfold unsigned? at h
  split at h
  · simp at h
  · next hne =>
    simp only [Option.some.injEq, Prod.mk.injEq] at h
    obtain ⟨rfl, rfl⟩ := h
    refine ⟨?_, ?_⟩
    · rw [List.append_assoc, fraction_append, List.takeWhile_append_dropWhile]
    · intro h
      simp only [List.append_eq_nil_iff] at h
      simp [h.1] at hne

theorem number?_append {cs t rest : List Char} (h : number? cs = some (t, rest)) :
    t ++ rest = cs ∧ t ≠ [] := by
  unfold number? at h
  split at h
  · obtain ⟨⟨a, b⟩, hp, hq⟩ := Option.map_eq_some_iff.1 h
    simp only [Prod.mk.injEq] at hq
    obtain ⟨rfl, rfl⟩ := hq
    simp [(unsigned?_append hp).1]
  · exact unsigned?_append h

theorem operator?_append {cs t rest : List Char} (h : operator? cs = some (t, rest)) :
    t ++ rest = cs ∧ t ≠ [] := by
  obtain ⟨op, hop, hq⟩ := Option.map_eq_some_iff.1 h
  simp only [Prod.mk.injEq] at hq
  obtain ⟨rfl, rfl⟩ := hq
  have hfound := List.find?_some hop
  have hpre : op <+: cs := List.isPrefixOf_iff_prefix.1 hfound
  have hmem := List.mem_of_find?_eq_some hop
  refine ⟨?_, ?_⟩
  · obtain ⟨r, rfl⟩ := hpre
    simp
  · simp only [operators, List.mem_cons, List.not_mem_nil, or_false] at hmem
    rcases hmem with rfl | rfl | rfl | rfl | rfl | rfl <;> simp

theorem nameTail_append (fuel : Nat) (cs : List Char) :
    (nameTail fuel cs).1 ++ (nameTail fuel cs).2 = cs := by
  induction fuel generalizing cs with
  | zero => rfl
  | succ n ih =>
    unfold nameTail
    split
    · split
      · rfl
      · simp [ih, List.takeWhile_append_dropWhile]
    · rfl

theorem name?_append {cs t rest : List Char} (h : name? cs = some (t, rest)) :
    t ++ rest = cs ∧ t ≠ [] := by
  unfold name? at h
  split at h
  · simp at h
  · split at h
    · simp only [Option.some.injEq, Prod.mk.injEq] at h
      obtain ⟨rfl, rfl⟩ := h
      simp [nameTail_append, List.takeWhile_append_dropWhile]
    · simp at h

theorem at?_append {cs rest : List Char} {t : Token} (h : at? cs = some (t, rest)) :
    t.text ++ rest = cs ∧ t.text ≠ [] := by
  unfold at? at h
  split at h
  · next hs => cases h; exact string?_append hs
  · split at h
    · next hs => cases h; exact number?_append hs
    · split at h
      · next hs => cases h; exact operator?_append hs
      · split at h
        · next hs => cases h; exact name?_append hs
        · simp at h

theorem next?_append {cs rest : List Char} {t : Token} (h : next? cs = some (t, rest)) :
    cs.takeWhile Text.isBlank ++ t.text ++ rest = cs := by
  rw [List.append_assoc, (at?_append h).1, Text.trimStart, List.takeWhile_append_dropWhile]

theorem next?_length_lt {cs rest : List Char} {t : Token} (h : next? cs = some (t, rest)) :
    rest.length < cs.length := by
  have := congrArg List.length (next?_append h)
  have hne := List.length_pos_iff.2 (at?_append h).2
  simp only [List.length_append] at this
  omega

/-- the tokens of a text that starts `offset` characters into the source -/
def scanFrom (offset : Nat) (cs : List Char) : Except Fault (List Token) :=
  if cs.all Text.isBlank then .ok []
  else
    match h : next? cs with
    | none => .error (.unexpectedInput offset (String.ofList (cs.take 10)))
    | some (t, rest) =>
      have := next?_length_lt h
      (scanFrom (offset + (cs.length - rest.length)) rest).map (t :: ·)
termination_by cs.length

def scan (source : String) : Except Fault (List Token) := scanFrom 0 source.toList

/-- a quoted string without its quotes and the backslashes of its escapes -/
def unescape : List Char → List Char
  | [] => []
  | '\\' :: c :: rest => c :: unescape rest
  | c :: rest => c :: unescape rest

def unquote (text : List Char) : List Char := unescape (text.tail.dropLast)

end Token

end ReportPress.Expr
