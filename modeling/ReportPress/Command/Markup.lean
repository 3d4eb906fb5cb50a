import ReportPress.Text.Blank
import ReportPress.Text.Split
/-!
Style tags in texts that are shown. `[name]` opens a style and `[/name]` closes it; `[/]` closes the style that was
opened last. A tag starts with a small letter, `#`, `@` or `/`, and holds no other opening bracket; brackets around
anything else are text. A backslash makes a tag text, and two backslashes are one. The styles themselves are not shown.

A style is written as words, each an attribute or a colour, in any order and with short forms of attributes; its name
lists the attributes in a fixed order and then the colour. Any other text is a name of its own.
-/

/-! ## Names of styles -/

namespace ReportPress.Style

/-- the attributes in order, each with its short forms -/
def attributes : List (String × List String) :=
  [("bold", ["b"]), ("dim", ["d"]), ("italic", ["i"]), ("underline", ["u"]), ("blink", []), ("blink2", []),
   ("reverse", ["r"]), ("conceal", ["c"]), ("strike", ["s"]), ("underline2", ["uu"]), ("frame", []),
   ("encircle", []), ("overline", ["o"])]

def plainColours : List String := ["black", "red", "green", "yellow", "blue", "magenta", "cyan", "white"]

def colours : List String := "default" :: plainColours ++ plainColours.map ("bright_" ++ ·)

/-- ASCII letters in lower case -/
def lower (cs : List Char) : String := String.ofList (cs.map Char.toLower)

/-- the words between blanks -/
def words : List Char → List (List Char)
  | [] => []
  | c :: rest =>
    if Text.isBlank c then words rest
    else
      match rest with
      | [] => [[c]]
      | d :: _ =>
        if Text.isBlank d then [c] :: words rest
        else
          match words rest with
          | [] => [[c]]
          | w :: ws => (c :: w) :: ws

def isAttribute (w : String) : Bool := attributes.any fun a => a.1 == w || a.2.contains w

/-- the attributes that are among the words, in order, and then the last of the colours -/
def arranged (ws : List String) : List String :=
  (attributes.filter fun a => ws.contains a.1 || a.2.any ws.contains).map (·.1) ++
    (ws.filter colours.contains).getLast?.toList

/-- the name of a style, however it is written -/
def name (cs : List Char) : String :=
  let ws := (words cs).map lower
  if ws.all fun w => isAttribute w || colours.contains w then
    if ws.isEmpty then "none" else " ".intercalate (arranged ws)
  else lower (Text.trimChars cs)

end ReportPress.Style

/-! ## Tags -/

namespace ReportPress.Markup

/-- why a tag cannot close a style -/
inductive Fault where
  | notOpen (tag : String)
  | nothingOpen
deriving DecidableEq, Repr

def Fault.message (position : Nat) : Fault → String
  | .notOpen tag =>
    "closing tag '" ++ tag ++ "' at position " ++ Nat.repr position ++ " doesn't match any open tag"
  | .nothingOpen => "closing tag '[/]' at position " ++ Nat.repr position ++ " has nothing to close"

/-- a part of a marked text -/
inductive Piece where
  | text (cs : List Char)
  /-- what a tag holds, and where it stands -/
  | tag (inside : List Char) (position : Nat)
deriving DecidableEq, Repr

def startsTag (c : Char) : Bool := ('a' ≤ c && c ≤ 'z') || c == '#' || c == '/' || c == '@'

def isInside (c : Char) : Bool := c != ']' && c != '['

/-- what a tag holds and what follows it, after its opening bracket -/
def tag? (cs : List Char) : Option (List Char × List Char) :=
  match cs with
  | [] => none
  | c :: rest =>
    match rest.dropWhile isInside with
    | ']' :: after => if startsTag c then some (c :: rest.takeWhile isInside, after) else none
    | _ => none

theorem tag?_length {cs inside after : List Char} (h : tag? cs = some (inside, after)) :
    after.length < cs.length := by
  unfold tag? at h
  split at h
  · cases h
  · rename_i c rest
    split at h
    · rename_i after' hd
      have hs := (List.dropWhile_suffix (l := rest) isInside).length_le
      split at h
      · cases h; rw [hd] at hs; simp at hs ⊢; omega
      · cases h
    · cases h

/-- a text in which a backslash before a bracket that opens no tag is dropped -/
def unescape (cs : List Char) : List Char := Text.replace '\\' ['['] ['['] cs

/-- a tag with `n` backslashes before it: a backslash for each two of them, and a tag or, after an odd one, its text -/
def taggedPieces (n position : Nat) (inside : List Char) : List Piece :=
  [.text (List.replicate (n / 2) '\\'),
    if n % 2 = 1 then .text ('[' :: inside ++ [']']) else .tag inside position]

/-- the parts of a text from `position` on, with the text before it since the last tag, in reverse -/
def piecesFrom (position : Nat) (before : List Char) (cs : List Char) : List Piece :=
  match cs with
  | [] => [.text (unescape before.reverse)]
  | c :: rest =>
    if c = '[' then
      match h : tag? rest with
      | some (inside, after) =>
        have := tag?_length h
        let n := (before.takeWhile (· == '\\')).length
        .text (unescape (before.drop n).reverse) ::
          taggedPieces n position inside ++ piecesFrom (position + inside.length + 2) [] after
      | none => piecesFrom (position + 1) (c :: before) rest
    else piecesFrom (position + 1) (c :: before) rest
termination_by cs.length

def pieces (cs : List Char) : List Piece := piecesFrom 0 [] cs

/-- the style of a tag; what follows an equals sign is no part of it -/
def styleOf (inside : List Char) : List Char := inside.takeWhile (· != '=')

/-- the styles that stay open after a closing tag; `styles` are those that are open, the last one first -/
def close (inside : List Char) (styles : List String) : Except Fault (List String) :=
  let closed := Text.trimChars ((styleOf inside).drop 1)
  if closed.isEmpty then
    match styles with
    | [] => .error .nothingOpen
    | _ :: rest => .ok rest
  else if styles.contains (Style.name closed) then .ok (styles.erase (Style.name closed))
  else .error (.notOpen (String.ofList ('[' :: inside ++ [']'])))

/-- the text of the parts -/
def textOf (styles : List String) : List Piece → Except (Fault × Nat) (List Char)
  | [] => .ok []
  | .text cs :: rest => (textOf styles rest).map (cs ++ ·)
  | .tag inside position :: rest =>
    if inside.head? = some '/' then
      match close inside styles with
      | .ok styles => textOf styles rest
      | .error f => .error (f, position)
    else textOf (Style.name (styleOf inside) :: styles) rest

/-- the text without its tags -/
def plain (cs : List Char) : Except (Fault × Nat) (List Char) := textOf [] (pieces cs)

end ReportPress.Markup
