import ReportPress.Page.Geometry
import ReportPress.Text.Split
/-!
Text laid into a width. Lines are broken between words, and a word that is too wide for a line is broken between
characters; a cell's text is cut off and ends in three dots. Both work with any measure of texts; measuring may fail, so
it is a computation of its own.
-/

namespace ReportPress.Text

variable {m : Type → Type} [Monad m] {α : Type} [Length α]

/-- a word in pieces no wider than `limit`, but for pieces of one character; `chunk` is the piece at hand -/
def breakWord (width : List Char → m α) (limit : α) : List Char → List Char → m (List (List Char))
  | chunk, [] => pure (if chunk.isEmpty then [] else [chunk])
  | chunk, c :: rest => do
    let next := chunk ++ [c]
    if chunk.isEmpty then breakWord width limit next rest
    else if Length.below limit (← width next) then
      return chunk :: (← breakWord width limit [c] rest)
    else breakWord width limit next rest

/-- finished lines, and the line at hand -/
structure Wrapping where
  lines : List (List Char)
  current : List Char

def Wrapping.finish (w : Wrapping) : Wrapping :=
  if w.current.isEmpty then w else ⟨w.lines ++ [w.current], []⟩

/-- the next word goes onto the line at hand if it fits there, else onto lines of its own -/
def placeWord (width : List Char → m α) (limit : α) (w : Wrapping) (word : List Char) : m Wrapping := do
  let candidate := if w.current.isEmpty then word else w.current ++ ' ' :: word
  if Length.atMost (← width candidate) limit then return { w with current := candidate }
  else
    let w := w.finish
    if Length.atMost (← width word) limit then return { w with current := word }
    else
      let parts ← breakWord width limit [] word
      return ⟨w.lines ++ parts.dropLast, parts.getLast?.getD []⟩

/-- one line of the text as lines that fit -/
def wrapLine (width : List Char → m α) (limit : α) (line : List Char) : m (List (List Char)) := do
  if line.isEmpty then return [[]]
  else
    let w ← (split ' ' line).foldlM (placeWord width limit) ⟨[], []⟩
    return w.finish.lines

def wrapLines (width : List Char → m α) (limit : α) : List (List Char) → m (List (List Char))
  | [] => pure []
  | line :: rest => do
    let here ← wrapLine width limit line
    return here ++ (← wrapLines width limit rest)

/-- the lines of a text as lines that fit; an empty text is one empty line -/
def wrap (width : List Char → m α) (limit : α) (text : List Char) : m (List (List Char)) :=
  let ls := linesFrom [] text
  wrapLines width limit (if ls.isEmpty then [[]] else ls)

def ellipsis : List Char := ['.', '.', '.']

/-- the longest beginning, given reversed, that fits with three dots after it -/
def trimToFit (width : List Char → m α) (limit : α) : List Char → m (List Char)
  | [] => pure []
  | c :: rest => do
    let shown := (c :: rest).reverse ++ ellipsis
    if Length.below limit (← width shown) then trimToFit width limit rest else return shown

/-- the text itself if it fits, else its longest beginning that fits with three dots, else nothing -/
def fit (width : List Char → m α) (limit : α) (text : List Char) : m (List Char) := do
  if Length.atMost (← width text) limit then return text else trimToFit width limit text.reverse

end ReportPress.Text
