import ReportPress.Note
import ReportPress.Text.Split
/-!
What a command shows: lines of text, rows of a table, or how the program is used. Characters that would move the cursor
are left out, tabs are widened, and lines have no blanks at their ends.
-/

namespace ReportPress

inductive Shown where
  | line (text : String)
  | row (cells : List String)
  | usage
deriving DecidableEq, Repr

namespace Shown

/-- bell, backspace, vertical tab, form feed and carriage return -/
def isControl (c : Char) : Bool := [7, 8, 11, 12, 13].contains c.toNat

def tabWidth : Nat := 8

/-- tabs as spaces up to the next column of the grid; the text starts at `column` -/
def widenTabs : Nat → List Char → List Char
  | _, [] => []
  | column, '\t' :: rest =>
    let width := tabWidth - column % tabWidth
    List.replicate width ' ' ++ widenTabs (column + width) rest
  | column, c :: rest => c :: widenTabs (column + 1) rest

/-- the lines of a text as they are shown -/
def textLines (cs : List Char) : List String :=
  (Text.split '\n' (cs.filter fun c => !isControl c)).map fun l => String.ofList (Text.trimEnd (widenTabs 0 l))

def ofText (cs : List Char) : List Shown := (textLines cs).map .line

/-- the rows of a table whose cells may hold several lines; a short cell is empty further down -/
def ofCells (cells : List (List Char)) : List Shown :=
  let columns := cells.map fun c => (textLines c).map Text.trim
  let height := (columns.map (·.length)).foldl max 1
  (List.range height).map fun i => .row (columns.map fun c => c.getD i "")

/-- the name of a level in the margin that notes have -/
def margin : Level → String
  | .info => "INFO     "
  | .warning => "WARNING  "

def emptyMargin : String := "         "

/-- a note; its first line stands beside its level -/
def ofNote (n : Note) : List Shown :=
  match textLines n.text.toList with
  | [] => []
  | first :: rest =>
    ((margin n.level ++ first) :: rest.map (emptyMargin ++ ·)).map fun l =>
      .line (String.ofList (Text.trimEnd l.toList))

end Shown

end ReportPress
