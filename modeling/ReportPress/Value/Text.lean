import ReportPress.Number.Shortest
import ReportPress.Number.Numeral
import ReportPress.Text.Quoted
import ReportPress.Value.Basic
/-!
Values as text.

`Value.shown` writes a value in full: strings quoted, containers with brackets that tell whose they are, words for null
and the truth values. `Value.bare` is the same but for a string, which stands for itself, and for an object, which has
its braces only.
`Value.display` is how a value appears on a page: null is empty, truth values are lower case, a whole double has no
fraction, and the items of a list are separated by commas.
-/

namespace ReportPress.Value

/-- the words and brackets of written values -/
structure Spelling where
  null : String
  yes : String
  no : String
  /-- around a list of a record -/
  listEnds : String × String
  /-- around a list of a template -/
  settledEnds : String × String
  /-- what a settled list of one item has after the item -/
  settledOne : String
  /-- around a settled object, outside its braces -/
  settledObject : String × String

def spelling : Spelling :=
  { null := "None", yes := "True", no := "False", listEnds := ("[", "]"), settledEnds := ("(", ")"),
    settledOne := ",", settledObject := ("mappingproxy(", ")") }

def boolWord (b : Bool) : String := if b then spelling.yes else spelling.no

def listText : Owner → List String → String
  | .record, items => spelling.listEnds.1 ++ ", ".intercalate items ++ spelling.listEnds.2
  | .template, [item] => spelling.settledEnds.1 ++ item ++ spelling.settledOne ++ spelling.settledEnds.2
  | .template, items => spelling.settledEnds.1 ++ ", ".intercalate items ++ spelling.settledEnds.2

def bracesText (fields : List String) : String := "\x7b" ++ ", ".intercalate fields ++ "\x7d"

def objectText (owner : Owner) (fields : List String) : String :=
  match owner with
  | .record => bracesText fields
  | .template => spelling.settledObject.1 ++ bracesText fields ++ spelling.settledObject.2

mutual
/-- the value in full -/
def shown : Value → String
  | .null => spelling.null
  | .bool b => boolWord b
  | .int n => Numeral.intText n
  | .float x => floatText x
  | .string s => Text.quoted s
  | .list owner items => listText owner (shownAll items)
  | .object owner fields => objectText owner (shownFields fields)

def shownAll : List Value → List String
  | [] => []
  | v :: rest => shown v :: shownAll rest

def shownFields : List (String × Value) → List String
  | [] => []
  | (k, v) :: rest => (Text.quoted k ++ ": " ++ shown v) :: shownFields rest
end

/-- the value in full, but a string without quotes and an object without the words that tell whose it is -/
def bare : Value → String
  | .string s => s
  | .object _ fields => bracesText (shownFields fields)
  | v => shown v

mutual
/-- the value as it appears on a page -/
def display : Value → String
  | .null => ""
  | .bool b => if b then "true" else "false"
  | .int n => Numeral.intText n
  | .float x =>
    match isWhole x, truncate? x with
    | true, some n => Numeral.intText n
    | _, _ => floatText x
  | .string s => s
  | .list _ items => ", ".intercalate (displayAll items)
  | .object _ fields => bracesText (shownFields fields)

def displayAll : List Value → List String
  | [] => []
  | v :: rest => display v :: displayAll rest
end

end ReportPress.Value
