import ReportPress.Paint.Job
import ReportPress.Text.Wrap
/-!
Painting texts. The text of a component is its content with tokens replaced, or, if the content has none, what the
component is bound to, if that is not empty. A style that cannot be applied is replaced by the default one, with a note;
it never keeps a text from being painted.
-/

namespace ReportPress.Paint

/-- the text of a component before tokens are replaced -/
def sourceText (c : Component) (scope : Value) : Except Failure String := do
  let content := match c.content with
    | .string s => s
    | _ => ""
  match c.dataBinding with
  | none => return content
  | some path =>
    if Record.hasTokens content then return content
    else
      let bound := Record.displayFound (← Record.resolve scope path)
      return if bound = "" then content else bound

def componentText (c : Component) (s : Spot) : Except Failure String := do
  Record.substitute (← sourceText c s.scope) s.scope s.index

/-- the named font that a style bag refers to -/
def namedFont (j : Job) (style : Fields) : Option FontStyle :=
  match style.getD "textStyle" with
  | .string name => Fields.get? j.template.styles.fonts name
  | _ => none

/-- a style entry if it is filled, else the text given for it -/
def entryOr (v : Value) (other : Option String) : Value :=
  if v.filled then v
  else
    match other with
    | some s => .string s
    | none => .null

/-- chooses font and colour of a text by its style bag; the result is the font size -/
def applyStyle (j : Job) (c : Component) (s : Spot) : Painting Float := do
  let style := c.style
  let named := namedFont j style
  let size ← Painting.ofExcept (styleNumber (style.getD "fontSize") ((named.map (·.size)).getD defaultFontSize))
  let weight := entryOr (style.getD "fontWeight") (named.bind (·.weight))
  let family := (entryOr (style.getD "fontFamily") (some ((named.map (·.family)).getD j.family))).bare
  let colour ← Painting.ofExcept
    (j.colour (entryOr (style.getD "color") (named.bind (·.colour))) s (some .black))
  Painting.draw (·.setFont (Text.lower family) (Font.styleOf weight) size)
  Painting.draw (·.setTextColour (colour.getD .black))
  return size

/-- the style of texts whose own cannot be applied -/
def applyDefaultStyle : Painting Float := do
  Painting.draw (·.setFont defaultFamily "" defaultFontSize)
  Painting.draw (·.setTextColour .black)
  return defaultFontSize

def styleText (j : Job) (c : Component) (s : Spot) : Painting Float :=
  (applyStyle j c s).orElse Failure.isStyleFault fun f => do
    Painting.warn .painting
      ("Style for " ++ c.id ++ " could not be applied (" ++ f.message ++ "); using defaults")
    applyDefaultStyle

/-- the lines of a text: broken to the width of the component if it has one, else all on one line -/
def textLines (c : Component) (text : String) : Painting (List (List Char)) :=
  match c.size? with
  | some size =>
    if 0.0 < size.width then Text.wrap Painting.measure size.width text.toList
    else return [Text.join [' '] (Text.linesFrom [] text.toList)]
  | none => return [Text.join [' '] (Text.linesFrom [] text.toList)]

/-- paints the lines that are not empty, one below the other; `i` counts them all -/
def paintLines (origin : Point) (step : Float) : Nat → List (List Char) → Painting Unit
  | _, [] => return
  | i, line :: rest => do
    unless line.isEmpty do
      Painting.draw (·.text origin.x (origin.y + Binary64.ofInt i * step) (String.ofList line))
    paintLines origin step (i + 1) rest

def paintText (j : Job) (c : Component) (s : Spot) : Painting Unit := do
  let text ← Painting.ofExcept (componentText c s)
  if Text.isBlankText text then return
  let size ← styleText j c s
  let text ← j.encode text
  let lines ← textLines c text
  paintLines s.origin (textLineHeight size) 0 lines
  Painting.draw (·.setTextColour .black)
  Painting.record c.id .text s.origin (String.ofList (Text.join ['\n'] lines))

end ReportPress.Paint
