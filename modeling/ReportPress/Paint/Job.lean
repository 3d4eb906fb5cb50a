import ReportPress.Font.Weight
import ReportPress.Paint.Work
import ReportPress.Record.Token
import ReportPress.Template.Field
import ReportPress.Text.Latin
/-!
What stays the same while a document is painted: the template, the settings, where images come from, and the fonts.
Also the readings that all components share: numbers and colours of style bags, and texts for the font at hand.
-/

namespace ReportPress

structure Job where
  template : Template
  settings : Settings
  assets : Assets
  /-- the font family of footers and tables, and of texts that name none -/
  family : String := defaultFamily
  /-- families from files; their fonts show all characters -/
  fileFamilies : List String := []
  library : Library := .lenient

/-- where a component is painted, and for what: the value it sees and its place in a repetition -/
structure Spot where
  origin : Point
  scope : Value
  index : Option Int

/-- a filled value, as a number -/
def Value.toNumber (v : Value) : Except Failure Float :=
  match v with
  | .bool b => .ok (if b then 1.0 else 0.0)
  | .int n => Template.ofInteger n
  | .float x => .ok x
  | .string s =>
    match Numeral.readFloat s with
    | some x => .ok x
    | none => .error (.notDecimal s)
  | v => .error (.notNumeric v)

/-- the number of a style entry, or the default for one that is not filled -/
def styleNumber (v : Value) (default : Float) : Except Failure Float :=
  if v.filled then v.toNumber else .ok default

/-- the size of a component, unless neither edge is above zero -/
def Component.size? (c : Component) : Option Size :=
  c.dimensions.filter fun s => !(s.width ≤ 0.0 && s.height ≤ 0.0)

namespace Job

def palette (j : Job) : Record.Palette := j.template.palette

/-- the lowest place for contents: above the bottom margin and what is kept for the footer -/
def usableBottom (j : Job) (c : Canvas) : Float :=
  c.height - j.template.config.margins.bottom - j.settings.layout.footerReserve

/-- the colour of a style entry; the default for an entry that is missing or empty, or no colour -/
def colour (j : Job) (v : Value) (s : Spot) (default : Option Rgb) : Except Failure (Option Rgb) :=
  match v with
  | .null | .string "" => .ok default
  | v => do Rgb.read (← Record.styleValue j.palette v s.scope s.index) default

/-- a text as the font at hand can show it -/
def encode (j : Job) (text : String) : Painting String := do
  if j.fileFamilies.contains (← get).canvas.family then return text else return Text.latin text

end Job

end ReportPress
