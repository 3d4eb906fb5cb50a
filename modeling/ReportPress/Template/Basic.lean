import ReportPress.Order.Stable
import ReportPress.Page.Geometry
import ReportPress.Record.Condition
/-!
Templates: a page, named styles, and sections of components. A template is read once and never changes; its contents
and style bags are settled values.
-/

namespace ReportPress

inductive SectionKind where
  | header
  | content
  | table
  | image
  | footer
  | custom
deriving DecidableEq, Repr

inductive ComponentKind where
  | text
  | image
  | table
  | line
  | rectangle
  | chart
deriving DecidableEq, Repr

namespace SectionKind

def name : SectionKind → String
  | .header => "header"
  | .content => "content"
  | .table => "table"
  | .image => "image"
  | .footer => "footer"
  | .custom => "custom"

def all : List SectionKind := [.header, .content, .table, .image, .footer, .custom]

end SectionKind

namespace ComponentKind

def name : ComponentKind → String
  | .text => "text"
  | .image => "image"
  | .table => "table"
  | .line => "line"
  | .rectangle => "rectangle"
  | .chart => "chart"

def all : List ComponentKind := [.text, .image, .table, .line, .rectangle, .chart]

end ComponentKind

def defaultFamily : String := "helvetica"

def defaultFontSize : Float := 10.0

/-- the logo that a template names -/
structure LogoSpec where
  source : String
  width : Float
  height : Float

structure FontConfig where
  primary : String := defaultFamily
  secondary : Option String := none
  sizes : List (String × Float) := []

/-- a named size -/
def FontConfig.size (f : FontConfig) (name : String) (default : Float) : Float :=
  (Fields.get? f.sizes name).getD default

structure PageConfig where
  pageSize : PageSize := .a4
  orientation : Orientation := .portrait
  margins : Margins := {}
  fonts : FontConfig := {}
  colours : List (String × String) := []
  logo : Option LogoSpec := none

structure FontStyle where
  family : String := defaultFamily
  size : Float := defaultFontSize
  weight : Option String := none
  colour : Option String := none

structure BorderStyle where
  width : Float
  colour : String
  style : String := "solid"

structure Styles where
  fonts : List (String × FontStyle) := []
  colours : List (String × String) := []
  spacing : List (String × Float) := []
  borders : List (String × BorderStyle) := []

structure Component where
  id : String
  kind : ComponentKind
  content : Value := .string ""
  position : Point := {}
  dimensions : Option Size := none
  style : Fields := []
  dataBinding : Option String := none
  conditions : List Condition := []

structure Section where
  id : String
  name : String
  kind : SectionKind
  position : Point
  dimensions : Size
  components : List Component := []
  dataBinding : String := ""
  isRepeatable : Bool := false
  conditions : List Condition := []
  style : Fields := []

structure Template where
  id : String
  displayName : String
  config : PageConfig
  sections : List Section
  styles : Styles := {}
  name : String := ""
  description : Option String := none
  templateType : String := ""
  version : String := "1.0.0"
  isActive : Bool := true

/-- the sections from the top of the page down, those of one height in the order they were declared -/
def Template.sortedSections (t : Template) : List Section :=
  Order.sort (fun a b => a.position.y < b.position.y) t.sections

/-- names of colours, those of the styles before those of the page -/
def Template.palette (t : Template) : List (String × String) :=
  t.styles.colours.foldl (fun acc c => Fields.put c.1 c.2 acc) t.config.colours

end ReportPress
