import ReportPress.Template.Basic
import ReportPress.Template.Field
/-!
Templates read from stored payloads. Fields are looked at in a fixed order, so of two faults the earlier one is
reported. A payload's optional parts may be missing, null, or of a kind that is none of theirs, which counts as missing.
-/

namespace ReportPress.Template

def readMargins (m : Fields) : Except Failure Margins := do
  let top ← number (m.getD "top") "config.margins.top" 15.0
  let right ← number (m.getD "right") "config.margins.right" 15.0
  let bottom ← number (m.getD "bottom") "config.margins.bottom" 15.0
  let left ← number (m.getD "left") "config.margins.left" 15.0
  return ⟨top, right, bottom, left⟩

/-- texts of values -/
def textFields (fs : Fields) : List (String × String) := fs.map fun f => (f.1, f.2.bare)

def readFontConfig (f : Fields) : Except Failure FontConfig := do
  let sizes ← mapFields (fun k v => number v ("config.fonts.sizes." ++ k) defaultFontSize)
    (Value.section? f "sizes")
  return { primary := (optionalText (f.getD "primary")).getD defaultFamily
           secondary := optionalText (f.getD "secondary")
           sizes := sizes }

def readLogo (v : Value) : Except Failure (Option LogoSpec) := do
  match v with
  | .object _ l =>
    let width ← number (Fields.getD l "width") "config.logo.width" 30.0
    let height ← number (Fields.getD l "height") "config.logo.height" 30.0
    return some ⟨(optionalText (Fields.getD l "url")).getD "logo", width, height⟩
  | _ => return none

def readPageConfig (c : Fields) : Except Failure PageConfig := do
  let pageSize ← choice? PageSize.all PageSize.name (c.getD "pageSize") "config.pageSize"
  let orientation ← choice? Orientation.all Orientation.name (c.getD "orientation") "config.orientation"
  let margins ← readMargins (Value.section? c "margins")
  let fonts ← readFontConfig (Value.section? c "fonts")
  let logo ← readLogo (c.getD "logo")
  return { pageSize := pageSize.getD .a4
           orientation := orientation.getD .portrait
           margins := margins
           fonts := fonts
           colours := textFields (Value.section? c "colors")
           logo := logo }

def readFontStyle (k : String) (v : Value) : Except Failure FontStyle :=
  match v with
  | .object _ f => do
    let size ← number (Fields.getD f "size") ("styles.fonts." ++ k ++ ".size") 10.0
    return { family := (optionalText (Fields.getD f "family")).getD defaultFamily
             size := size
             weight := optionalText (Fields.getD f "weight")
             colour := optionalText (Fields.getD f "color") }
  | _ => fail ("styles.fonts." ++ k) .mapping

def readBorderStyle (k : String) (v : Value) : Except Failure BorderStyle :=
  match v with
  | .object _ b => do
    let width ← number (Fields.getD b "width") ("styles.borders." ++ k ++ ".width") 1.0
    return { width := width
             colour := (optionalText (Fields.getD b "color")).getD "#000000"
             style := (optionalText (Fields.getD b "style")).getD "solid" }
  | _ => fail ("styles.borders." ++ k) .mapping

def readStyles (c : Fields) : Except Failure Styles := do
  let fonts ← mapFields readFontStyle (Value.section? c "fonts")
  let borders ← mapFields readBorderStyle (Value.section? c "borders")
  let spacing ← mapFields (fun k v => number v ("styles.spacing." ++ k) 0.0) (Value.section? c "spacing")
  return ⟨fonts, textFields (Value.section? c "colors"), spacing, borders⟩

def readPoint (v : Value) (field : String) : Except Failure Point :=
  match v with
  | .null => .ok {}
  | .object _ p => do
    let x ← number (Fields.getD p "x") (field ++ ".x") 0.0
    let y ← number (Fields.getD p "y") (field ++ ".y") 0.0
    return ⟨x, y⟩
  | _ => fail field .point

def readSize (v : Value) (field : String) : Except Failure (Option Size) :=
  match v with
  | .null => .ok none
  | .object _ s => do
    let width ← number (Fields.getD s "width") (field ++ ".width") 0.0
    let height ← number (Fields.getD s "height") (field ++ ".height") 0.0
    return some ⟨width, height⟩
  | _ => fail field .size

def readCondition (field : String) (i : Nat) (v : Value) : Except Failure Condition :=
  match v with
  | .object _ c => do
    let at_ := indexed field i
    let name ← requiredText (Fields.getD c "field") (at_ ++ ".field")
    let test ← requiredText (Fields.getD c "operator") (at_ ++ ".operator")
    return ⟨name, Test.ofName test, (Fields.getD c "value").settle⟩
  | _ => fail (indexed field i) .mapping

def readConditions (v : Value) (field : String) : Except Failure (List Condition) :=
  match v with
  | .null => .ok []
  | .list _ xs => mapItems (readCondition field) 0 xs
  | _ => fail field .list

/-- the fields of a style bag, settled -/
def readStyleBag (v : Value) : Fields := Value.settleFields v.fields

def readComponent (field : String) (i : Nat) (v : Value) : Except Failure Component :=
  let place := indexed field i
  match v with
  | .object _ c => do
    let kind ← choice? ComponentKind.all ComponentKind.name (Fields.getD c "type") (place ++ ".type")
    match kind with
    | none => throw (.template (.required (place ++ ".type")))
    | some kind =>
      let content := match Fields.getD c "content" with
        | .null => Value.string ""
        | v => v
      let position ← readPoint (Fields.getD c "position") (place ++ ".position")
      let dimensions ← readSize (Fields.getD c "dimensions") (place ++ ".dimensions")
      let conditions ← readConditions (Fields.getD c "conditions") (place ++ ".conditions")
      return { id := (optionalText (Fields.getD c "id")).getD place
               kind := kind
               content := content.settle
               position := position
               dimensions := dimensions
               style := readStyleBag (Fields.getD c "style")
               dataBinding := optionalText (Fields.getD c "dataBinding")
               conditions := conditions }
  | _ => fail place .mapping

def readSection (place : String) (v : Value) : Except Failure Section :=
  match v with
  | .object _ s => do
    let id ← requiredText (Fields.getD s "id") (place ++ ".id")
    let kind ← choice? SectionKind.all SectionKind.name (Fields.getD s "type") (place ++ ".type")
    let rawComponents ← items (Fields.getD s "components") (place ++ ".components")
    let components ← mapItems (readComponent (place ++ ".components")) 0 rawComponents
    let dimensions ← readSize (Fields.getD s "dimensions") (place ++ ".dimensions")
    let position ← readPoint (Fields.getD s "position") (place ++ ".position")
    let isRepeatable ← boolean (Fields.getD s "isRepeatable") (place ++ ".isRepeatable") false
    let conditions ← readConditions (Fields.getD s "conditions") (place ++ ".conditions")
    return { id := id
             name := (optionalText (Fields.getD s "name")).getD id
             kind := kind.getD .content
             position := position
             dimensions := dimensions.getD ⟨0.0, 0.0⟩
             components := components
             dataBinding := (optionalText (Fields.getD s "dataBinding")).getD ""
             isRepeatable := isRepeatable
             conditions := conditions
             style := readStyleBag (Fields.getD s "style") }
  | _ => fail place .mapping

/-- the template of a payload -/
def read (payload : Value) : Except Failure Template :=
  match payload with
  | .object _ p => do
    let id ← requiredText (Fields.getD p "id") "id"
    let name := (optionalText (Fields.getD p "name")).getD id
    let displayName := (optionalText (Fields.getD p "displayName")).getD name
    let config ← readPageConfig (Value.section? p "config")
    let styles ← readStyles (Value.section? p "styles")
    let rawSections ← items (Fields.getD p "sections") "sections"
    let sections ← mapItems (fun i v => readSection (indexed "sections" i) v) 0 rawSections
    let isActive ← boolean (Fields.getD p "isActive") "isActive" true
    return { id := id
             displayName := displayName
             config := config
             sections := sections
             styles := styles
             name := name
             description := optionalText (Fields.getD p "description")
             templateType := (optionalText (Fields.getD p "templateType")).getD ""
             version := (optionalText (Fields.getD p "version")).getD "1.0.0"
             isActive := isActive }
  | _ => fail "template payload" .mapping

end ReportPress.Template
