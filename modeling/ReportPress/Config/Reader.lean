import ReportPress.Config.Basic
import ReportPress.Files.Home
import ReportPress.Template.Field
/-!
Settings read from a document. A missing setting has its default; a number or a truth value may also be written as a
text; a part of the document that is no table counts as missing. Paths that are not absolute count from the directory of
the document.
-/

namespace ReportPress.Config

def refuse {α : Type} (field : String) (need : SettingNeed) : Except Failure α :=
  .error (.setting ⟨field, need⟩)

/-- a text without the blanks around it; nothing if none is left -/
def text? (v : Value) (field : String) : Except Failure (Option String) :=
  match v with
  | .null => .ok none
  | .string s =>
    let t := Text.trim s
    .ok (if t = "" then none else some t)
  | _ => refuse field .text

def path? (env : Environment) (base : Option Path) (v : Value) (field : String) :
    Except Failure (Option Path) := do
  match ← text? v field with
  | none => return none
  | some t =>
    let p ← env.expand (Path.ofString t)
    match base with
    | some b => return some (Path.join b p)
    | none => return some p

def boolean (v : Value) (field : String) (default : Bool) : Except Failure Bool :=
  match v with
  | .null => .ok default
  | .bool b => .ok b
  | .int n => if n = 0 then .ok false else if n = 1 then .ok true else refuse field .boolean
  | .string s =>
    match Template.boolWord? s with
    | some b => .ok b
    | none => refuse field .boolean
  | _ => refuse field .boolean

def number (v : Value) (field : String) : Except Failure Float :=
  match v with
  | .int n => Template.ofInteger n
  | .float x => .ok x
  | .string s =>
    match Numeral.readFloat s with
    | some x => .ok x
    | none => refuse field .number
  | _ => refuse field .number

def nonNegative (v : Value) (field : String) (default : Float) : Except Failure Float :=
  match v with
  | .null => .ok default
  | v => do
    let x ← number v field
    if x < 0.0 then refuse field .nonNegative else return x

def positive (v : Value) (field : String) (default : Float) : Except Failure Float :=
  match v with
  | .null => .ok default
  | v => do
    let x ← number v field
    if x ≤ 0.0 then refuse field .positive else return x

/-- an integer: written as one, as a whole number with a fraction, or as a text -/
def integer (v : Value) (field : String) : Except Failure Int :=
  match v with
  | .int n => .ok n
  | .float x =>
    match isWhole x, truncate? x with
    | true, some n => .ok n
    | _, _ => refuse field .integer
  | .string s =>
    match Numeral.readInt s with
    | .ok n => .ok n
    | .error _ => refuse field .integer
  | _ => refuse field .integer

def positiveInteger (v : Value) (field : String) (default : Int) : Except Failure Int :=
  match v with
  | .null => .ok default
  | v => do
    let n ← integer v field
    if n ≤ 0 then refuse field .positiveInteger else return n

def readLayout (c : Fields) : Except Failure LayoutSettings := do
  let repeatGap ← nonNegative (c.getD "repeat_gap_mm") "layout.repeat_gap_mm" 10.0
  let footerReserve ← nonNegative (c.getD "footer_reserve_mm") "layout.footer_reserve_mm" 30.0
  let tableMaxRows ← positiveInteger (c.getD "table_max_rows") "layout.table_max_rows" 20
  let tableRowHeight ← positive (c.getD "table_row_height_mm") "layout.table_row_height_mm" 8.0
  return ⟨repeatGap, footerReserve, tableMaxRows, tableRowHeight⟩

def readFooter (c : Fields) : Except Failure FooterSettings := do
  let pageLabel ← text? (c.getD "page_label") "footer.page_label"
  let enabled ← boolean (c.getD "enabled") "footer.enabled" true
  let fontSize ← positive (c.getD "font_size") "footer.font_size" 9.0
  return { enabled := enabled, pageLabel := pageLabel.getD ({} : FooterSettings).pageLabel, fontSize := fontSize }

def readAssets (env : Environment) (base : Option Path) (c : Fields) : Except Failure AssetSettings := do
  let timeout ← positive (c.getD "timeout_seconds") "assets.timeout_seconds" 5.0
  let maxImagePx ← positiveInteger (c.getD "max_image_px") "assets.max_image_px" 400
  let logoPath ← path? env base (c.getD "logo_path") "assets.logo_path"
  let allowRemote ← boolean (c.getD "allow_remote") "assets.allow_remote" true
  return ⟨timeout, maxImagePx, logoPath, allowRemote⟩

/-- font files by family, families in lower case -/
def readFonts (env : Environment) (base : Option Path) : Fields → List (String × Path) →
    Except Failure (List (String × Path))
  | [], acc => .ok acc
  | (family, v) :: rest, acc => do
    match ← path? env base v ("fonts." ++ family) with
    | some p => readFonts env base rest (Fields.put (Text.lower (Text.trim family)) p acc)
    | none => readFonts env base rest acc

/-- the settings of a document that lies in `base` -/
def read (env : Environment) (base : Option Path) (document : Fields) : Except Failure Settings := do
  let layout ← readLayout (Value.section? document "layout")
  let footer ← readFooter (Value.section? document "footer")
  let assets ← readAssets env base (Value.section? document "assets")
  let fontFiles ← readFonts env base (Value.section? document "fonts") []
  let templatesDir ← path? env base (Fields.getD (Value.section? document "templates") "directory")
    "templates.directory"
  return ⟨layout, footer, assets, templatesDir, fontFiles⟩

end ReportPress.Config
