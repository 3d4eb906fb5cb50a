import ReportPress.Files.Path
/-!
Settings of the engine, with their defaults, and why a setting cannot be taken.
-/

namespace ReportPress

structure LayoutSettings where
  /-- between repeated instances -/
  repeatGap : Float := 10.0
  /-- kept free above the bottom margin -/
  footerReserve : Float := 30.0
  tableMaxRows : Int := 20
  tableRowHeight : Float := 8.0

structure FooterSettings where
  enabled : Bool := true
  pageLabel : String := "Page \x7bpage\x7d"
  fontSize : Float := 9.0

structure AssetSettings where
  timeout : Float := 5.0
  maxImagePx : Int := 400
  logoPath : Option Path := none
  allowRemote : Bool := true

structure Settings where
  layout : LayoutSettings := {}
  footer : FooterSettings := {}
  assets : AssetSettings := {}
  templatesDir : Option Path := none
  fontFiles : List (String × Path) := []

/-! ## Why a setting cannot be taken -/

inductive SettingNeed where
  | text
  | boolean
  | number
  | nonNegative
  | positive
  | integer
  | positiveInteger
deriving DecidableEq, Repr

def SettingNeed.phrase : SettingNeed → String
  | .text => "must be a string"
  | .boolean => "must be a boolean"
  | .number => "must be a number"
  | .nonNegative => "must not be negative"
  | .positive => "must be positive"
  | .integer => "must be an integer"
  | .positiveInteger => "must be a positive integer"

structure SettingFault where
  field : String
  need : SettingNeed
deriving DecidableEq, Repr

def SettingFault.message (f : SettingFault) : String := f.field ++ " " ++ f.need.phrase

end ReportPress
