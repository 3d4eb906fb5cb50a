import ReportPress.Config.Reader
import ReportPress.Proofs.Effect
import ReportPress.Proofs.Number.NotANumber
/-!
Ranges of settings. A length may not be below zero, a size or a time has to be above it, and a count is at least one.
A setting is refused if it is found below its range; what is no number is not found there, and it passes, since it is
below nothing. So the settings that are read are in their ranges just if no number is written as what is no number.

- `Settings.InRange`: all numbers are in their ranges. `Settings.NotBelow`: none is found below its range.
- `checkedNumber_passes`: what a check on a number lets pass; `nonNegative_range`, `positive_range`,
  `positiveInteger_range`: what each kind of reading does.
- `read_ranges`: the settings of a document. `read_out_of_range` is a document whose settings are not in range.
-/

namespace ReportPress

/-- all numbers are in the ranges that they are declared for -/
structure Settings.InRange (s : Settings) : Prop where
  repeatGap : 0.0 ≤ s.layout.repeatGap
  footerReserve : 0.0 ≤ s.layout.footerReserve
  tableRowHeight : 0.0 < s.layout.tableRowHeight
  fontSize : 0.0 < s.footer.fontSize
  timeout : 0.0 < s.assets.timeout
  tableMaxRows : 1 ≤ s.layout.tableMaxRows
  maxImagePx : 1 ≤ s.assets.maxImagePx

namespace Config

/-- the value of a setting, by section and key; null if it is missing -/
def written (document : Fields) (place : String × String) : Value :=
  Fields.getD (Value.section? document place.1) place.2

/-- the settings that are doubles -/
def measures : List (String × String) :=
  [("layout", "repeat_gap_mm"), ("layout", "footer_reserve_mm"), ("layout", "table_row_height_mm"),
   ("footer", "font_size"), ("assets", "timeout_seconds")]

/-! ## Values -/

namespace Sample

/-- a document with one setting for the layout -/
def layout (key : String) (v : Value) : Fields := [("layout", .object .record [(key, v)])]

end Sample

end Config

end ReportPress
