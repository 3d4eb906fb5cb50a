import ReportPress.Template.Basic
/-!
The template that comes with the program: a report on the inspection of a site, with a cover, a summary, and a block for
each finding.
-/

namespace ReportPress.Inspection

/-- a token in a text -/
def token (inside : String) : String := "\x7b\x7b" ++ inside ++ "\x7d\x7d"

def settledObject (fields : Fields) : Value := .object .template fields

def settledList (items : List Value) : Value := .list .template items

/-- a field is there and not null -/
def present (field : String) : List Condition := [⟨field, .present, .null⟩]

def bold (size : Int) : Fields := [("fontSize", .int size), ("fontWeight", .string "bold")]

def coloured (style : Fields) (colour : String) : Fields := style ++ [("color", .string colour)]

def filledWith (colour : String) : Fields := [("fillColor", .string colour)]

def named (font : String) : Fields := [("textStyle", .string font)]

def text (id content : String) (x y : Float) (style : Fields) : Component :=
  { id := id, kind := .text, content := .string content, position := ⟨x, y⟩, style := style }

def bar (id : String) (x y width height : Float) (colour : String) : Component :=
  { id := id, kind := .rectangle, position := ⟨x, y⟩, dimensions := some ⟨width, height⟩, style := filledWith colour }

/-- a text that shows a field of the record in a box -/
def fieldText (id field : String) (x y width height : Float) (style : Fields) : Component :=
  { text id (token field) x y style with
    dimensions := some ⟨width, height⟩
    dataBinding := some field }

def fonts : List (String × FontStyle) :=
  [("title", ⟨defaultFamily, 24.0, some "bold", some "#2563eb"⟩),
   ("header", ⟨defaultFamily, 14.0, some "bold", some "#ffffff"⟩),
   ("subheader", ⟨defaultFamily, 12.0, some "bold", some "#000000"⟩),
   ("body", ⟨defaultFamily, 10.0, some "normal", some "#000000"⟩),
   ("small", ⟨defaultFamily, 9.0, some "normal", some "#6b7280"⟩)]

def colours : List (String × String) :=
  [("primary", "#2563eb"), ("text", "#000000"), ("gray", "#6b7280"), ("lightGray", "#f3f4f6"), ("white", "#ffffff")]

def config : PageConfig where
  fonts := ⟨defaultFamily, none,
    [("title", 24.0), ("header", 14.0), ("subheader", 12.0), ("body", 10.0), ("small", 9.0)]⟩
  colours := colours
  logo := some ⟨"logo", 30.0, 30.0⟩

def styles : Styles where
  fonts := fonts
  colours := colours ++ [("red", "#dc2626")]
  spacing := [("small", 5.0), ("medium", 10.0), ("large", 20.0)]
  borders := [("thin", ⟨0.3, "#d1d5db", "solid"⟩), ("medium", ⟨0.6, "#2563eb", "solid"⟩)]

def cover : Section where
  id := "cover_header"
  name := "Cover Page Header"
  kind := .header
  position := ⟨0.0, 0.0⟩
  dimensions := ⟨210.0, 45.0⟩
  style := [("backgroundColor", .string "#2563eb")]
  components :=
    [bar "header_bg" 0.0 0.0 210.0 45.0 "primary",
     { id := "logo", kind := .image, content := .string "logo", position := ⟨15.0, 8.0⟩,
       dimensions := some ⟨30.0, 30.0⟩ },
     text "company_name" (token "companyName") 50.0 25.0 (coloured (bold 20) "white")]

def title : Section where
  id := "title_section"
  name := "Report Title"
  kind := .content
  position := ⟨15.0, 70.0⟩
  dimensions := ⟨180.0, 40.0⟩
  components :=
    [text "main_title" "İŞ SAĞLIĞI VE GÜVENLİĞİ" 0.0 0.0 (named "title"),
     text "sub_title" "SAHA GÖZLEM RAPORU" 0.0 15.0 (named "title"),
     fieldText "project_location" "projectLocation" 0.0 35.0 180.0 20.0
       (coloured [("fontSize", .int 16)] "gray")]

def infoColumn (field header : String) (width : Int) : Value :=
  settledObject [("field", .string field), ("header", .string header), ("width", .int width)]

def info : Section where
  id := "report_info"
  name := "Report Information"
  kind := .table
  position := ⟨15.0, 140.0⟩
  dimensions := ⟨180.0, 100.0⟩
  components :=
    [{ id := "info_table"
       kind := .table
       content := settledObject
         [("columns", settledList [infoColumn "label" "Alan" 60, infoColumn "value" "Değer" 120]),
          ("cellHeight", .int 15),
          ("headerStyle", settledObject [("backgroundColor", .string "lightGray"), ("fontWeight", .string "bold")])]
       dimensions := some ⟨180.0, 100.0⟩
       dataBinding := some "reportInfo"
       style := [("fontSize", .int 11)] }]

def summary : Section where
  id := "executive_summary"
  name := "Executive Summary"
  kind := .content
  position := ⟨15.0, 232.0⟩
  dimensions := ⟨180.0, 30.0⟩
  dataBinding := "managementSummary"
  conditions := present "managementSummary"
  components :=
    [bar "summary_section_title" 0.0 0.0 180.0 10.0 "primary",
     text "summary_section_text" "YÖNETİCİ ÖZETİ" 5.0 7.0 (coloured (bold 12) "white"),
     fieldText "summary_content" "managementSummary" 5.0 17.0 170.0 12.0 (named "body")]

/-- a token that chooses by the level of danger -/
def byDanger (high medium other : String) : String :=
  token ("dangerLevel === \"high\" ? \"" ++ high ++ "\" : dangerLevel === \"medium\" ? \"" ++ medium ++ "\" : \"" ++
    other ++ "\"")

def small (size : Int) : Fields := [("fontSize", .int size)]

def findings : Section where
  id := "findings"
  name := "Safety Findings"
  kind := .content
  position := ⟨15.0, 290.0⟩
  dimensions := ⟨180.0, 175.0⟩
  dataBinding := "findings"
  isRepeatable := true
  components :=
    [bar "finding_header_bg" 0.0 0.0 180.0 12.0 "lightGray",
     { text "finding_title" ("BULGU " ++ token "itemIndex" ++ ": " ++ token "title") 5.0 8.0
         (coloured (bold 12) "#111827") with dataBinding := some "title" },
     { text "finding_location" ("Konum: " ++ token "location") 5.0 20.0 (named "small") with
       dataBinding := some "location" },
     bar "risk_badge" 140.0 15.0 35.0 8.0 (byDanger "#dc2626" "#ea580c" "#16a34a"),
     { text "risk_text" (byDanger "YÜKSEK RİSK" "ORTA RİSK" "DÜŞÜK RİSK") 143.0 20.0 (coloured (bold 8) "white") with
       dataBinding := some "dangerLevel" },
     { id := "finding_photo", kind := .image, position := ⟨120.0, 30.0⟩, dimensions := some ⟨55.0, 40.0⟩,
       dataBinding := some "images.0", conditions := present "images" },
     text "current_situation_label" "Mevcut Durum:" 5.0 35.0 (bold 10),
     fieldText "current_situation_text" "currentSituation" 5.0 45.0 110.0 40.0 (small 9),
     { text "legal_basis_label" "Hukuki Dayanak:" 5.0 90.0 (bold 10) with conditions := present "legalBasis" },
     { fieldText "legal_basis_text" "legalBasis" 5.0 100.0 170.0 30.0 (small 9) with
       conditions := present "legalBasis" },
     { text "recommendation_label" "Öneri/Çözüm:" 5.0 135.0 (bold 10) with conditions := present "recommendation" },
     { fieldText "recommendation_text" "recommendation" 5.0 145.0 170.0 30.0 (small 9) with
       conditions := present "recommendation" }]

def evaluations : Section where
  id := "general_evaluation"
  name := "General Evaluation"
  kind := .content
  position := ⟨15.0, 300.0⟩
  dimensions := ⟨180.0, 60.0⟩
  dataBinding := "evaluations"
  isRepeatable := true
  components :=
    [bar "eval_section_title" 0.0 0.0 180.0 12.0 "primary",
     text "eval_section_text" "GENEL DEĞERLENDİRME" 5.0 8.0 (coloured (bold 12) "white"),
     fieldText "eval_content" "text" 5.0 20.0 170.0 40.0 (named "body")]

def report : Template where
  id := "isg-inspection-report"
  name := "isg_inspection_report"
  displayName := "İSG İnceleme Raporu"
  description := some "Standart İş Sağlığı ve Güvenliği saha inceleme raporu şablonu"
  templateType := "isg_report"
  config := config
  sections := [cover, title, info, summary, findings, evaluations]
  styles := styles

end ReportPress.Inspection
