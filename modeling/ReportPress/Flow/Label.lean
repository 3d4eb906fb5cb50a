import ReportPress.Number.Numeral
import ReportPress.Text.Split
/-!
The label of a page: a text in which a word in braces stands for the number of the page.
-/

namespace ReportPress

def pageLabel (template : String) (page : Int) : String :=
  String.ofList (Text.replace '\x7b' "page\x7d".toList (Numeral.intText page).toList template.toList)

end ReportPress
