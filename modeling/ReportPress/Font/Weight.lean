import ReportPress.Text.LetterCase
import ReportPress.Value.Equality
/-!
Font weights: the words and numbers that call for a bold or a slanted face. Any other weight is the plain face.
-/

namespace ReportPress.Font

/-- the letters of a face: `B` for bold, `I` for slanted -/
def faces : List (String × List String) :=
  [("B", ["bold", "700", "800", "900", "bolder"]), ("I", ["italic"]),
   ("BI", ["bolditalic", "bold-italic", "bold italic"])]

def styleOfWord (word : String) : String :=
  ((faces.find? fun f => f.2.contains word).map (·.1)).getD ""

/-- the style of a weight; its case and the blanks around it do not matter -/
def styleOf (weight : Value) : String :=
  styleOfWord (Text.lower (Text.trim (if weight.filled then weight.bare else "")))

end ReportPress.Font
