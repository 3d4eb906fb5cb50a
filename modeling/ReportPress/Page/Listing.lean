import ReportPress.Page.Canvas
/-!
Drawing calls as text, one to a line: the name of the call and its arguments.
-/

namespace ReportPress

namespace Call

def colourWords (c : Rgb) : List String := [c.red, c.green, c.blue].map Numeral.intText

/-- name and arguments -/
def words : Call → List String
  | .new o s => ["new", o.letter, s.name]
  | .margins l t r => ["margins", floatText l, floatText t, floatText r]
  | .noPageBreaks => ["noPageBreaks"]
  | .title t => ["title", Text.quoted t]
  | .creator t => ["creator", Text.quoted t]
  | .addPage => ["addPage"]
  | .addFont f => ["addFont", Text.quoted f]
  | .font f s x => ["font", Text.quoted f, Text.quoted s, floatText x]
  | .textColour c => "textColour" :: colourWords c
  | .fillColour c => "fillColour" :: colourWords c
  | .drawColour c => "drawColour" :: colourWords c
  | .lineWidth w => ["lineWidth", floatText w]
  | .moveTo x y => ["moveTo", floatText x, floatText y]
  | .text x y s => ["text", floatText x, floatText y, Text.quoted s]
  | .line x₁ y₁ x₂ y₂ => ["line", floatText x₁, floatText y₁, floatText x₂, floatText y₂]
  | .rect x y w h s => ["rect", floatText x, floatText y, floatText w, floatText h, s]
  | .cell w h s fill => ["cell", floatText w, floatText h, Text.quoted s, if fill then "filled" else "plain"]
  | .image x y w h => ["image", floatText x, floatText y, floatText w, floatText h]

def listed (c : Call) : String := " ".intercalate c.words

end Call

namespace Canvas

/-- the first line of a document -/
def heading : String := "%PDF-1.3"

/-- the document as octets: its heading, and its drawing calls as remarks -/
def octets (c : Canvas) : ByteArray :=
  ("\n".intercalate (heading :: c.calls.map fun call => "% " ++ call.listed) ++ "\n").toUTF8

end Canvas

end ReportPress
