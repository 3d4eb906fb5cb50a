import ReportPress.Flow.Label
import ReportPress.Paint.Job
/-!
Footers: a rule, the name of the template at the left, and the label of the page at the right.
-/

namespace ReportPress.Footer

/-- above the lower edge of the page -/
def ruleOffset : Float := 20.0

def textOffset : Float := 10.0

def textColour : Rgb := ⟨100, 100, 100⟩

def ruleColour : Rgb := ⟨200, 200, 200⟩

def ruleWidth : Float := 0.2

def component : String := "footer"

/-- the footer of the page at hand -/
def draw (j : Job) : Painting Unit := do
  let footer := j.settings.footer
  if !footer.enabled then return
  let margins := j.template.config.margins
  let canvas := (← get).canvas
  let right := canvas.width - margins.right
  let ruleY := canvas.height - ruleOffset
  let textY := canvas.height - textOffset
  Painting.draw (·.setDrawColour ruleColour)
  Painting.call (.lineWidth ruleWidth) rfl
  Painting.call (.line margins.left ruleY right ruleY) rfl
  Painting.draw (·.setFont j.family "" footer.fontSize)
  Painting.draw (·.setTextColour textColour)
  let title ← j.encode j.template.displayName
  Painting.draw (·.text margins.left textY title)
  let label ← j.encode (pageLabel footer.pageLabel canvas.pages)
  let width ← Painting.measure label.toList
  Painting.draw (·.text (right - width) textY label)
  Painting.draw (·.setTextColour .black)
  Painting.record component .footer ⟨margins.left, textY⟩ label

end ReportPress.Footer
