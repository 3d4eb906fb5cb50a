import ReportPress.Paint.Text
import ReportPress.Proofs.Record.Substitution
/-!
Texts that come from a record. A text component whose content has no tokens shows what it is bound to. The text of the
bound value goes the way of all texts, though, so tokens in it are replaced as well; it is painted as it stands if it
has none.

- `writeText`: what is done with the text once it is known. `paintText_eq`: painting is finding the text, then that.
- `paintText_bound`: painting a text that comes from a record. `bound_token_replaced`: one that looks like a template.
-/

namespace ReportPress

namespace Paint

/-- the text that a component is declared with -/
def declaredText (c : Component) : String :=
  match c.content with
  | .string s => s
  | _ => ""

/-- shows a text that is not blank: in the style of the component and its font, broken into lines -/
def writeText (j : Job) (c : Component) (s : Spot) (text : String) : Painting Unit := do
  let size ← styleText j c s
  let text ← j.encode text
  let lines ← textLines c text
  paintLines s.origin (textLineHeight size) 0 lines
  Painting.draw (·.setTextColour .black)
  Painting.record c.id .text s.origin (String.ofList (Text.join ['\n'] lines))

/-- painting a text is finding it, and showing it unless it is blank -/
theorem paintText_eq (j : Job) (c : Component) (s : Spot) :
    paintText j c s = (do
      let text ← Painting.ofExcept (componentText c s)
      if Text.isBlankText text then return
      writeText j c s text) := rfl

/-- a component whose text has no tokens shows what it is bound to, if that is not empty -/
theorem sourceText_bound {c : Component} {scope v : Value} {path : String}
    (hcontent : Record.hasTokens (declaredText c) = false) (hbinding : c.dataBinding = some path)
    (hfound : Record.resolve scope path = .ok (some v)) (hshown : v.display ≠ "") :
    sourceText c scope = .ok v.display := by
  have hsource : sourceText c scope = if Record.hasTokens (declaredText c) then .ok (declaredText c) else do
      let bound := Record.displayFound (← Record.resolve scope path)
      return if bound = "" then declaredText c else bound := by
    unfold sourceText
    rw [hbinding]
    rfl
  rw [hsource, hcontent, if_neg Bool.false_ne_true, hfound]
  exact congrArg Except.ok (if_neg hshown)

/-- **A text that comes from a record.** For a component whose content has no tokens, bound to a value of a text that is
not blank, the text that is shown is that of the value, with the tokens in it replaced; so it is that of the value as it
stands if there are no tokens in it. -/
theorem paintText_bound (j : Job) (c : Component) (s : Spot) (path : String) (v : Value)
    (hcontent : Record.hasTokens (declaredText c) = false) (hbinding : c.dataBinding = some path)
    (hfound : Record.resolve s.scope path = .ok (some v)) (hshown : Text.isBlankText v.display = false) :
    (Record.hasTokens v.display = false → paintText j c s = writeText j c s v.display) ∧
      paintText j c s = (do
        let text ← Painting.ofExcept (Record.substitute v.display s.scope s.index)
        if Text.isBlankText text then return
        writeText j c s text) := by
  have hne : v.display ≠ "" := by
    intro hempty
    rw [hempty] at hshown
    exact absurd hshown (by decide)
  have hsource := sourceText_bound hcontent hbinding hfound hne
  have htext : componentText c s = Record.substitute v.display s.scope s.index := by
    rw [componentText, hsource]
    rfl
  refine ⟨fun hplain => ?_, ?_⟩
  · rw [paintText_eq, htext, Record.substitute_of_no_tokens hplain]
    show (if Text.isBlankText v.display = true then pure () else writeText j c s v.display) = _
    rw [hshown, if_neg Bool.false_ne_true]
  · rw [paintText_eq, htext]

namespace Sample

def remark : Component := { id := "remark", kind := .text, dataBinding := some "note" }

def job : Job :=
  { template := { id := "note", displayName := "Note", config := {}, sections := [] }, settings := {}
    assets := { fetchers := { web := fun _ => .silence } } }

def page : Work := { canvas := { width := 210.0, height := 297.0, pages := 1 } }

/-- a record with a note that looks like a template, and with a field that the note names -/
def record (note : String) : Value :=
  .object .record [("note", .string note), ("secret", .string "s3")]

def spot (note : String) : Spot := ⟨⟨10.0, 20.0⟩, record note, none⟩

end Sample

/-- a note without tokens is shown as it stands -/
theorem paintText_bound_sample :
    paintText Sample.job Sample.remark (Sample.spot "see \x7b page") =
      writeText Sample.job Sample.remark (Sample.spot "see \x7b page") "see \x7b page" :=
  (paintText_bound Sample.job Sample.remark (Sample.spot "see \x7b page") "note" (.string "see \x7b page")
    (by decide +kernel) rfl rfl (by decide +kernel)).1 (by decide +kernel)

/-- a note that names another field in a token is shown with that field in its place -/
theorem bound_token_replaced :
    Record.hasTokens (declaredText Sample.remark) = false ∧ Sample.remark.dataBinding = some "note" ∧
      Record.resolve (Sample.spot "see \x7b\x7bsecret\x7d\x7d").scope "note" =
        .ok (some (.string "see \x7b\x7bsecret\x7d\x7d")) ∧
      (Value.string "see \x7b\x7bsecret\x7d\x7d").display = "see \x7b\x7bsecret\x7d\x7d" ∧
      Text.isBlankText "see \x7b\x7bsecret\x7d\x7d" = false ∧
      (componentText Sample.remark (Sample.spot "see \x7b\x7bsecret\x7d\x7d")).toOption = some "see s3" ∧
      ((paintText Sample.job Sample.remark (Sample.spot "see \x7b\x7bsecret\x7d\x7d")).run.run Sample.page).2.trace.map
        (·.text) = ["see s3"] :=
  ⟨by decide +kernel, rfl, rfl, rfl, by decide +kernel, by decide +kernel, by decide +kernel⟩

end Paint

end ReportPress
