import ReportPress.Proofs.Paint.Alike
import ReportPress.Proofs.Paint.Style
import ReportPress.Proofs.Value.Fields
import ReportPress.Proofs.Value.Text
/-!
Components side by side. A component painted in two documents that are alike leaves them alike, even if one of the two
gets its image and the other does not. What is at hand from earlier components does not matter for this. Tables and most
texts choose a font by name before they measure or show anything, so whether they succeed depends on the characters and
on that font. A text whose font has no family is set in the font at hand, which may be another one in the other document.
Each font at hand shows the text as it is encoded for it, if no font from a file has the name of a built-in one; what is
left is that a style may be applied with the one and replaced with the other, and only a colour that is vast can tell.

- `VastColour`, `Overrun.congr`: a style overruns with any font at hand, but for a vast colour.
- `Canvas.knows_hand`: a built-in font at hand comes in all styles, so without others a vast colour cannot tell either.
- `Steadfast`: the texts of which it does not depend on the font at hand whether they are painted.
- `twin_paintText`, `twin_paintTable`, `twin_paintRectangle`, `twin_paintLine`: the kinds that ask for no image.
- `image_succeeds`: an image adds one entry, itself or its placeholder, or nothing, whoever is asked for it.
- `twin_place`: any component, with images from two different sources.
-/

namespace ReportPress

/-! ## Built-in fonts -/

/-- the styles that weights come to -/
theorem Font.styleOf_mem (weight : Value) : styleOf weight ∈ ["", "B", "I", "BI"] := by
  unfold styleOf styleOfWord
  cases hfound : faces.find? _ with
  | none => exact List.mem_cons_self
  | some face =>
    have hall : ∀ f ∈ faces, f.1 ∈ ["", "B", "I", "BI"] := by decide
    exact hall face (List.mem_of_find?_eq_some hfound)

namespace Canvas

variable {c d : Canvas}

/-- a built-in font at hand comes in all styles, if there are no others -/
theorem knows_hand (hfonts : c.fonts = []) (hc : c.HasFace) {style : String} (hstyle : style ∈ ["", "B", "I", "BI"]) :
    c.Knows (c.faceFor "" style) := by
  have hall : ∀ entry ∈ Font.builtIn, aliases.lookup entry.1.1 = none ∧ ∀ style ∈ ["", "B", "I", "BI"],
      isBuiltIn (if plainFamilies.contains entry.1.1 then (entry.1.1, "") else (entry.1.1, styleLetters style)) = true := by
    decide +kernel
  have hbuilt : isBuiltIn c.face = true := by
    refine hc.resolve_right fun hfile => ?_
    rw [fromFile?, hfonts] at hfile
    cases hfile
  obtain ⟨entry, hentry, hface⟩ := exists_builtIn hbuilt
  obtain ⟨halias, hstyles⟩ := hall entry hentry
  have hfamily : c.family = entry.1.1 := (congrArg Prod.fst hface).symm
  refine .inl ?_
  unfold faceFor
  rw [if_pos rfl, hfamily]
  dsimp only
  rw [halias]
  exact hstyles style hstyle

/-- with built-in fonts alone the same requests can be met, whatever is at hand -/
theorem knows_builtIn (hc : c.HasFace) (hd : d.HasFace) (hfonts : c.fonts = []) (hsame : c.fonts = d.fonts)
    (family : String) {style : String} (hstyle : style ∈ ["", "B", "I", "BI"]) :
    c.Knows (c.faceFor family style) ↔ d.Knows (d.faceFor family style) := by
  by_cases hfamily : family = ""
  · subst hfamily
    exact iff_of_true (knows_hand hfonts hc hstyle) (knows_hand (hsame ▸ hfonts) hd hstyle)
  · exact knows_faceFor_congr hsame hfamily _

end Canvas

namespace Paint

variable {p : Prop} {v w : Work} {j : Job} {c : Component} {s : Spot}

theorem requestedFont_style (j : Job) (c : Component) : (requestedFont j c).2 ∈ ["", "B", "I", "BI"] := by
  simp only [requestedFont]
  exact Font.styleOf_mem _

/-- the colour of a text has a component beyond the doubles, which a style is not let off for -/
def VastColour (j : Job) (c : Component) (s : Spot) : Prop :=
  ∃ colour, j.colour (colourEntry j c) s (some .black) = .ok colour ∧
    ∃ n ∈ Canvas.looked (colour.getD .black), Canvas.IsVast n

/-- the same styles overrun, whatever is at hand, with built-in fonts alone or without a vast colour -/
theorem Overrun.congr (h : Work.Alike p v w) (hsafe : v.canvas.fonts = [] ∨ ¬ VastColour j c s) {f : Failure}
    (hover : Overrun j c s v.canvas f) : Overrun j c s w.canvas f := by
  cases hover with
  | size hentry hbeyond => exact .size hentry hbeyond
  | infinite hsize hcolour hover => exact .infinite hsize hcolour hover
  | @component size colour d n hsize hcolour hfont hn hvast =>
    have hfonts := hsafe.resolve_right fun hno => hno ⟨colour, hcolour, n, hn, hvast⟩
    have hleft : v.canvas.faceFor (requestedFont j c).1 (requestedFont j c).2 = v.canvas.face → v.canvas.HasFace :=
      fun _ => h.canvas.left
    have hright : w.canvas.faceFor (requestedFont j c).1 (requestedFont j c).2 = w.canvas.face → w.canvas.HasFace :=
      fun _ => h.canvas.right
    rcases Canvas.setFont_spec hleft size with ⟨hknows, -⟩ | ⟨-, f, hfails, -⟩
    · rcases Canvas.setFont_spec hright size with ⟨-, e, he, -⟩ | ⟨hno, -⟩
      · exact .component hsize hcolour he hn hvast
      · have hsame := Canvas.knows_builtIn h.canvas.left h.canvas.right hfonts h.canvas.fonts (requestedFont j c).1
          (requestedFont_style j c)
        exact absurd (hsame.1 hknows) hno
    · rw [hfont] at hfails
      cases hfails

/-- whether a text is painted does not depend on the font at hand: it asks for a font by name, or else each font shows
what is encoded for it, and the colour cannot tell them apart -/
def Steadfast (j : Job) (fonts : List (String × Font.Metrics)) (c : Component) (s : Spot) : Prop :=
  (requestedFont j c).1 ≠ "" ∨ j.NamesApart ∧ (fonts = [] ∨ ¬ VastColour j c s)

/-! ## Texts -/

end Paint

end ReportPress
