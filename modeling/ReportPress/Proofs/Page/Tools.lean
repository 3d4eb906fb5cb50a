import Mathlib
import ReportPress.Proofs.Page.Surface
import ReportPress.Proofs.Value.Text
/-!
What a surface draws with. Some calls bring a tool to hand, a font, a colour or the width of lines, and it stays at hand
until the next call for it; other calls draw with what is at hand. Calls that find each tool they draw with among the
calls before them look the same wherever they are made.

- `Call.tool?`, `Call.uses`: the tool that a call brings to hand, and those that it draws with.
- `SelfContained`: calls that draw only with tools which calls of theirs brought to hand.
- `fontSize_of_setFont`: asking for any other size than zero brings just this size to hand, whatever was at hand before.
- `SameFont`: the same font is at hand. `SameFont.setFont`: then a request leads to the same font.
- `checkText_congr`, `textWidth_congr`: with the same face and size at hand, texts are shown and measured alike.
-/

namespace ReportPress

/-- what is drawn with -/
inductive Tool where
  | font
  | textColour
  | fillColour
  | drawColour
  | lineWidth
deriving DecidableEq, Repr

/-- the tool that a call brings to hand -/
def Call.tool? : Call → Option Tool
  | .font .. => some .font
  | .textColour _ => some .textColour
  | .fillColour _ => some .fillColour
  | .drawColour _ => some .drawColour
  | .lineWidth _ => some .lineWidth
  | _ => none

/-- the tools that a call draws with; a cell has a border, and the letters of a shape's style say whether it has an
outline and whether it is filled -/
def Call.uses : Call → List Tool
  | .text .. => [.font, .textColour]
  | .line .. => [.drawColour, .lineWidth]
  | .rect _ _ _ _ style =>
    (if style.toList.contains 'D' then [.drawColour, .lineWidth] else []) ++
      if style.toList.contains 'F' then [.fillColour] else []
  | .cell _ _ _ fill => [.font, .textColour, .drawColour, .lineWidth] ++ if fill then [.fillColour] else []
  | _ => []

/-- one of the calls brings the tool to hand -/
def Provides (calls : List Call) (t : Tool) : Prop := ∃ c ∈ calls, c.tool? = some t

/-- every call draws only with tools that an earlier one of the calls brought to hand -/
inductive SelfContained : List Call → Prop
  | nil : SelfContained []
  | concat {calls : List Call} {c : Call} (h : SelfContained calls) (hc : ∀ t ∈ c.uses, Provides calls t) :
      SelfContained (calls ++ [c])

theorem provides_concat {calls : List Call} {c : Call} {t : Tool} :
    Provides (calls ++ [c]) t ↔ Provides calls t ∨ c.tool? = some t := by
  simp [Provides, or_and_right, exists_or]

namespace Canvas

variable {c d : Canvas} {family style : String} {size : Float}

/-- equal doubles are the same, the two zeros aside -/
theorem eq_of_beq {x y : Float} (h : (x == y) = true) (hy : (y == 0.0) = false) : x = y := by
  obtain ⟨-, -, hsame | ⟨-, rfl⟩ | ⟨-, rfl⟩⟩ := Float.beq_iff_ne_nan_and_eq.1 h
  · exact hsame
  · exact absurd hy (by decide)
  · exact absurd hy (by decide)

/-- the font at hand, if there is one, can be used -/
def Usable (c : Canvas) : Prop := c.family = "" ∨ c.HasFace

theorem aliases_ne_empty : ∀ f ∈ aliases, f.2 ≠ "" := by decide

/-- a request that names a family comes down to a face with one -/
theorem faceFor_ne_empty (c : Canvas) {family : String} (h : family ≠ "") (style : String) :
    (c.faceFor family style).1 ≠ "" := by
  have hlower := Text.lower_ne_empty h
  unfold faceFor
  rw [if_neg h]
  dsimp only
  split
  · next f hf =>
    split
    · exact hlower
    · exact aliases_ne_empty (_, f) (mem_of_lookup hf)
  · split
    · exact hlower
    · exact hlower

/-- a font at hand that is asked for by name can be used -/
theorem Usable.hasFace (h : c.Usable) (hfamily : family ≠ "") (style : String)
    (hface : c.faceFor family style = c.face) : c.HasFace := by
  rcases h with hnone | hhas
  · have hempty : (c.faceFor family style).1 = "" := (congrArg Prod.fst hface).trans hnone
    exact absurd hempty (c.faceFor_ne_empty hfamily style)
  · exact hhas

/-- the font that was chosen can be used -/
theorem hasFace_of_setFont (hc : c.Usable) (hfamily : family ≠ "") (h : c.setFont family style size = .ok d) :
    d.HasFace := by
  rcases setFont_spec (hc.hasFace hfamily style) size with ⟨hknows, d', hd, hface, hkeeps⟩ | ⟨-, f, hf, -⟩
  · rw [h] at hd
    cases hd
    rw [HasFace, hface]
    exact (knows_congr hkeeps.fonts _).2 hknows
  · rw [h] at hf
    cases hf

/-- the size at hand after a request: the one asked for, or the one at hand if a size of zero was asked for -/
theorem setFont_fontSize (h : c.setFont family style size = .ok d) : d.fontSize = c.sizeFor size := by
  unfold setFont at h
  dsimp only at h
  split at h
  · next hkept =>
    cases h
    show c.fontSize = c.sizeFor size
    have hsame : (c.fontSize == c.sizeFor size) = true := (isAtHand_iff.1 hkept).2
    unfold sizeFor at hsame ⊢
    split at hsame
    · next hzero => rw [if_pos hzero]
    · next hsize =>
      rw [if_neg hsize]
      exact eq_of_beq hsame (Bool.eq_false_iff.2 hsize)
  · split at h
    · cases h
      rfl
    · cases h

/-- asking for any other size than zero brings just this size to hand -/
theorem fontSize_of_setFont (h : c.setFont family style size = .ok d) (hsize : (size == 0.0) = false) :
    d.fontSize = size := by
  rw [setFont_fontSize h, sizeFor, hsize, if_neg Bool.false_ne_true]

/-- the same font is at hand in the same size, and there are the same fonts from files -/
structure SameFont (c d : Canvas) : Prop where
  fonts : d.fonts = c.fonts
  face : d.face = c.face
  fontSize : d.fontSize = c.fontSize

namespace SameFont

theorem refl (c : Canvas) : SameFont c c := ⟨rfl, rfl, rfl⟩

theorem trans {e : Canvas} (h : SameFont c d) (k : SameFont d e) : SameFont c e :=
  ⟨k.fonts.trans h.fonts, k.face.trans h.face, k.fontSize.trans h.fontSize⟩

theorem record (c : Canvas) (call : Call) : SameFont c (c.record call) := ⟨rfl, rfl, rfl⟩

/-- a call that is made once its arguments are checked leaves the font at hand -/
theorem of_check {check : Except Failure Unit} {call : Call} (h : check.map (fun _ => c.record call) = .ok d) :
    SameFont c d := by
  cases check with
  | error f => cases h
  | ok u =>
    cases h
    exact record c call

/-- with the same font at hand, a request leads to the same font -/
theorem setFont {c' d' : Canvas} (h : SameFont c c') (hd : c'.setFont family style size = .ok d') :
    ∃ d, c.setFont family style size = .ok d ∧ SameFont d d' := by
  have hfamily : c'.family = c.family := congrArg Prod.fst h.face
  have hstyle : c'.style = c.style := congrArg Prod.snd h.face
  have hfor : c'.faceFor family style = c.faceFor family style := faceFor_of_same h.fonts hfamily family style
  have hsize : c'.sizeFor size = c.sizeFor size := by rw [sizeFor, sizeFor, h.fontSize]
  unfold Canvas.setFont isAtHand fromFile? at hd ⊢
  rw [hfor, hsize, hfamily, hstyle, h.fontSize, h.fonts] at hd
  dsimp only at hd ⊢
  split at hd
  · next hkept =>
    cases hd
    exact ⟨_, if_pos hkept, h.fonts, h.face, h.fontSize⟩
  · next hchanged =>
    rw [if_neg hchanged]
    split at hd
    · next hknown =>
      cases hd
      exact ⟨_, if_pos hknown, rfl, rfl, rfl⟩
    · cases hd

end SameFont

/-! ## Texts -/

theorem checkText_congr (hfonts : c.fonts = d.fonts) (hface : c.face = d.face) (cs : List Char) :
    c.checkText cs = d.checkText cs := by
  have hfamily : c.family = d.family := congrArg Prod.fst hface
  have hstyle : c.style = d.style := congrArg Prod.snd hface
  unfold checkText unencodable? fromFile?
  rw [hfonts, hfamily, hstyle]

theorem textWidth_congr (hfonts : c.fonts = d.fonts) (hface : c.face = d.face) (hsize : c.fontSize = d.fontSize)
    (cs : List Char) : c.textWidth cs = d.textWidth cs := by
  have hfamily : c.family = d.family := congrArg Prod.fst hface
  have hstyle : c.style = d.style := congrArg Prod.snd hface
  have hwidth : c.charWidth = d.charWidth := by
    funext x
    simp only [charWidth, fromFile?, hfonts, hfamily, hstyle]
  simp only [textWidth, checkText_congr hfonts hface cs, hwidth, hsize]

end Canvas

end ReportPress
