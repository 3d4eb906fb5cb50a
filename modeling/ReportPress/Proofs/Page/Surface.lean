import Mathlib.Data.List.TakeWhile
import ReportPress.Page.Canvas
import ReportPress.Proofs.Value.Fields
/-!
What drawing changes of a surface, and which texts the font at hand can show.

- `Keeps`: no operation on a page changes the size of the surface, its pages or its fonts, a font at hand that can be
  used stays one that can be used, and calls that were made stay made.
- `Shows`: the font at hand has all characters of a text. `drawn_spec`, `textWidth_spec`: just such texts
  can be drawn and measured.
- `setFont_spec`: whether a font can be chosen depends on the request alone, once the font at hand can be used.
- `addFont_spec`: registering a font draws nothing.
-/

namespace ReportPress.Canvas

/-- a family and style that the surface has a font for, built in or from a file -/
def Knows (c : Canvas) (face : String × String) : Prop :=
  isBuiltIn face = true ∨ (c.fromFile? face.1 face.2).isSome = true

/-- the family and style at hand -/
def face (c : Canvas) : String × String := (c.family, c.style)

/-- a font is at hand: its face, and just its size -/
theorem isAtHand_iff {c : Canvas} {face : String × String} {size : Float} :
    c.isAtHand face.1 face.2 size = true ↔ face = c.face ∧ (c.fontSize == size) = true := by
  rw [isAtHand, Bool.and_eq_true, Bool.and_eq_true, beq_iff_eq, beq_iff_eq, Prod.ext_iff]
  exact Iff.rfl

/-- the font at hand is one that the surface knows -/
def HasFace (c : Canvas) : Prop := c.Knows c.face

/-- what no operation on a page changes -/
structure Keeps (c d : Canvas) : Prop where
  width : d.width = c.width
  height : d.height = c.height
  pages : d.pages = c.pages
  fonts : d.fonts = c.fonts
  face : c.HasFace → d.HasFace
  calls : c.calls <+: d.calls

theorem Keeps.refl (c : Canvas) : Keeps c c := ⟨rfl, rfl, rfl, rfl, id, List.prefix_rfl⟩

theorem Keeps.trans {c d e : Canvas} (h : Keeps c d) (k : Keeps d e) : Keeps c e :=
  ⟨k.width.trans h.width, k.height.trans h.height, k.pages.trans h.pages, k.fonts.trans h.fonts, k.face ∘ h.face,
    h.calls.trans k.calls⟩

theorem keeps_record (c : Canvas) (call : Call) : Keeps c (c.record call) :=
  ⟨rfl, rfl, rfl, rfl, id, List.prefix_append ..⟩

/-- a font is chosen only if it is at hand already or the surface knows it -/
theorem keeps_setFont {c d : Canvas} {family style : String} {size : Float} (h : c.setFont family style size = .ok d) :
    Keeps c d := by
  unfold setFont at h
  dsimp only at h
  split at h
  · cases h; exact keeps_record ..
  · split at h
    · next hface =>
      cases h
      exact ⟨rfl, rfl, rfl, rfl, fun _ => Bool.or_eq_true_iff.1 hface, List.prefix_append ..⟩
    · cases h

/-- a call that is made once its arguments are checked -/
theorem keeps_of_check {c d : Canvas} {check : Except Failure Unit} {call : Call}
    (h : check.map (fun _ => c.record call) = .ok d) : Keeps c d := by
  cases check with
  | error f => cases h
  | ok u => cases h; exact keeps_record ..

/-- a call that is made once its arguments are checked leaves the font at hand -/
theorem face_of_check {c d : Canvas} {check : Except Failure Unit} {call : Call}
    (h : check.map (fun _ => c.record call) = .ok d) : d.face = c.face := by
  cases check with
  | error f => cases h
  | ok u => cases h; rfl

theorem keeps_textColour {c d : Canvas} {rgb : Rgb} (h : c.setTextColour rgb = .ok d) : Keeps c d := keeps_of_check h

theorem keeps_fillColour {c d : Canvas} {rgb : Rgb} (h : c.setFillColour rgb = .ok d) : Keeps c d := keeps_of_check h

theorem keeps_drawColour {c d : Canvas} {rgb : Rgb} (h : c.setDrawColour rgb = .ok d) : Keeps c d := keeps_of_check h

theorem keeps_text {c d : Canvas} {x y : Float} {s : String} (h : c.text x y s = .ok d) : Keeps c d := keeps_of_check h

theorem keeps_cell {c d : Canvas} {w h : Float} {s : String} {fill : Bool} (hd : c.cell w h s fill = .ok d) :
    Keeps c d := keeps_of_check hd

theorem keeps_image {c d : Canvas} {l : Library} {image : PreparedImage} {place : Point} {size : Size}
    (h : c.image l image place size = .ok d) : Keeps c d := keeps_of_check h

/-! ## Which texts can be shown -/

/-- the font at hand has the character: a font from a file has all, a built-in one those of Latin-1 -/
def shows (c : Canvas) (x : Char) : Bool := (c.fromFile? c.family c.style).isSome || x.toNat < 256

/-- the font at hand has all characters of the text -/
def Shows (c : Canvas) (cs : List Char) : Prop := ∀ x ∈ cs, c.shows x = true

theorem shows_of_latin (c : Canvas) {x : Char} (h : x.toNat < 256) : c.shows x = true := by
  rw [shows, decide_eq_true h, Bool.or_true]

/-- with the same fonts and the same face at hand, the same texts can be shown -/
theorem shows_congr {c d : Canvas} (hfonts : c.fonts = d.fonts) (hface : c.face = d.face) (cs : List Char) :
    c.Shows cs ↔ d.Shows cs := by
  have hfamily : c.family = d.family := congrArg Prod.fst hface
  have hstyle : c.style = d.style := congrArg Prod.snd hface
  unfold Shows shows fromFile?
  rw [hfonts, hfamily, hstyle]

theorem unencodable?_eq_none {c : Canvas} {cs : List Char} : c.unencodable? cs = none ↔ c.Shows cs := by
  unfold unencodable? Shows
  cases hf : (c.fromFile? c.family c.style).isSome with
  | true => simp [shows, hf]
  | false =>
    rw [if_neg Bool.false_ne_true]
    have hall : cs.dropWhile (fun x => decide (x.toNat < 256)) = [] ↔ ∀ x ∈ cs, c.shows x = true := by
      simp [shows, hf]
    rw [← hall]
    split
    · next h => exact iff_of_true rfl h
    · next h => exact iff_of_false (Option.some_ne_none _) (by rw [h]; exact List.cons_ne_nil _ _)

/-- the check of a text: it passes just the texts that can be shown -/
theorem checkText_spec (c : Canvas) (cs : List Char) :
    (c.Shows cs ∧ c.checkText cs = .ok ()) ∨
      (¬ c.Shows cs ∧ ∃ f, c.checkText cs = .error f ∧ f.isDrawingFault = true) := by
  unfold checkText
  split
  · next i x h =>
    right
    refine ⟨fun hs => ?_, _, rfl, rfl⟩
    rw [unencodable?_eq_none.2 hs] at h
    cases h
  · next h => exact .inl ⟨unencodable?_eq_none.1 h, rfl⟩

/-- a call that puts down a text -/
theorem drawn_spec (c : Canvas) (cs : List Char) (call : Call) :
    (c.Shows cs ∧ (c.checkText cs).map (fun _ => c.record call) = .ok (c.record call)) ∨
      (¬ c.Shows cs ∧ ∃ f, (c.checkText cs).map (fun _ => c.record call) = .error f ∧ f.isDrawingFault = true) := by
  rcases c.checkText_spec cs with ⟨hs, hc⟩ | ⟨hs, f, hc, hf⟩
  · exact .inl ⟨hs, by rw [hc]; rfl⟩
  · exact .inr ⟨hs, f, by rw [hc]; rfl, hf⟩

theorem text_spec (c : Canvas) (x y : Float) (s : String) :
    (c.Shows s.toList ∧ c.text x y s = .ok (c.record (.text x y s))) ∨
      (¬ c.Shows s.toList ∧ ∃ f, c.text x y s = .error f ∧ f.isDrawingFault = true) :=
  c.drawn_spec s.toList (.text x y s)

theorem cell_spec (c : Canvas) (w h : Float) (s : String) (fill : Bool) :
    (c.Shows s.toList ∧ c.cell w h s fill = .ok (c.record (.cell w h s fill))) ∨
      (¬ c.Shows s.toList ∧ ∃ f, c.cell w h s fill = .error f ∧ f.isDrawingFault = true) :=
  c.drawn_spec s.toList (.cell w h s fill)

theorem textWidth_spec (c : Canvas) (cs : List Char) :
    (c.Shows cs ∧ ∃ x, c.textWidth cs = .ok x) ∨
      (¬ c.Shows cs ∧ ∃ f, c.textWidth cs = .error f ∧ f.isDrawingFault = true) := by
  rcases c.checkText_spec cs with ⟨hs, hc⟩ | ⟨hs, f, hc, hf⟩
  · refine .inl ⟨hs, ?_⟩
    unfold textWidth
    rw [hc]
    cases cs.isEmpty with
    | true => exact ⟨_, rfl⟩
    | false => exact ⟨_, rfl⟩
  · exact .inr ⟨hs, f, by rw [textWidth, hc]; rfl, hf⟩

/-! ## Choosing a font -/

/-- a request that names a family comes down to the same face whatever font is at hand -/
theorem faceFor_congr {c d : Canvas} (hfonts : d.fonts = c.fonts) {family : String} (hfamily : family ≠ "")
    (style : String) : d.faceFor family style = c.faceFor family style := by
  simp only [faceFor, fromFile?, hfonts, if_neg hfamily]

/-- with the same fonts and the same family at hand, any request comes down to the same face -/
theorem faceFor_of_same {c d : Canvas} (hfonts : d.fonts = c.fonts) (hfamily : d.family = c.family)
    (family style : String) : d.faceFor family style = c.faceFor family style := by
  unfold faceFor fromFile?
  rw [hfonts, hfamily]

theorem knows_congr {c d : Canvas} (hfonts : d.fonts = c.fonts) (face : String × String) :
    d.Knows face ↔ c.Knows face := by
  rw [Knows, Knows, fromFile?, fromFile?, hfonts]

/-- with the same fonts the same requests can be met -/
theorem knows_faceFor_congr {c d : Canvas} (hfonts : d.fonts = c.fonts) {family : String} (hfamily : family ≠ "")
    (style : String) : d.Knows (d.faceFor family style) ↔ c.Knows (c.faceFor family style) := by
  rw [faceFor_congr hfonts hfamily, knows_congr hfonts]

/-- the font chosen is the one that the request comes down to -/
theorem face_of_setFont {c d : Canvas} {family style : String} {size : Float} (h : c.setFont family style size = .ok d) :
    d.face = c.faceFor family style := by
  unfold setFont at h
  dsimp only at h
  split at h
  · next hsame =>
    cases h
    exact (isAtHand_iff.1 hsame).1.symm
  · split at h
    · cases h; rfl
    · cases h

/-- choosing a font fails just for a face that is not known, and the failure names it -/
theorem setFont_eq_error {c : Canvas} {family style : String} {size : Float} {f : Failure}
    (h : c.setFont family style size = .error f) :
    ¬ c.Knows (c.faceFor family style) ∧
      f = .undefinedFont ((c.faceFor family style).1 ++ (c.faceFor family style).2) := by
  unfold setFont at h
  dsimp only at h
  split at h
  · cases h
  · split at h
    · cases h
    · next hknows =>
      rw [Bool.or_eq_true] at hknows
      cases h
      exact ⟨hknows, rfl⟩

/-- a font is chosen just if the surface knows the face asked for; only the font at hand, asked for again, is not looked
up, so it has to be one that can be used -/
theorem setFont_spec {c : Canvas} {family style : String} (h : c.faceFor family style = c.face → c.HasFace)
    (size : Float) :
    (c.Knows (c.faceFor family style) ∧
        ∃ d, c.setFont family style size = .ok d ∧ d.face = c.faceFor family style ∧ c.Keeps d) ∨
      (¬ c.Knows (c.faceFor family style) ∧ ∃ f, c.setFont family style size = .error f ∧ f.isDrawingFault = true) := by
  rcases hset : c.setFont family style size with f | d
  · obtain ⟨hknows, rfl⟩ := setFont_eq_error hset
    exact .inr ⟨hknows, _, rfl, rfl⟩
  · have hkeeps := keeps_setFont hset
    have hface := face_of_setFont hset
    refine .inl ⟨?_, d, rfl, hface, hkeeps⟩
    unfold setFont at hset
    dsimp only at hset
    split at hset
    · next hsame =>
      have hhand := (isAtHand_iff.1 hsame).1
      exact hhand ▸ h hhand
    · split at hset
      · next hknows => exact Bool.or_eq_true_iff.1 hknows
      · cases hset

/-- a font from a file is registered, or it is refused for what the file is: nothing is drawn -/
theorem addFont_spec (c : Canvas) (files : Files) (family path : String) :
    (∃ fonts, c.addFont files family path = .ok ({ c with fonts := fonts }.record (.addFont family))) ∨
      ∃ f, c.addFont files family path = .error f ∧ f.isDrawingFault = false := by
  generalize hadd : c.addFont files family path = r
  unfold addFont at hadd
  dsimp only at hadd
  split at hadd
  · exact .inr ⟨_, hadd.symm, rfl⟩
  · split at hadd
    · exact .inr ⟨_, hadd.symm, rfl⟩
    · split at hadd
      · exact .inl ⟨c.fonts, hadd.symm⟩
      · split at hadd
        · exact .inr ⟨_, hadd.symm, rfl⟩
        · split at hadd
          · exact .inl ⟨_, hadd.symm⟩
          · exact .inr ⟨_, hadd.symm, rfl⟩

end ReportPress.Canvas
