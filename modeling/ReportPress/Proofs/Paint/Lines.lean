import ReportPress.Proofs.Paint.FallBack
import ReportPress.Proofs.Text.Wrap
/-!
The lines of a text component. Texts are measured on the surface, where measuring fails for lack of a character; whenever
a text is broken into lines there, the lines are those that it is broken into by the widths of texts in the font at hand.
So what holds of breaking lines with any measure holds of the lines that are painted.

- `Canvas.gauge`: the widths of texts in the font at hand.
- `Agrees`: a computation on the surface gives a value, if it gives any. `agrees_wrap`: by the recursion of breaking lines.
- `textLines_wrap`: the lines of a component that has a width.
-/

namespace ReportPress

/-- the width of a text in the font at hand; zero if the font lacks a character -/
def Canvas.gauge (c : Canvas) (cs : List Char) : Float :=
  match c.textWidth cs with
  | .ok x => x
  | .error _ => 0.0

/-- run at `w` the computation gives this value and leaves `w` as it is, unless it fails -/
def Agrees {α : Type} (w : Work) (x : Painting α) (a : α) : Prop :=
  ∀ r v, x.run.run w = (.ok r, v) → r = a ∧ v = w

namespace Agrees

variable {α β : Type} {w : Work} {x : Painting α} {a : α}

theorem pure (a : α) : Agrees w (pure a) a := fun _ _ h => by
  cases h
  exact ⟨rfl, rfl⟩

theorem bind {k : α → Painting β} {b : β} (hx : Agrees w x a) (hk : Agrees w (k a) b) : Agrees w (x >>= k) b :=
  fun r v h => by
    obtain ⟨a', t, hrun, hrest⟩ := Effect.run_bind_eq_ok h
    obtain ⟨rfl, rfl⟩ := hx a' t hrun
    exact hk r v hrest

theorem ite {p : Prop} [Decidable p] {y : Painting α} {b : α} (hx : Agrees w x a) (hy : Agrees w y b) :
    Agrees w (if p then x else y) (if p then a else b) := by
  split
  · exact hx
  · exact hy

theorem measure (cs : List Char) : Agrees w (Painting.measure cs) (w.canvas.gauge cs) := fun r v h => by
  obtain ⟨hwidth, rfl⟩ := Prod.mk.inj h
  unfold Canvas.gauge
  rw [hwidth]
  exact ⟨rfl, rfl⟩

end Agrees

namespace Text

variable {w : Work} {limit : Float}

theorem agrees_breakWord (chunk word : List Char) :
    Agrees w (breakWord Painting.measure limit chunk word) (breakWord (m := Id) w.canvas.gauge limit chunk word) := by
  induction word generalizing chunk with
  | nil => exact .pure _
  | cons c rest ih =>
    unfold breakWord
    exact .ite (ih _) ((Agrees.measure _).bind (.ite ((ih [c]).bind (.pure _)) (ih _)))

theorem agrees_placeWord (g : Wrapping) (word : List Char) :
    Agrees w (placeWord Painting.measure limit g word) (placeWord (m := Id) w.canvas.gauge limit g word) := by
  unfold placeWord
  refine (Agrees.measure _).bind (.ite (.pure _) ((Agrees.measure _).bind (.ite (.pure _) ?_)))
  exact (agrees_breakWord [] word).bind (.pure _)

theorem agrees_placeWords (words : List (List Char)) (g : Wrapping) :
    Agrees w (words.foldlM (placeWord Painting.measure limit) g)
      (Id.run (words.foldlM (placeWord w.canvas.gauge limit) g)) := by
  induction words generalizing g with
  | nil => exact .pure g
  | cons word rest ih =>
    rw [List.foldlM_cons]
    exact (agrees_placeWord g word).bind (ih _)

theorem agrees_wrapLine (line : List Char) :
    Agrees w (wrapLine Painting.measure limit line) (wrapLine (m := Id) w.canvas.gauge limit line) := by
  unfold wrapLine
  exact .ite (.pure _) ((agrees_placeWords _ _).bind (.pure _))

theorem agrees_wrapLines (lines : List (List Char)) :
    Agrees w (wrapLines Painting.measure limit lines) (Id.run (wrapLines w.canvas.gauge limit lines)) := by
  induction lines with
  | nil => exact .pure _
  | cons line rest ih => exact (agrees_wrapLine line).bind (ih.bind (.pure _))

end Text

namespace Paint

variable {c : Component}

/-- the component has a width that its text is broken to -/
def wraps (c : Component) : Bool :=
  match c.size? with
  | some size => 0.0 < size.width
  | none => false

/-- all lines of a text can be shown -/
def LinesShow (w : Work) (text : String) : Prop := ∀ l ∈ Text.linesFrom [] text.toList, w.canvas.Shows l

/-- laying out the text of a component; lines that are not measured are looked at when they are painted -/
theorem gauges_textLines (w : Work) (c : Component) (text : String) :
    Gauges w (textLines c text) (wraps c = true → LinesShow w text) fun lines =>
      (∀ l ∈ lines, w.canvas.Shows l) ↔ LinesShow w text := by
  have hjoined : Gauges w (pure [Text.join [' '] (Text.linesFrom [] text.toList)]) True fun lines =>
      (∀ l ∈ lines, w.canvas.Shows l) ↔ LinesShow w text := by
    have hblank : w.canvas.Shows [' '] := fun x hx => w.canvas.shows_of_latin (by
      rw [List.mem_singleton.1 hx]; decide)
    refine .pure ?_
    rw [List.forall_mem_singleton, Text.shows_join hblank]
    exact Iff.rfl
  unfold textLines wraps
  cases c.size? with
  | none => exact hjoined.congr (iff_of_true trivial nofun)
  | some size =>
    dsimp only
    split
    · next hwidth =>
      exact ((Text.gauges_wrap text.toList).weaken fun lines hall hlines => iff_of_true hlines hall).congr
        ⟨fun hall _ => hall, fun hall => hall (decide_eq_true hwidth)⟩
    · next hwidth => exact hjoined.congr (iff_of_true trivial fun hw => absurd (of_decide_eq_true hw) hwidth)

/-- painting lines succeeds just if all of them can be shown -/
theorem paintLines_spec (origin : Point) (step : Float) (i : ℕ) (lines : List (List Char)) (w : Work) :
    ((∀ l ∈ lines, w.canvas.Shows l) ∧ ∃ v, (paintLines origin step i lines).run.run w = (.ok (), v) ∧
        Work.Draws w v ∧ v.canvas.face = w.canvas.face) ∨
      (¬ (∀ l ∈ lines, w.canvas.Shows l) ∧ ∃ f v, (paintLines origin step i lines).run.run w = (.error f, v) ∧
        Work.Draws w v ∧ f.isDrawingFault = true) := by
  induction lines generalizing i w with
  | nil => exact .inl ⟨nofun, w, rfl, .refl w, rfl⟩
  | cons line rest ih =>
    unfold paintLines
    rw [List.forall_mem_cons]
    split
    · next hempty =>
      rw [List.isEmpty_iff.1 hempty, and_iff_right w.canvas.shows_nil]
      exact ih (i + 1) w
    · rw [Effect.run_bind, Painting.run_draw]
      rcases w.canvas.text_spec origin.x (origin.y + Binary64.ofInt i * step) (String.ofList line) with
        ⟨hs, hc⟩ | ⟨hs, e, he, hfault⟩
      · rw [String.toList_ofList] at hs
        rw [hc, and_iff_right hs]
        have hdrawn : Work.Draws w { w with canvas := w.canvas.record (.text origin.x
          (origin.y + Binary64.ofInt i * step) (String.ofList line)) } := ⟨Canvas.keeps_record .., rfl, rfl⟩
        rcases ih (i + 1) { w with canvas := w.canvas.record (.text origin.x (origin.y + Binary64.ofInt i * step)
          (String.ofList line)) } with ⟨hrest, v, hv, hd, hface⟩ | ⟨hrest, f, v, hv, hd, hf⟩
        · exact .inl ⟨hrest, v, hv, hdrawn.trans hd, hface⟩
        · exact .inr ⟨hrest, f, v, hv, hdrawn.trans hd, hf⟩
      · rw [String.toList_ofList] at hs
        rw [he]
        exact .inr ⟨fun h => hs h.1, e, w, rfl, .refl w, hfault⟩

/-- **The lines of a component that has a width** are those of its text, broken by the widths of texts in the font at
hand; there are such lines just if the font has all characters of the text -/
theorem textLines_wrap {size : Size} (hsize : c.size? = some size) (hwidth : 0.0 < size.width)
    (text : String) (w v : Work) (lines : List (List Char)) :
    (textLines c text).run.run w = (.ok lines, v) ↔
      LinesShow w text ∧ lines = Id.run (Text.wrap w.canvas.gauge size.width text.toList) ∧ v = w := by
  have hagrees : Agrees w (textLines c text) (Id.run (Text.wrap w.canvas.gauge size.width text.toList)) := by
    unfold textLines
    rw [hsize]
    dsimp only
    rw [if_pos hwidth]
    exact Text.agrees_wrapLines _
  have hwraps : wraps c = true := by
    unfold wraps
    rw [hsize]
    exact decide_eq_true hwidth
  rcases gauges_textLines w c text with ⟨hshow, a, hrun, -⟩ | ⟨hshow, f, hrun, -⟩
  · obtain ⟨rfl, -⟩ := hagrees a w hrun
    rw [hrun]
    exact ⟨fun h => by cases h; exact ⟨hshow hwraps, rfl, rfl⟩, fun ⟨_, hlines, hv⟩ => by rw [hlines, hv]⟩
  · rw [hrun]
    exact iff_of_false nofun fun h => hshow fun _ => h.1

end Paint

end ReportPress
