import ReportPress.Proofs.Page.Surface
import ReportPress.Proofs.Effect
import ReportPress.Paint.Text
/-!
Texts laid into a width, measured on the surface. Laying out a text reads the surface and changes nothing. It succeeds
just if the font at hand has all characters of the text, and what comes out can be shown then; which lines come out is
not looked at here.

- `Gauges`: a computation of this kind; `Gauges.bind` puts two together.
- `gauges_wrap`, `gauges_fit`: breaking a text into lines, and cutting a text to fit.
-/

namespace ReportPress

/-- run at `w` the computation leaves `w` as it is; if `fits` holds it gives a value that `Q` holds of, otherwise it
fails for lack of a character -/
def Gauges {α : Type} (w : Work) (x : Painting α) (fits : Prop) (Q : α → Prop) : Prop :=
  (fits ∧ ∃ a, x.run.run w = (.ok a, w) ∧ Q a) ∨
    (¬ fits ∧ ∃ f, x.run.run w = (.error f, w) ∧ f.isDrawingFault = true)

namespace Gauges

variable {α β : Type} {w : Work} {x : Painting α} {p q : Prop} {Q : α → Prop}

theorem pure {a : α} (h : Q a) : Gauges w (pure a) True Q := .inl ⟨trivial, a, rfl, h⟩

theorem bind {k : α → Painting β} {R : β → Prop} (hx : Gauges w x p Q) (hk : ∀ a, p → Q a → Gauges w (k a) q R) :
    Gauges w (x >>= k) (p ∧ q) R := by
  rcases hx with ⟨hp, a, ha, hq⟩ | ⟨hp, f, hf, hdraw⟩
  · rcases hk a hp hq with ⟨hq, b, hb, hr⟩ | ⟨hq, f, hf, hdraw⟩
    · exact .inl ⟨⟨hp, hq⟩, b, by rw [Effect.run_bind, ha]; exact hb, hr⟩
    · exact .inr ⟨fun h => hq h.2, f, by rw [Effect.run_bind, ha]; exact hf, hdraw⟩
  · exact .inr ⟨fun h => hp h.1, f, by rw [Effect.run_bind, hf], hdraw⟩

/-- the same for a condition that comes to the same -/
theorem congr (hx : Gauges w x p Q) (h : p ↔ q) : Gauges w x q Q := by rwa [Gauges, ← propext h]

/-- the same for less about the value -/
theorem weaken {R : α → Prop} (hx : Gauges w x p Q) (h : ∀ a, p → Q a → R a) : Gauges w x p R := by
  rcases hx with ⟨hp, a, ha, hq⟩ | ⟨hp, hf⟩
  · exact .inl ⟨hp, a, ha, h a hp hq⟩
  · exact .inr ⟨hp, hf⟩

theorem state (hx : Gauges w x p Q) : (x.run.run w).2 = w := by
  rcases hx with ⟨-, a, ha, -⟩ | ⟨-, f, hf, -⟩
  · rw [ha]
  · rw [hf]

end Gauges

theorem gauges_measure (w : Work) (cs : List Char) :
    Gauges w (Painting.measure cs) (w.canvas.Shows cs) fun _ => True := by
  rcases w.canvas.textWidth_spec cs with ⟨hs, x, hx⟩ | ⟨hs, f, hf, hdraw⟩
  · exact .inl ⟨hs, x, congrArg (·, w) hx, trivial⟩
  · exact .inr ⟨hs, f, congrArg (·, w) hf, hdraw⟩

namespace Canvas

variable {c : Canvas} {a b : List Char}

theorem Shows.append (ha : c.Shows a) (hb : c.Shows b) : c.Shows (a ++ b) := fun x hx =>
  (List.mem_append.1 hx).elim (ha x) (hb x)

theorem Shows.of_subset (hb : c.Shows b) (h : a ⊆ b) : c.Shows a := fun x hx => hb x (h hx)

theorem shows_nil (c : Canvas) : c.Shows [] := fun _ h => nomatch h

theorem shows_cons {x : Char} : c.Shows (x :: a) ↔ c.shows x = true ∧ c.Shows a := List.forall_mem_cons

theorem shows_append : c.Shows (a ++ b) ↔ c.Shows a ∧ c.Shows b := List.forall_mem_append

end Canvas

namespace Text

variable {w : Work} {limit : Float}

/-- a text can be shown just if the pieces between its blanks can -/
theorem shows_split (c : Canvas) (cs : List Char) : (∀ piece ∈ split ' ' cs, c.Shows piece) ↔ c.Shows cs := by
  induction cs with
  | nil => simp [split, c.shows_nil]
  | cons x cs ih =>
    unfold split
    split
    · next hx =>
      subst hx
      rw [List.forall_mem_cons, ih, Canvas.shows_cons]
      exact ⟨fun h => ⟨c.shows_of_latin (by decide), h.2⟩, fun h => ⟨c.shows_nil, h.2⟩⟩
    · split
      · next hnil => exact absurd hnil (split_ne_nil ' ' cs)
      · next piece pieces hcut =>
        rw [hcut, List.forall_mem_cons] at ih
        rw [List.forall_mem_cons, Canvas.shows_cons, Canvas.shows_cons, and_assoc, ih]

theorem shows_join {c : Canvas} {sep : List Char} (hsep : c.Shows sep) (pieces : List (List Char)) :
    c.Shows (join sep pieces) ↔ ∀ piece ∈ pieces, c.Shows piece := by
  induction pieces with
  | nil => simp [join, c.shows_nil]
  | cons piece rest ih =>
    cases rest with
    | nil => simp [join]
    | cons next rest =>
      rw [join, Canvas.shows_append, Canvas.shows_append, ih, List.forall_mem_cons (a := piece)]
      exact ⟨fun h => ⟨h.1.1, h.2⟩, fun h => ⟨⟨h.1, hsep⟩, h.2⟩⟩
      · exact fun h => List.cons_ne_nil next rest h

/-! ## Breaking into lines -/

/-- the pieces of a word that can be shown can be shown -/
theorem gauges_breakWord (chunk word : List Char) (hc : w.canvas.Shows chunk) (hw : w.canvas.Shows word) :
    Gauges w (breakWord Painting.measure limit chunk word) True fun parts => ∀ part ∈ parts, w.canvas.Shows part := by
  induction word generalizing chunk with
  | nil =>
    unfold breakWord
    refine .pure ?_
    split
    · nofun
    · exact List.forall_mem_singleton.2 hc
  | cons x rest ih =>
    rw [Canvas.shows_cons] at hw
    have hx : w.canvas.Shows [x] := Canvas.shows_cons.2 ⟨hw.1, Canvas.shows_nil _⟩
    have hnext : w.canvas.Shows (chunk ++ [x]) := hc.append hx
    unfold breakWord
    dsimp only
    split
    · exact ih _ hnext hw.2
    · refine ((gauges_measure w (chunk ++ [x])).bind (q := True) fun width _ _ => ?_).congr
        ⟨fun _ => trivial, fun _ => ⟨hnext, trivial⟩⟩
      split
      · refine ((ih [x] hx hw.2).bind fun parts _ hparts => .pure ?_).congr (and_self_iff)
        exact List.forall_mem_cons.2 ⟨hc, hparts⟩
      · exact ih _ hnext hw.2

/-- all that was laid out so far can be shown -/
def Wrapping.Shown (c : Canvas) (g : Wrapping) : Prop := (∀ line ∈ g.lines, c.Shows line) ∧ c.Shows g.current

theorem Wrapping.Shown.finish {c : Canvas} {g : Wrapping} (h : g.Shown c) : g.finish.Shown c := by
  unfold Wrapping.finish
  split
  · exact h
  · exact ⟨List.forall_mem_append.2 ⟨h.1, List.forall_mem_singleton.2 h.2⟩, c.shows_nil⟩

theorem gauges_placeWord (g : Wrapping) (word : List Char) (hg : g.Shown w.canvas) :
    Gauges w (placeWord Painting.measure limit g word) (w.canvas.Shows word) fun g' => g'.Shown w.canvas := by
  have hblank : w.canvas.shows ' ' = true := w.canvas.shows_of_latin (by decide)
  have hcand : w.canvas.Shows (if g.current.isEmpty then word else g.current ++ ' ' :: word) ↔ w.canvas.Shows word := by
    split
    · rfl
    · rw [Canvas.shows_append, Canvas.shows_cons]
      exact ⟨fun h => h.2.2, fun h => ⟨hg.2, hblank, h⟩⟩
  unfold placeWord
  dsimp only
  refine ((gauges_measure w _).bind (q := w.canvas.Shows word) fun width hwidth _ => ?_).congr
    ⟨fun h => h.2, fun h => ⟨hcand.2 h, h⟩⟩
  have hword := hcand.1 hwidth
  split
  · exact (Gauges.pure ⟨hg.1, hwidth⟩).congr (iff_of_true trivial hword)
  · have hlines := hg.finish.1
    refine ((gauges_measure w word).bind (q := True) fun width' _ _ => ?_).congr (iff_of_eq (and_true _))
    split
    · exact .pure ⟨hlines, hword⟩
    · refine ((gauges_breakWord [] word (Canvas.shows_nil _) hword).bind fun parts _ hparts => .pure ?_).congr
        and_self_iff
      refine ⟨List.forall_mem_append.2 ⟨hlines, fun part hp => hparts part ((List.dropLast_sublist _).subset hp)⟩, ?_⟩
      cases hlast : parts.getLast? with
      | none => exact Canvas.shows_nil _
      | some part => exact hparts part (List.mem_of_getLast? hlast)

theorem gauges_placeWords (words : List (List Char)) (g : Wrapping) (hg : g.Shown w.canvas) :
    Gauges w (words.foldlM (placeWord Painting.measure limit) g) (∀ word ∈ words, w.canvas.Shows word)
      fun g' => g'.Shown w.canvas := by
  induction words generalizing g with
  | nil => exact (Gauges.pure hg).congr (iff_of_true trivial nofun)
  | cons word rest ih =>
    rw [List.foldlM_cons]
    exact ((gauges_placeWord g word hg).bind fun g' _ hg' => ih g' hg').congr List.forall_mem_cons.symm

theorem gauges_wrapLine (line : List Char) :
    Gauges w (wrapLine Painting.measure limit line) (w.canvas.Shows line) fun ls => ∀ l ∈ ls, w.canvas.Shows l := by
  unfold wrapLine
  split
  · next h =>
    rw [List.isEmpty_iff.1 h]
    exact (Gauges.pure (List.forall_mem_singleton.2 (Canvas.shows_nil _))).congr
      (iff_of_true trivial (Canvas.shows_nil _))
  · refine ((gauges_placeWords (split ' ' line) ⟨[], []⟩ ⟨nofun, Canvas.shows_nil _⟩).bind
      fun g _ hg => .pure hg.finish.1).congr ?_
    rw [and_true, shows_split]

theorem gauges_wrapLines (ls : List (List Char)) :
    Gauges w (wrapLines Painting.measure limit ls) (∀ l ∈ ls, w.canvas.Shows l) fun ls' =>
      ∀ l ∈ ls', w.canvas.Shows l := by
  induction ls with
  | nil => exact (Gauges.pure nofun).congr (iff_of_true trivial nofun)
  | cons line rest ih =>
    refine ((gauges_wrapLine line).bind fun here _ hhere => ih.bind fun others _ hothers => .pure ?_).congr ?_
    · exact List.forall_mem_append.2 ⟨hhere, hothers⟩
    · rw [and_true, List.forall_mem_cons]

/-- **Breaking into lines** succeeds just if all lines of the text can be shown -/
theorem gauges_wrap (text : List Char) :
    Gauges w (wrap Painting.measure limit text) (∀ l ∈ linesFrom [] text, w.canvas.Shows l)
      fun ls => ∀ l ∈ ls, w.canvas.Shows l := by
  unfold wrap
  refine (gauges_wrapLines _).congr ?_
  split
  · next h =>
    rw [List.isEmpty_iff.1 h]
    exact iff_of_true (List.forall_mem_singleton.2 (Canvas.shows_nil _)) nofun
  · rfl

/-! ## Cutting to fit -/

theorem shows_ellipsis (c : Canvas) : c.Shows ellipsis := by
  intro x hx
  simp only [ellipsis, List.mem_cons, List.not_mem_nil, or_false, or_self] at hx
  rw [hx]
  exact c.shows_of_latin (by decide)

theorem gauges_trimToFit (reversed : List Char) (h : w.canvas.Shows reversed) :
    Gauges w (trimToFit Painting.measure limit reversed) True w.canvas.Shows := by
  induction reversed with
  | nil => exact .pure (Canvas.shows_nil _)
  | cons x rest ih =>
    have hshown : w.canvas.Shows ((x :: rest).reverse ++ ellipsis) :=
      (h.of_subset (List.reverse_subset.2 (List.Subset.refl _))).append (shows_ellipsis _)
    unfold trimToFit
    dsimp only
    refine ((gauges_measure w _).bind (q := True) fun width _ _ => ?_).congr
      ⟨fun _ => trivial, fun _ => ⟨hshown, trivial⟩⟩
    split
    · exact ih (Canvas.shows_cons.1 h).2
    · exact .pure hshown

/-- **Cutting to fit** succeeds just if the text can be shown -/
theorem gauges_fit (text : List Char) :
    Gauges w (fit Painting.measure limit text) (w.canvas.Shows text) w.canvas.Shows := by
  unfold fit
  refine ((gauges_measure w text).bind (q := True) fun width htext _ => ?_).congr (iff_of_eq (and_true _))
  split
  · exact .pure htext
  · exact gauges_trimToFit _ (htext.of_subset (List.reverse_subset.2 (List.Subset.refl _)))

end Text

end ReportPress
