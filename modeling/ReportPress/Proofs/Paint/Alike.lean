import Mathlib.Data.List.Forall2
import ReportPress.Proofs.Paint.FallBack
/-!
Two runs side by side. Two documents are alike if they look the same but for images that may stand where the other has
a placeholder: the surfaces agree in size, pages and fonts, the traces entry by entry, but the font at hand may differ,
and so may what was drawn, the notes, the issues and the requests.

- `Work.Alike faced`: the relation; `faced` says that the same face is at hand, too.
- `Twin`: two computations, from alike states, both end in alike states, or both fail.
- `Twin.bind`, `Twin.bind_keep`, `Twin.tryCatch`: put together from parts; one lemma for each single step.
  `Twin.setFont`: choosing a font brings the same face to hand in both, whatever was at hand before.
-/

namespace ReportPress

/-- styles are let off for all failures of the drawing surface -/
theorem Failure.isStyleFault_of_drawing {f : Failure} (h : f.isDrawingFault = true) : f.isStyleFault = true := by
  simp only [Failure.isStyleFault, h, Bool.or_true, Bool.true_or]

/-- two failures of the drawing surface -/
theorem Failure.drawing_alike {f g : Failure} (hf : f.isDrawingFault = true) (hg : g.isDrawingFault = true) :
    f.isStyleFault = g.isStyleFault :=
  (isStyleFault_of_drawing hf).trans (isStyleFault_of_drawing hg).symm

/-- the same kind of mark, but for an image and a placeholder, which may stand for one another -/
def Mark.Alike (m n : Mark) : Prop :=
  m = n ∨ (m = .image ∧ n = .placeholder) ∨ (m = .placeholder ∧ n = .image)

/-- entries for the same thing at the same place; the texts may differ -/
structure Painted.Alike (p q : Painted) : Prop where
  page : p.page = q.page
  component : p.component = q.component
  mark : p.mark.Alike q.mark
  x : p.x = q.x
  y : p.y = q.y

theorem Painted.Alike.refl (p : Painted) : p.Alike p := ⟨rfl, rfl, .inl rfl, rfl, rfl⟩

theorem Mark.Alike.symm {m n : Mark} (h : m.Alike n) : n.Alike m := by
  rcases h with rfl | ⟨rfl, rfl⟩ | ⟨rfl, rfl⟩
  · exact .inl rfl
  · exact .inr (.inr ⟨rfl, rfl⟩)
  · exact .inr (.inl ⟨rfl, rfl⟩)

theorem Painted.Alike.symm {p q : Painted} (h : p.Alike q) : q.Alike p :=
  ⟨h.page.symm, h.component.symm, h.mark.symm, h.x.symm, h.y.symm⟩

/-- surfaces that agree in all that lasts, each with a font at hand that can be used; the same one if `faced` -/
structure Canvas.Alike (faced : Prop) (c d : Canvas) : Prop where
  width : c.width = d.width
  height : c.height = d.height
  pages : c.pages = d.pages
  fonts : c.fonts = d.fonts
  left : c.HasFace
  right : d.HasFace
  face : faced → c.face = d.face

structure Work.Alike (faced : Prop) (v w : Work) : Prop where
  canvas : v.canvas.Alike faced w.canvas
  trace : List.Forall₂ Painted.Alike v.trace w.trace

namespace Canvas.Alike

variable {p q : Prop} {c d c' d' : Canvas}

/-- what keeps the surface keeps surfaces alike -/
theorem keeps (h : c.Alike p d) (hc : c.Keeps c') (hd : d.Keeps d') (hface : q → c'.face = d'.face) : c'.Alike q d' :=
  ⟨hc.width.trans (h.width.trans hd.width.symm), hc.height.trans (h.height.trans hd.height.symm),
    hc.pages.trans (h.pages.trans hd.pages.symm), hc.fonts.trans (h.fonts.trans hd.fonts.symm), hc.face h.left,
    hd.face h.right, hface⟩

/-- with the same face at hand the same texts can be shown -/
theorem shows (h : c.Alike True d) (cs : List Char) : c.Shows cs ↔ d.Shows cs :=
  Canvas.shows_congr h.fonts (h.face trivial) cs

end Canvas.Alike

namespace Work.Alike

variable {p q : Prop} {v w v' w' : Work}

theorem symm (h : Work.Alike p v w) : Work.Alike p w v := by
  obtain ⟨hcanvas, htrace⟩ := h
  refine ⟨⟨hcanvas.width.symm, hcanvas.height.symm, hcanvas.pages.symm, hcanvas.fonts.symm, hcanvas.right, hcanvas.left,
    fun hp => (hcanvas.face hp).symm⟩, ?_⟩
  exact (List.Forall₂.flip htrace).imp fun _ _ => Painted.Alike.symm

theorem mono (h : Work.Alike p v w) (hpq : q → p) : Work.Alike q v w :=
  ⟨h.canvas.keeps (.refl _) (.refl _) fun hq => h.canvas.face (hpq hq), h.trace⟩

/-- documents that two alike entries are added to stay alike -/
theorem entries (h : Work.Alike p v w) {as bs : List Painted} (hv : v.canvas.Keeps v'.canvas)
    (hw : w.canvas.Keeps w'.canvas) (htv : v'.trace = v.trace ++ as) (htw : w'.trace = w.trace ++ bs)
    (hab : List.Forall₂ Painted.Alike as bs) : Work.Alike False v' w' :=
  ⟨h.canvas.keeps hv hw False.elim, by rw [htv, htw]; exact List.rel_append h.trace hab⟩

end Work.Alike

/-- how two runs end: both with values that `R` relates and with documents alike, or both with failures, of which both
or neither is one that styles are let off for -/
inductive Ends {α β : Type} (q : Prop) (R : α → β → Prop) : Except Failure α × Work → Except Failure β × Work → Prop
  | done {a : α} {b : β} {v w : Work} (hab : R a b) (h : Work.Alike q v w) : Ends q R (.ok a, v) (.ok b, w)
  | failed {f g : Failure} {v w : Work} (hfg : f.isStyleFault = g.isStyleFault) (h : Work.Alike False v w) :
      Ends q R (.error f, v) (.error g, w)

/-- the runs of two computations, from `v` and from `w`, end alike -/
structure Twin {α β : Type} (v w : Work) (x : Painting α) (y : Painting β) (q : Prop) (R : α → β → Prop) : Prop where
  ends : Ends q R (x.run.run v) (y.run.run w)

namespace Twin

variable {α β γ δ : Type} {p q q' : Prop} {v w : Work} {R : α → β → Prop} {S : γ → δ → Prop}

theorem pure {a : α} {b : β} (h : Work.Alike q v w) (hab : R a b) :
    Twin v w (Pure.pure a) (Pure.pure b) q R := ⟨.done hab h⟩

/-- one part after the other, where the first run keeps more of its document than that it is alike -/
theorem bind_keep {x : Painting α} {y : Painting β} {k : α → Painting γ} {l : β → Painting δ} {I : Work → Prop}
    (hxy : Twin v w x y q R) (hkeep : ∀ a v', x.run.run v = (.ok a, v') → I v')
    (hkl : ∀ a b v' w', R a b → I v' → Work.Alike q v' w' → Twin v' w' (k a) (l b) q' S) :
    Twin v w (x >>= k) (y >>= l) q' S := by
  obtain ⟨hxy⟩ := hxy
  refine ⟨?_⟩
  rw [Effect.run_bind, Effect.run_bind]
  rcases hx : x.run.run v with ⟨r, v'⟩
  rcases hy : y.run.run w with ⟨s, w'⟩
  rw [hx, hy] at hxy
  cases hxy with
  | done hab h => exact (hkl _ _ _ _ hab (hkeep _ _ hx) h).ends
  | failed hfg h => exact .failed hfg h

theorem bind {x : Painting α} {y : Painting β} {k : α → Painting γ} {l : β → Painting δ} (hxy : Twin v w x y q R)
    (hkl : ∀ a b v' w', R a b → Work.Alike q v' w' → Twin v' w' (k a) (l b) q' S) :
    Twin v w (x >>= k) (y >>= l) q' S :=
  hxy.bind_keep (I := fun _ => True) (fun _ _ _ => trivial) fun a b v' w' hab _ h => hkl a b v' w' hab h

theorem tryCatch {x : Painting α} {y : Painting β} {k : Failure → Painting α} {l : Failure → Painting β}
    (hxy : Twin v w x y q R)
    (hkl : ∀ f g v' w', f.isStyleFault = g.isStyleFault → Work.Alike False v' w' → Twin v' w' (k f) (l g) q R) :
    Twin v w (tryCatch x k) (tryCatch y l) q R := by
  obtain ⟨hxy⟩ := hxy
  refine ⟨?_⟩
  rw [Effect.run_tryCatch, Effect.run_tryCatch]
  rcases hx : x.run.run v with ⟨r, v'⟩
  rcases hy : y.run.run w with ⟨s, w'⟩
  rw [hx, hy] at hxy
  cases hxy with
  | done hab h => exact .done hab h
  | failed hfg h => exact (hkl _ _ _ _ hfg h).ends

/-- recovery from failures of styles -/
theorem orElse {x : Painting α} {y : Painting β} {k : Failure → Painting α} {l : Failure → Painting β}
    (hxy : Twin v w x y q R)
    (hkl : ∀ f g v' w', Work.Alike False v' w' → Twin v' w' (k f) (l g) q R) :
    Twin v w (x.orElse Failure.isStyleFault k) (y.orElse Failure.isStyleFault l) q R := by
  refine hxy.tryCatch fun f g v' w' hfg h => ?_
  rw [← hfg]
  split
  · exact hkl f g v' w' h
  · exact ⟨.failed hfg h⟩

theorem weaken {x : Painting α} {y : Painting β} (hxy : Twin v w x y q R) (h : q' → q) : Twin v w x y q' R := by
  refine ⟨?_⟩
  rcases hx : x.run.run v with ⟨r, v'⟩
  rcases hy : y.run.run w with ⟨s, w'⟩
  have hends := hxy.ends
  rw [hx, hy] at hends
  cases hends with
  | done hab hvw => exact .done hab (hvw.mono h)
  | failed hfg hvw => exact .failed hfg hvw

theorem ite {c : Prop} [Decidable c] {x x' : Painting α} {y y' : Painting β} (hx : Twin v w x y q R)
    (hy : Twin v w x' y' q R) : Twin v w (if c then x else x') (if c then y else y') q R := by
  split
  · exact hx
  · exact hy

/-- texts laid out on either side, if the one can be shown just if the other can -/
theorem gauge {x : Painting α} {y : Painting β} {k : α → Painting γ} {l : β → Painting δ} {F G : Prop}
    {Q : α → Prop} {Q' : β → Prop} (h : Work.Alike False v w) (hx : Gauges v x F Q) (hy : Gauges w y G Q') (hFG : F ↔ G)
    (hkl : ∀ a b, F → Q a → Q' b → Twin v w (k a) (l b) q' S) : Twin v w (x >>= k) (y >>= l) q' S := by
  refine ⟨?_⟩
  rw [Effect.run_bind, Effect.run_bind]
  rcases hx with ⟨hF, a, ha, hqa⟩ | ⟨hF, f, hf, hdraw⟩
  · rcases hy with ⟨-, b, hb, hqb⟩ | ⟨hG, -⟩
    · rw [ha, hb]; exact (hkl a b hF hqa hqb).ends
    · exact absurd (hFG.1 hF) hG
  · rcases hy with ⟨hG, -⟩ | ⟨-, g, hg, hdraw'⟩
    · exact absurd (hFG.2 hG) hF
    · rw [hf, hg]
      exact .failed (Failure.drawing_alike hdraw hdraw') h

theorem ofExcept (h : Work.Alike q v w) (r : Except Failure α) :
    Twin v w (Painting.ofExcept r) (Painting.ofExcept r) q Eq := by
  cases r with
  | ok a => exact ⟨.done rfl h⟩
  | error f => exact ⟨.failed rfl (h.mono False.elim)⟩

theorem get (h : Work.Alike q v w) :
    Twin v w (MonadState.get : Painting Work) (MonadState.get : Painting Work) q (Work.Alike q) := ⟨.done h h⟩

theorem note (h : Work.Alike q v w) (m n : Note) :
    Twin v w (Painting.note m) (Painting.note n) q fun _ _ => True := ⟨.done trivial ⟨h.canvas, h.trace⟩⟩

/-- steps on the two surfaces that are both carried out, or both not -/
theorem draw {f g : Canvas → Except Failure Canvas} (h : Work.Alike p v w)
    (hfg : (∃ c d, f v.canvas = .ok c ∧ g w.canvas = .ok d ∧ v.canvas.Keeps c ∧ w.canvas.Keeps d ∧
        (q → c.face = d.face)) ∨
      ∃ e e', f v.canvas = .error e ∧ g w.canvas = .error e' ∧ e.isStyleFault = e'.isStyleFault) :
    Twin v w (Painting.draw f) (Painting.draw g) q fun _ _ => True := by
  refine ⟨?_⟩
  rw [Painting.run_draw, Painting.run_draw]
  rcases hfg with ⟨c, d, hf, hg, hc, hd, hface⟩ | ⟨e, e', hf, hg, hee⟩
  · rw [hf, hg]
    exact .done trivial ⟨h.canvas.keeps hc hd hface, h.trace⟩
  · rw [hf, hg]
    exact .failed hee (h.mono False.elim)

theorem call (h : Work.Alike q v w) {c d : Call} (hc : c.isCarriedOut = true) (hd : d.isCarriedOut = true) :
    Twin v w (Painting.call c hc) (Painting.call d hd) q fun _ _ => True :=
  ⟨.done trivial ⟨h.canvas.keeps (Canvas.keeps_record ..) (Canvas.keeps_record ..) h.canvas.face, h.trace⟩⟩

/-- a call that is made once the same check of its arguments has passed -/
theorem checked (h : Work.Alike q v w) (check : Except Failure Unit) (c : Call) :
    Twin v w (Painting.draw fun s => check.map fun _ => s.record c)
      (Painting.draw fun s => check.map fun _ => s.record c) q fun _ _ => True := by
  refine .draw h ?_
  cases check with
  | error e => exact .inr ⟨e, e, rfl, rfl, rfl⟩
  | ok u => exact .inl ⟨_, _, rfl, rfl, Canvas.keeps_record .., Canvas.keeps_record .., h.canvas.face⟩

theorem setTextColour (h : Work.Alike q v w) (rgb : Rgb) :
    Twin v w (Painting.draw (·.setTextColour rgb)) (Painting.draw (·.setTextColour rgb)) q fun _ _ => True :=
  checked h (Canvas.checkColour rgb) (.textColour rgb)

theorem setFillColour (h : Work.Alike q v w) (rgb : Rgb) :
    Twin v w (Painting.draw (·.setFillColour rgb)) (Painting.draw (·.setFillColour rgb)) q fun _ _ => True :=
  checked h (Canvas.checkColour rgb) (.fillColour rgb)

theorem setDrawColour (h : Work.Alike q v w) (rgb : Rgb) :
    Twin v w (Painting.draw (·.setDrawColour rgb)) (Painting.draw (·.setDrawColour rgb)) q fun _ _ => True :=
  checked h (Canvas.checkColour rgb) (.drawColour rgb)

/-- **Choosing a font** by name brings the same face to hand on either side, whatever was at hand before -/
theorem setFont (h : Work.Alike p v w) {family : String} (hfamily : family ≠ "") (style : String) (size : Float) :
    Twin v w (Painting.draw (·.setFont family style size)) (Painting.draw (·.setFont family style size)) True
      fun _ _ => True := by
  refine .draw h ?_
  have hsame : v.canvas.faceFor family style = w.canvas.faceFor family style :=
    Canvas.faceFor_congr h.canvas.fonts hfamily style
  have hknows := Canvas.knows_faceFor_congr h.canvas.fonts hfamily style
  have hleft := Canvas.setFont_spec (fun _ : v.canvas.faceFor family style = _ => h.canvas.left) size
  have hright := Canvas.setFont_spec (fun _ : w.canvas.faceFor family style = _ => h.canvas.right) size
  rcases hleft with ⟨hk, c, hc, hface, hkeeps⟩ | ⟨hk, e, he, hdraw⟩
  · rcases hright with ⟨-, d, hd, hface', hkeeps'⟩ | ⟨hk', -⟩
    · exact .inl ⟨c, d, hc, hd, hkeeps, hkeeps', fun _ => hface.trans (hsame.trans hface'.symm)⟩
    · exact absurd (hknows.1 hk) hk'
  · rcases hright with ⟨hk', -⟩ | ⟨-, e', he', hdraw'⟩
    · exact absurd (hknows.2 hk') hk
    · exact .inr ⟨e, e', he, he', Failure.drawing_alike hdraw hdraw'⟩

/-- texts put down with the same face at hand, of which the one can be shown just if the other can -/
theorem putDown (h : Work.Alike True v w) {s t : List Char} (hst : v.canvas.Shows s ↔ w.canvas.Shows t) (c d : Call) :
    Twin v w (Painting.draw fun a => (a.checkText s).map fun _ => a.record c)
      (Painting.draw fun a => (a.checkText t).map fun _ => a.record d) True fun _ _ => True := by
  refine .draw h ?_
  rcases v.canvas.drawn_spec s c with ⟨hs, hc⟩ | ⟨hs, e, he, hdraw⟩
  · rcases w.canvas.drawn_spec t d with ⟨-, hd⟩ | ⟨ht, -⟩
    · exact .inl ⟨_, _, hc, hd, Canvas.keeps_record .., Canvas.keeps_record .., h.canvas.face⟩
    · exact absurd (hst.1 hs) ht
  · rcases w.canvas.drawn_spec t d with ⟨ht, -⟩ | ⟨-, e', he', hdraw'⟩
    · exact absurd (hst.2 ht) hs
    · exact .inr ⟨e, e', he, he', Failure.drawing_alike hdraw hdraw'⟩

theorem text (h : Work.Alike True v w) (s : String) (x y x' y' : Float) :
    Twin v w (Painting.draw (·.text x y s)) (Painting.draw (·.text x' y' s)) True fun _ _ => True :=
  putDown h (h.canvas.shows s.toList) (.text x y s) (.text x' y' s)

theorem cell (h : Work.Alike True v w) {s t : String} (hs : v.canvas.Shows s.toList) (ht : w.canvas.Shows t.toList)
    (x y : Float) (fill : Bool) :
    Twin v w (Painting.draw (·.cell x y s fill)) (Painting.draw (·.cell x y t fill)) True fun _ _ => True :=
  putDown h (iff_of_true hs ht) (.cell x y s fill) (.cell x y t fill)

theorem record (h : Work.Alike q v w) {m n : Mark} (hmn : m.Alike n) (component : String) (place : Point)
    (s t : String) :
    Twin v w (Painting.record component m place s) (Painting.record component n place t) q fun _ _ => True :=
  ⟨.done trivial ⟨h.canvas, List.rel_append h.trace (.cons ⟨h.canvas.pages, rfl, hmn, rfl, rfl⟩ .nil)⟩⟩

theorem encode (h : Work.Alike True v w) (j : Job) (s : String) :
    Twin v w (j.encode s) (j.encode s) True Eq := by
  refine (Twin.get h).bind fun a b v' w' hab h' => ?_
  rw [show a.canvas.family = b.canvas.family from congrArg Prod.fst (hab.canvas.face trivial)]
  exact (Twin.pure h' rfl).ite (Twin.pure h' rfl)

end Twin

end ReportPress
