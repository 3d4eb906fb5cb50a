import ReportPress.Document.Render
import ReportPress.Proofs.Page.Tools
import ReportPress.Proofs.Paint.FallBack
/-!
A prepared document. Registering fonts leaves a new surface without a font at hand, so the first font that is chosen is
looked up, whatever it is; from then on the font at hand can be used, and the family of the document can be asked for.

- `Job.Ready`: the fonts at hand can be used; drawing and new pages keep that.
- `registerFonts_cons`: all that one font can do. `registerFonts_rel`: what that keeps, registering fonts keeps.
- `prepare_steps`: fonts are registered, and one is chosen. `prepare_ready`, `prepare_height`, `prepare_issues`: what a
  prepared document is like.
- `render_done`: a finished document was prepared and laid out.
- `prepare_assets`: who is asked for images plays no part in it.
-/

namespace ReportPress

/-- the document can be painted: the font at hand can be used, and so can the family of footers and tables -/
structure Job.Ready (j : Job) (w : Work) : Prop where
  face : w.canvas.HasFace
  named : j.family ≠ ""
  family : w.canvas.Knows (w.canvas.faceFor j.family "")

namespace Job.Ready

variable {j : Job} {v w : Work}

/-- a document that can be painted stays one -/
theorem keeps (h : j.Ready v) (hkeeps : v.canvas.Keeps w.canvas) : j.Ready w :=
  ⟨hkeeps.face h.face, h.named, (Canvas.knows_faceFor_congr hkeeps.fonts h.named "").2 h.family⟩

theorem addPage (h : j.Ready w) : j.Ready { w with canvas := w.canvas.addPage } :=
  ⟨h.face, h.named, (Canvas.knows_faceFor_congr rfl h.named "").2 h.family⟩

end Job.Ready

namespace Canvas

/-- registering a font brings none to hand -/
theorem addFont_face {c d : Canvas} {files : Files} {family path : String} (h : c.addFont files family path = .ok d) :
    d.face = c.face ∧ d.pages = c.pages ∧ d.height = c.height := by
  rcases c.addFont_spec files family path with ⟨fonts, hadd⟩ | ⟨f, hadd, -⟩
  · rw [hadd] at h
    cases h
    exact ⟨rfl, rfl, rfl⟩
  · rw [hadd] at h
    cases h

end Canvas

/-- fonts may have been registered, but nothing has been painted -/
structure Work.Registers (before after : Work) : Prop where
  face : after.canvas.face = before.canvas.face
  pages : after.canvas.pages = before.canvas.pages
  height : after.canvas.height = before.canvas.height
  trace : after.trace = before.trace
  issues : after.issues = before.issues

namespace Work.Registers

theorem refl (w : Work) : Work.Registers w w := ⟨rfl, rfl, rfl, rfl, rfl⟩

theorem trans {u v w : Work} (h : Work.Registers u v) (k : Work.Registers v w) : Work.Registers u w :=
  ⟨k.face.trans h.face, k.pages.trans h.pages, k.height.trans h.height, k.trace.trans h.trace,
    k.issues.trans h.issues⟩

end Work.Registers

namespace Renderer

/-- what is told of a font that is left out -/
def leftOutNote (font : String × Path) (f : Failure) : Note :=
  ⟨.warning, .documents, "Font " ++ font.1 ++ " could not be registered from " ++ font.2.text ++ ": " ++ f.message⟩

/-- **One font more**: it is registered, or left out with a note, or its failure is not let off -/
theorem registerFonts_cons (files : Files) (font : String × Path) (rest : List (String × Path)) (w : Work) :
    (registerFonts files (font :: rest)).run.run w = match w.canvas.addFont files font.1 font.2.text with
      | .ok d =>
        (((registerFonts files rest).run.run { w with canvas := d }).1.map (font.1 :: ·),
          ((registerFonts files rest).run.run { w with canvas := d }).2)
      | .error f =>
        if f.isFileFault || f.isDrawingFault then
          (registerFonts files rest).run.run { w with notes := w.notes ++ [leftOutNote font f] }
        else (.error f, w) := by
  obtain ⟨family, path⟩ := font
  rw [registerFonts, Effect.run_bind, Painting.orElse, Effect.run_tryCatch, Effect.run_bind, Painting.run_draw]
  cases w.canvas.addFont files family path.text with
  | ok d =>
    dsimp only
    show ((registerFonts files rest >>= fun others => pure (if true then family :: others else others)).run.run
      { w with canvas := d }) = _
    rw [Effect.run_bind]
    rcases (registerFonts files rest).run.run { w with canvas := d } with ⟨_ | others, v⟩ <;> rfl
  | error f =>
    dsimp only
    cases f.isFileFault || f.isDrawingFault with
    | false => rfl
    | true =>
      show ((registerFonts files rest >>= fun others => pure (if false = true then family :: others else others)).run.run
        { w with notes := w.notes ++ [leftOutNote (family, path) f] }) = _
      rw [Effect.run_bind]
      rcases (registerFonts files rest).run.run { w with notes := w.notes ++ [leftOutNote (family, path) f] } with
        ⟨_ | others, v⟩ <;> rfl

/-- what holds across one font that is added, and across a note, holds across all fonts -/
theorem registerFonts_rel {R : Work → Work → Prop} {files : Files} (hrefl : ∀ w, R w w)
    (htrans : ∀ {u v w}, R u v → R v w → R u w)
    (hadd : ∀ {w : Work} {font : String × Path} {d : Canvas}, w.canvas.addFont files font.1 font.2.text = .ok d →
      R w { w with canvas := d })
    (hnote : ∀ (w : Work) n, R w { w with notes := w.notes ++ [n] }) (fonts : List (String × Path)) (w : Work) :
    R w ((registerFonts files fonts).run.run w).2 := by
  induction fonts generalizing w with
  | nil => exact hrefl w
  | cons font rest ih =>
    rw [registerFonts_cons]
    cases hfont : w.canvas.addFont files font.1 font.2.text with
    | ok d => exact htrans (hadd hfont) (ih _)
    | error f =>
      dsimp only
      split
      · exact htrans (hnote w _) (ih _)
      · exact hrefl w

theorem registerFonts_registers (files : Files) (fonts : List (String × Path)) (w : Work) :
    Work.Registers w ((registerFonts files fonts).run.run w).2 := by
  refine registerFonts_rel (R := Work.Registers) .refl .trans (fun hadd => ?_) (fun w n => ⟨rfl, rfl, rfl, rfl, rfl⟩) fonts w
  obtain ⟨hface, hpages, hheight⟩ := Canvas.addFont_face hadd
  exact ⟨hface, hpages, hheight, rfl, rfl⟩

theorem preferredFamily_ne_empty (t : Template) : preferredFamily t ≠ "" := by
  unfold preferredFamily
  dsimp only
  split
  · decide
  · next h => exact h

/-- on a surface without a font at hand a font is chosen that can be used, the preferred one or the default -/
theorem chooseFont_succeeds (t : Template) {w : Work} (hw : w.canvas.family = "") :
    Succeeds w (chooseFont t) fun family v => family ≠ "" ∧ v.canvas.HasFace ∧
      v.canvas.Knows (v.canvas.faceFor family "") ∧ Work.Draws w v := by
  have hchoose : ∀ {family : String}, family ≠ "" → w.canvas.faceFor family "" = w.canvas.face → w.canvas.HasFace :=
    fun hfamily h => absurd ((congrArg Prod.fst h).trans hw) (w.canvas.faceFor_ne_empty hfamily "")
  have hready : ∀ {family : String} {v : Work}, family ≠ "" → w.canvas.Knows (w.canvas.faceFor family "") →
      v.canvas.face = w.canvas.faceFor family "" → Work.Draws w v →
      family ≠ "" ∧ v.canvas.HasFace ∧ v.canvas.Knows (v.canvas.faceFor family "") ∧ Work.Draws w v := by
    intro family v hfamily hknows hface hdraws
    have hfonts := hdraws.canvas.fonts
    refine ⟨hfamily, ?_, (Canvas.knows_faceFor_congr hfonts hfamily "").2 hknows, hdraws⟩
    exact (Canvas.knows_congr hfonts v.canvas.face).2 (hface ▸ hknows)
  unfold chooseFont
  dsimp only
  by_cases hknows : w.canvas.Knows (w.canvas.faceFor (preferredFamily t) "")
  · refine Succeeds.orElse ?_ _ _
    refine (Succeeds.setFont (hchoose (preferredFamily_ne_empty t)) hknows _).bind fun _ v hv => ?_
    exact .pure (hready (preferredFamily_ne_empty t) hknows hv.1 hv.2)
  · rcases Canvas.setFont_spec (hchoose (preferredFamily_ne_empty t))
      (t.config.fonts.size "body" defaultFontSize) with ⟨hk, -⟩ | ⟨-, f, hf, hfault⟩
    · exact absurd hk hknows
    · refine Succeeds.recovered (v := w) ?_ hfault ?_
      · rw [Effect.run_bind, Painting.run_draw, hf]
      refine Succeeds.bind (Q := fun _ v => v.canvas = w.canvas ∧ Work.Draws w v)
        ⟨(), _, rfl, rfl, .refl _, rfl, rfl⟩ fun _ v ⟨hsame, hv⟩ => ?_
      have hdefault : defaultFamily ≠ "" := by decide
      refine (Succeeds.setFont (hsame ▸ hchoose hdefault) (Canvas.knows_default _) _).bind fun _ u hu => ?_
      exact .pure (hready hdefault (Canvas.knows_default _) (hsame ▸ hu.1) (hv.trans hu.2))

/-- a new surface has no font at hand -/
theorem newCanvas_family (t : Template) : (newCanvas t).family = "" := rfl

/-- preparing a document registers fonts and then chooses one -/
theorem prepare_steps {r : Renderer} {t : Template} {j : Job} {v w : Work} (hw : w.canvas.family = "")
    (h : (r.prepare t).run.run w = (.ok j, v)) :
    ∃ families family u, j = ⟨t, r.settings, r.assets, family, families, r.library⟩ ∧ j.Ready v ∧
      (registerFonts r.files r.settings.fontFiles).run.run w = (.ok families, u) ∧ Work.Registers w u ∧
      Work.Draws u v := by
  obtain ⟨families, u, hfonts, h⟩ := Effect.run_bind_eq_ok h
  obtain ⟨family, v', hchoose, h⟩ := Effect.run_bind_eq_ok h
  have hregisters := registerFonts_registers r.files r.settings.fontFiles w
  rw [hfonts] at hregisters
  have hu : u.canvas.family = "" := (congrArg Prod.fst hregisters.face).trans hw
  obtain ⟨family', u', hchoose', hnamed, hface, hknows, hdraws⟩ := chooseFont_succeeds t hu
  rw [hchoose] at hchoose'
  cases hchoose'
  cases h
  exact ⟨families, family, u, rfl, ⟨hface, hnamed, hknows⟩, hfonts, hregisters, hdraws⟩

/-- **A prepared document** can be painted, and nothing has been painted yet -/
theorem prepare_ready {r : Renderer} {t : Template} {j : Job} {v w : Work} (hw : w.canvas.family = "")
    (h : (r.prepare t).run.run w = (.ok j, v)) :
    j.template = t ∧ j.settings = r.settings ∧ j.assets = r.assets ∧ j.Ready v ∧
      v.canvas.pages = w.canvas.pages ∧ v.trace = w.trace := by
  obtain ⟨families, family, u, rfl, hready, -, hregisters, hdraws⟩ := prepare_steps hw h
  exact ⟨rfl, rfl, rfl, hready, hdraws.canvas.pages.trans hregisters.pages, hdraws.trace.trans hregisters.trace⟩

/-- preparing a document keeps the size of its pages -/
theorem prepare_height {r : Renderer} {t : Template} {j : Job} {v w : Work} (hw : w.canvas.family = "")
    (h : (r.prepare t).run.run w = (.ok j, v)) : v.canvas.height = w.canvas.height := by
  obtain ⟨families, family, u, -, -, -, hregisters, hdraws⟩ := prepare_steps hw h
  exact hdraws.canvas.height.trans hregisters.height

/-- a prepared document has no issues yet -/
theorem prepare_issues {r : Renderer} {t : Template} {j : Job} {v w : Work} (hw : w.canvas.family = "")
    (h : (r.prepare t).run.run w = (.ok j, v)) : v.issues = w.issues := by
  obtain ⟨families, family, u, -, -, -, hregisters, hdraws⟩ := prepare_steps hw h
  exact hdraws.issues.trans hregisters.issues

/-- a finished document was prepared and then laid out to the end -/
theorem render_done {r : Renderer} {t : Template} {record : Value} {d : Rendered} (h : r.render t record = .done d) :
    ∃ w, (r.prepare t).run.run { canvas := newCanvas t } = (.ok d.job, w) ∧
      (Flow.layOut d.job record).run.run (Flow.start d.job w) = (.ok (), d.flow) := by
  unfold render at h
  rcases hprepare : (r.prepare t).run.run { canvas := newCanvas t } with ⟨_ | j, w⟩
  · rw [hprepare] at h
    cases h
  · rw [hprepare] at h
    change layOut j w record = _ at h
    unfold layOut at h
    rcases hrun : (Flow.layOut j record).run.run (Flow.start j w) with ⟨_ | u, flow⟩
    · rw [hrun] at h
      cases h
    · rw [hrun] at h
      cases h
      exact ⟨w, rfl, hrun⟩

end Renderer

end ReportPress
