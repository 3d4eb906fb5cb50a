import ReportPress.Proofs.Document.Completion
/-!
Renderings and the characters of their texts. If no font from a file is configured under the name of a built-in family,
nothing that goes wrong in a rendering is for lack of a character: not what the rendering ends with, not what an issue
tells, and not what is let off on the way, where a font is registered or chosen, where a style is applied, and where a
placeholder is painted. The name counts as it is written in the settings: a family is looked up in small letters.

- `Renderer.Arises`: the failures of a rendering.
- `Move.legible_run`, `legible_layOut`: a move, and a whole layout, leave no issue for lack of a character.
- `prepare_namesApart`, `prepare_legible`: preparing a document.
- `render_legible`: a whole rendering. `named_like_built_in`: a font from a file under a built-in name.
-/

namespace ReportPress

namespace Renderer

/-- the failure that ends a rendering -/
def Outcome.failure? : Outcome → Option Failure
  | .refused f _ => some f
  | .failed f _ => some f
  | .done _ => none

/-- the issues met before a rendering ended -/
def Outcome.issues : Outcome → List Issue
  | .refused _ _ => []
  | .failed _ flow => flow.work.issues
  | .done d => d.issues

/-- the failures that arise in a rendering: the one that ends it, those that issues tell of, and those that are let off.
Of the last, all are counted that the document could come to, whatever it is like by then. -/
inductive Arises (r : Renderer) (t : Template) (record : Value) : Failure → Prop
  | ending {f : Failure} (h : (r.render t record).failure? = some f) : Arises r t record f
  | issue {i : Issue} (h : i ∈ (r.render t record).issues) : Arises r t record i.failure
  | registering {c : Canvas} {family path : String} {f : Failure} (h : c.addFont r.files family path = .error f) :
      Arises r t record f
  | choosing {c : Canvas} {family : String} {size : Float} {f : Failure} (h : c.setFont family "" size = .error f) :
      Arises r t record f
  | styling {j : Job} {c : Component} {s : Spot} {w v : Work} {f : Failure}
      (h : (Paint.applyStyle j c s).run.run w = (.error f, v)) : Arises r t record f
  | standingIn {c : Component} {origin : Point} {label : String} {w v : Work} {f : Failure}
      (hlabel : Paint.placeholderLabel c.kind = some label)
      (h : (Paint.paintPlaceholder c origin label).run.run w = (.error f, v)) : Arises r t record f

end Renderer

variable {j : Job} {w v : Work}

/-! ## Laying out -/

/-- footers add no issue -/
theorem footer_legible (hw : w.Legible) : ((Footer.draw j).run.run w).2.Legible := by
  have hgrow := (Paint.grows_footer j).run w
  refine ⟨hgrow.canvas.face hw.face, ?_⟩
  rw [hgrow.issues_eq]
  exact hw.issues

/-- a sequence keeps what its parts keep -/
theorem legible_bind {α β : Type} {x : Painting α} {k : α → Painting β} (hx : (x.run.run w).2.Legible)
    (hk : ∀ a (v : Work), v.Legible → ((k a).run.run v).2.Legible) : ((x >>= k).run.run w).2.Legible := by
  rw [Effect.run_bind]
  rcases hrun : x.run.run w with ⟨f | a, v⟩
  · rw [hrun] at hx
    exact hx
  · rw [hrun] at hx
    exact hk a v hx

theorem legible_forM {α : Type} {act : α → Painting Unit}
    (hact : ∀ x (v : Work), v.Legible → ((act x).run.run v).2.Legible) (l : List α) (hw : w.Legible) :
    ((l.forM act).run.run w).2.Legible := by
  induction l generalizing w with
  | nil => exact hw
  | cons x rest ih => exact legible_bind (hact x w hw) fun _ v hv => ih hv

/-- **A move** leaves no issue for lack of a character -/
theorem Move.legible_run (hj : j.NamesApart) (m : Move) (hw : w.Legible) : ((m.run j).run.run w).2.Legible := by
  cases m with
  | note n => exact ⟨hw.face, hw.issues⟩
  | stop f => exact hw
  | turn => exact legible_bind (footer_legible hw) fun _ v hv => ⟨hv.face, hv.issues⟩
  | put p => exact legible_forM (fun x v hv => Paint.legible_place hj x.1 x.2 hv) p.visits hw

/-- a layout does neither, however far it gets -/
theorem legible_layOut (hj : j.NamesApart) (hw : w.Legible) (record : Value) :
    ((Flow.layOut j record).run.run (Flow.start j w)).2.work.Legible := by
  have hdocument : ((Move.runDocument j (j.script w.canvas record).moves).run.run w).2.Legible :=
    legible_bind (legible_forM (fun m v hv => m.legible_run hj hv) _ hw) fun _ v hv => footer_legible hv
  rcases hrun : (Move.runDocument j (j.script w.canvas record).moves).run.run w with ⟨r, v⟩
  obtain ⟨g, hlayOut, hwork, -⟩ := layOut_run hrun
  rw [hrun] at hdocument
  rw [hlayOut, hwork]
  exact hdocument

namespace Renderer

/-! ## Preparing -/

/-- the families that are registered are those of fonts in the settings -/
theorem registerFonts_families {files : Files} {fonts : List (String × Path)} {families : List String}
    (h : (registerFonts files fonts).run.run w = (.ok families, v)) :
    ∀ family ∈ families, family ∈ fonts.map Prod.fst := by
  induction fonts generalizing w families with
  | nil =>
    cases h
    nofun
  | cons font rest ih =>
    obtain ⟨registered, w₁, -, h₁⟩ := Effect.run_bind_eq_ok h
    obtain ⟨others, w₂, hothers, h₂⟩ := Effect.run_bind_eq_ok h₁
    cases h₂
    intro family hfamily
    split at hfamily
    · exact (List.mem_cons.1 hfamily).elim (fun hfirst => hfirst ▸ List.mem_cons_self) fun hrest =>
        .tail _ (ih hothers family hrest)
    · exact .tail _ (ih hothers family hfamily)

/-- the families that a document knows from files are those of fonts in the settings -/
theorem prepare_families {r : Renderer} {t : Template} (hw : w.canvas.family = "")
    (h : (r.prepare t).run.run w = (.ok j, v)) :
    ∀ family ∈ j.fileFamilies, family ∈ r.settings.fontFiles.map Prod.fst := by
  obtain ⟨families, family, u, rfl, -, hfamilies, -, -⟩ := prepare_steps hw h
  exact registerFonts_families hfamilies

/-- so they are named apart if those of the settings are -/
theorem prepare_namesApart {r : Renderer} {t : Template}
    (hapart : ∀ font ∈ r.settings.fontFiles, Canvas.isBuiltIn (font.1, "") = false) (hw : w.canvas.family = "")
    (h : (r.prepare t).run.run w = (.ok j, v)) : j.NamesApart := by
  intro name hname
  obtain ⟨font, hfont, rfl⟩ := List.mem_map.1 (prepare_families hw h name hname)
  exact hapart font hfont

/-- fonts are registered or not, but not for lack of a character -/
theorem registerFonts_legible {files : Files} {fonts : List (String × Path)} {f : Failure}
    (h : (registerFonts files fonts).run.run w = (.error f, v)) : f.isUnencodable = false := by
  induction fonts generalizing w with
  | nil => cases h
  | cons font rest ih =>
    obtain ⟨family, path⟩ := font
    unfold registerFonts at h
    rcases Effect.run_bind_eq_error h with h₁ | ⟨registered, w₁, -, h₁⟩
    · -- the font itself is refused
      obtain h₂ | ⟨e, u, h₂⟩ := Painting.orElse_eq_error h₁
      · obtain h₃ | ⟨_, _, -, h₃⟩ := Effect.run_bind_eq_error h₂
        · have hadd := (Painting.draw_eq_error h₃).1
          exact Canvas.legible_addFont w.canvas files family path.text f hadd
        · cases h₃
      · cases h₂
    · rcases Effect.run_bind_eq_error h₁ with h₂ | ⟨others, w₂, -, h₂⟩
      · exact ih h₂
      · cases h₂

/-- so a document is prepared, or it is not, but not for lack of a character -/
theorem prepare_legible {r : Renderer} {t : Template} {f : Failure} (hw : w.canvas.family = "")
    (h : (r.prepare t).run.run w = (.error f, v)) : f.isUnencodable = false := by
  rcases Effect.run_bind_eq_error h with h₁ | ⟨families, w₁, hfonts, h₁⟩
  · exact registerFonts_legible h₁
  · have hregisters := registerFonts_registers r.files r.settings.fontFiles w
    rw [hfonts] at hregisters
    obtain ⟨family, w₂, hchoose, -⟩ := chooseFont_succeeds t ((congrArg Prod.fst hregisters.face).trans hw)
    rcases Effect.run_bind_eq_error h₁ with h₂ | ⟨_, _, -, h₂⟩
    · rw [hchoose] at h₂
      cases h₂
    · cases h₂

/-! ## Whole renderings -/

/-- what a layout ends with and the issues it leaves -/
theorem layOut_legible (hj : j.NamesApart) (hready : j.Ready w) (hissues : w.issues = []) (record : Value) :
    (∀ f, (layOut j w record).failure? = some f → f.isUnencodable = false) ∧
      ∀ i ∈ (layOut j w record).issues, i.failure.isUnencodable = false := by
  have hnone : ∀ i ∈ w.issues, i.failure.isUnencodable = false := by
    rw [hissues]
    exact List.forall_mem_nil _
  have hlegible := legible_layOut hj ⟨hready.face, hnone⟩ record
  constructor
  · intro f hf
    rcases layOut_outcome hj hready record with ⟨-, d, hd⟩ | ⟨-, e, flow, he, hpath⟩
    · rw [hd] at hf
      cases hf
    · rw [he] at hf
      cases hf
      exact hpath.isUnencodable
  · have hwork : (layOut j w record).issues = ((Flow.layOut j record).run.run (Flow.start j w)).2.work.issues := by
      unfold layOut
      rcases (Flow.layOut j record).run.run (Flow.start j w) with ⟨f | u, flow⟩
      · rfl
      · rfl
    rw [hwork]
    exact hlegible.issues

/-- **No failure of a rendering** is for lack of a character, if no font from a file is configured under the name of a
built-in family -/
theorem render_legible {r : Renderer}
    (hapart : ∀ font ∈ r.settings.fontFiles, Canvas.isBuiltIn (font.1, "") = false) (t : Template) (record : Value) :
    ∀ f, r.Arises t record f → f.isUnencodable = false := by
  have hrendered : (∀ f, (r.render t record).failure? = some f → f.isUnencodable = false) ∧
      ∀ i ∈ (r.render t record).issues, i.failure.isUnencodable = false := by
    have hfamily := newCanvas_family t
    unfold render
    rcases hprepare : (r.prepare t).run.run { canvas := newCanvas t } with ⟨f | j, w⟩
    · have hrefused := prepare_legible hfamily hprepare
      exact ⟨fun e he => Option.some.inj he ▸ hrefused, List.forall_mem_nil _⟩
    · obtain ⟨-, -, -, hready, -, -⟩ := prepare_ready hfamily hprepare
      exact layOut_legible (prepare_namesApart hapart hfamily hprepare) hready (prepare_issues hfamily hprepare) record
  intro f harises
  cases harises with
  | ending h => exact hrendered.1 f h
  | issue h => exact hrendered.2 _ h
  | registering h => exact Canvas.legible_addFont _ r.files _ _ f h
  | choosing h => exact Canvas.legible_setFont _ _ "" _ f h
  | styling h => exact Paint.legible_applyStyle.result f (congrArg Prod.fst h)
  | standingIn hlabel h =>
    obtain ⟨_, _, hrun, -⟩ := Paint.placeholder_succeeds _ _ _ (Paint.placeholderLabel_isLatin hlabel)
    rw [hrun] at h
    cases h

end Renderer

namespace Legible.Sample

/-- a template with a title that is not Latin-1, and a frame whose width is no number -/
def titled : Template :=
  { id := "titled", displayName := "Ş", config := {}
    sections :=
      [{ id := "body", name := "Body", kind := .content, position := ⟨10.0, 20.0⟩, dimensions := ⟨100.0, 60.0⟩
         components :=
          [{ id := "frame", kind := .rectangle
             style := [("borderColor", .string "#000"), ("borderWidth", .string "wide")] }] }] }

/-- a renderer with a font from a file, configured under the given name -/
def named (family : String) : Renderer :=
  { settings := { fontFiles := [(family, .relative ["font.ttf"])] }
    files := ⟨.directory [("font.ttf", .file .empty)], ⟨1, []⟩⟩
    assets := { fetchers := { web := fun _ => .silence } } }

/-- whether a rendering came to its end with one issue -/
def hasOneIssue : Renderer.Outcome → Bool
  | .done d => d.issues.length = 1
  | _ => false

theorem done_of_oneIssue {o : Renderer.Outcome} (h : hasOneIssue o = true) :
    ∃ d, o = .done d ∧ d.issues.length = 1 := by
  cases o with
  | done d => exact ⟨d, rfl, of_decide_eq_true h⟩
  | _ => cases h

end Legible.Sample

namespace Renderer

open Legible

/-- a name in capitals is apart from that of the built-in family: the title is reduced, and the one issue is another -/
theorem render_legible_sample :
    (∀ font ∈ (Sample.named "Helvetica").settings.fontFiles, Canvas.isBuiltIn (font.1, "") = false) ∧
      ∃ d, (Sample.named "Helvetica").render Sample.titled .null = .done d ∧ d.issues.length = 1 ∧
        ∀ i ∈ d.issues, i.failure.isUnencodable = false := by
  have hapart : ∀ font ∈ (Sample.named "Helvetica").settings.fontFiles, Canvas.isBuiltIn (font.1, "") = false := by
    decide +kernel
  obtain ⟨d, hdone, hissues⟩ := Sample.done_of_oneIssue (o := (Sample.named "Helvetica").render Sample.titled .null)
    (by decide +kernel)
  refine ⟨hapart, d, hdone, hissues, fun i hi => render_legible hapart Sample.titled .null _ (.issue (i := i) ?_)⟩
  rw [hdone]
  exact hi

/-- a font from a file under the name of a built-in family is registered, though the built-in font stays in use: the title
of the template is not reduced, and the footer of the first page ends the rendering -/
theorem named_like_built_in :
    ((newCanvas Sample.titled).addFont (Sample.named "helvetica").files "helvetica" "font.ttf").isOk = true ∧
      ∃ f, (Sample.named "helvetica").Arises Sample.titled .null f ∧ f.isUnencodable = true := by
  refine ⟨by decide +kernel, ?_⟩
  have hlacks : (((Sample.named "helvetica").render Sample.titled .null).failure?.any Failure.isUnencodable) = true := by
    decide +kernel
  obtain ⟨f, hf, hlack⟩ := Option.any_eq_true _ _ |>.1 hlacks
  exact ⟨f, .ending hf, hlack⟩

end Renderer

end ReportPress
