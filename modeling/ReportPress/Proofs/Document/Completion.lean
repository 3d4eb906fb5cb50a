import ReportPress.Proofs.Document.Prepare
import ReportPress.Proofs.Flow.Faults
import ReportPress.Proofs.Paint.Legible
/-!
Which renderings come to their end. If no font from a file has the name of a built-in family, the texts of footers can
be shown, so footers are always drawn; and whatever goes wrong with a component is an issue. What is left are the paths
that sections and conditions look up: a rendering fails just if one of them cannot be followed.

- `Template.Strays`: some section strays for the record.
- `footer_succeeds`: footers are drawn.
- `Painting.ComesTo`: a computation that comes to a failure or none, from whatever document.
- `Move.run_comesTo`, `Move.runDocument_comesTo`: what a move comes to, and what a whole script does.
- `render_done_iff`: renderings with the settings as they are by default.
-/

namespace ReportPress

/-- some section of the template needs a path that cannot be followed -/
def Template.Strays (t : Template) (record : Value) : Prop := ∃ s ∈ t.sections, s.Strays record

variable {j : Job} {w : Work}

theorem footer_succeeds (hapart : j.NamesApart) (hready : j.Ready w) :
    Succeeds w (Footer.draw j) fun _ v => j.Ready v := by
  unfold Footer.draw
  dsimp only
  split
  · exact .pure hready
  refine Succeeds.bind (Q := fun a v => a = w ∧ v = w) ⟨w, w, rfl, rfl, rfl⟩ fun a v ⟨ha, hv⟩ => ?_
  subst ha hv
  refine (Succeeds.setDrawColour (by decide +kernel)).bind fun _ v₁ h₁ => ?_
  refine (Succeeds.call _).bind fun _ v₂ h₂ => ?_
  refine (Succeeds.call _).bind fun _ v₃ h₃ => ?_
  have hready₃ := hready.keeps ((h₁.trans h₂).trans h₃).canvas
  refine (Succeeds.setFont (fun _ => hready₃.face) hready₃.family _).bind fun _ v₄ h₄ => ?_
  refine (Succeeds.setTextColour (by decide +kernel)).bind fun _ v₅ h₅ => ?_
  have hready₅ := hready₃.keeps (h₄.2.trans h₅).canvas
  refine (encode_succeeds hapart hready₅.face _).bind fun title v₆ ⟨hv₆, htitle⟩ => ?_
  subst hv₆
  refine (Succeeds.text htitle).bind fun _ v₇ h₇ => ?_
  have hready₇ := hready₅.keeps h₇.canvas
  refine (encode_succeeds hapart hready₇.face _).bind fun label v₈ ⟨hv₈, hlabel⟩ => ?_
  subst hv₈
  refine (Succeeds.gauge (gauges_measure _ _) hlabel).bind fun width v₉ ⟨hv₉, _⟩ => ?_
  subst hv₉
  refine (Succeeds.text hlabel).bind fun _ v₁₀ h₁₀ => ?_
  refine (Succeeds.setTextColour (by decide +kernel)).bind fun _ v₁₁ h₁₁ => ?_
  exact ⟨(), _, rfl, hready₇.keeps (h₁₀.trans h₁₁).canvas⟩

/-- the result that is a failure or none -/
def Failure.result : Option Failure → Except Failure Unit
  | none => .ok ()
  | some f => .error f

/-- a computation that comes to a failure or none, whatever document that can be painted it starts from -/
structure Painting.ComesTo (j : Job) (x : Painting Unit) (fault : Option Failure) : Prop where
  run : ∀ w : Work, j.Ready w → ∃ v, x.run.run w = (Failure.result fault, v) ∧ j.Ready v

namespace Painting.ComesTo

theorem done : ComesTo j (pure ()) none := ⟨fun w hw => ⟨w, rfl, hw⟩⟩

/-- of two faults one after the other the first counts -/
theorem bind {x y : Painting Unit} {f g : Option Failure} (hx : ComesTo j x f) (hy : ComesTo j y g) :
    ComesTo j (do x; y) (f.or g) := by
  refine ⟨fun w hw => ?_⟩
  obtain ⟨v, hrun, hv⟩ := hx.run w hw
  rw [Effect.run_bind, hrun]
  cases f with
  | none => exact hy.run v hv
  | some e => exact ⟨v, rfl, hv⟩

theorem forM {α : Type} {act : α → Painting Unit} {fault : α → Option Failure} {l : List α}
    (h : ∀ x ∈ l, ComesTo j (act x) (fault x)) : ComesTo j (l.forM act) (l.findSome? fault) := by
  induction l with
  | nil => exact done
  | cons x rest ih =>
    have hboth := (h x List.mem_cons_self).bind (ih fun y hy => h y (List.mem_cons_of_mem x hy))
    rw [List.findSome?_cons]
    cases hfault : fault x <;> rw [hfault] at hboth <;> exact hboth

end Painting.ComesTo

/-- painting a component comes to the failure of deciding its conditions, if that fails -/
theorem Paint.place_comesTo (j : Job) (c : Component) (s : Spot) :
    Painting.ComesTo j (place j c s) (Failure.of? (Condition.allHold s.scope none c.conditions).outcome.1) := by
  refine ⟨fun w hw => ?_⟩
  have houtcome := place_outcome j c s w
  have hgrow := (grows_place (c := c) j s).run w
  rcases hrun : (place j c s).run.run w with ⟨r, v⟩
  rw [hrun] at houtcome hgrow
  refine ⟨v, Prod.ext ?_ rfl, hw.keeps hgrow.canvas⟩
  rw [show r = _ from houtcome]
  unfold decision
  cases (Condition.allHold s.scope none c.conditions).outcome.1 <;> rfl

/-- **Footers** are drawn -/
theorem footer_comesTo (hapart : j.NamesApart) : Painting.ComesTo j (Footer.draw j) none := by
  refine ⟨fun w hw => ?_⟩
  obtain ⟨u, v, hrun, hv⟩ := footer_succeeds hapart hw
  exact ⟨v, hrun, hv⟩

/-- **A move** fails only if it stops the layout or a component's conditions cannot be decided -/
theorem Move.run_comesTo (hapart : j.NamesApart) (m : Move) : Painting.ComesTo j (m.run j) m.fault? := by
  cases m with
  | note n => exact ⟨fun w hw => ⟨_, rfl, hw.face, hw.named, hw.family⟩⟩
  | stop f => exact ⟨fun w hw => ⟨w, rfl, hw⟩⟩
  | turn =>
    have hpage : Painting.ComesTo j addPage none := ⟨fun w hw => ⟨_, rfl, hw.addPage⟩⟩
    exact (footer_comesTo hapart).bind hpage
  | put p =>
    have hvisits := Painting.ComesTo.forM (j := j) (l := p.visits) fun v _ => Paint.place_comesTo j v.1 v.2
    have hfault : p.visits.findSome? (fun v => Failure.of? (Condition.allHold v.2.scope none
        v.1.conditions).outcome.1) = (Move.put p).fault? := List.findSome?_map
    rw [← hfault]
    exact hvisits

/-- all moves and the last footer -/
theorem Move.runDocument_comesTo (hapart : j.NamesApart) (moves : List Move) :
    Painting.ComesTo j (runDocument j moves) (moves.findSome? Move.fault?) := by
  have hmoves : Painting.ComesTo j (runAll j moves) (moves.findSome? Move.fault?) :=
    .forM fun m _ => m.run_comesTo hapart
  have hdocument := hmoves.bind (footer_comesTo hapart)
  rw [Option.or_none] at hdocument
  exact hdocument

/-! ## Whole renderings -/

/-- the script of a document has no fault just if no section strays -/
theorem script_fault_none (j : Job) (c : Canvas) (record : Value) :
    (j.script c record).moves.findSome? Move.fault? = none ↔ ¬ j.template.Strays record := by
  unfold Job.script
  rw [scripts_fault, List.findSome?_eq_none_iff]
  constructor
  · rintro h ⟨s, hs, hstrays⟩
    exact (Section.expand_fault_none s record).1 (h s ((Order.sort_perm _ _).mem_iff.2 hs)) hstrays
  · intro h s hs
    exact (Section.expand_fault_none s record).2 fun hstrays => h ⟨s, (Order.sort_perm _ _).mem_iff.1 hs, hstrays⟩

/-- the fault of a script is one of a path -/
theorem script_fault_isOfPath {c : Canvas} {record : Value} {f : Failure}
    (h : (j.script c record).moves.findSome? Move.fault? = some f) : f.IsOfPath := by
  unfold Job.script at h
  rw [scripts_fault] at h
  obtain ⟨s, -, hs⟩ := List.exists_of_findSome?_eq_some h
  exact Section.expand_fault_isOfPath hs

namespace Renderer

/-- a layout comes to its end, or fails at a path -/
theorem layOut_outcome (hapart : j.NamesApart) (hready : j.Ready w) (record : Value) :
    (¬ j.template.Strays record ∧ ∃ d, layOut j w record = .done d) ∨
      (j.template.Strays record ∧ ∃ f flow, layOut j w record = .failed f flow ∧ f.IsOfPath) := by
  obtain ⟨v, hrun, -⟩ := (Move.runDocument_comesTo hapart (j.script w.canvas record).moves).run w hready
  obtain ⟨g, hg, -⟩ := layOut_run hrun
  have hnone := script_fault_none j w.canvas record
  unfold layOut
  rw [hg]
  cases hfault : (j.script w.canvas record).moves.findSome? Move.fault? with
  | none => exact .inl ⟨hnone.1 hfault, _, rfl⟩
  | some f =>
    refine .inr ⟨?_, f, g, rfl, script_fault_isOfPath hfault⟩
    by_contra hno
    rw [hnone.2 hno] at hfault
    cases hfault

/-- without fonts from files a document is always prepared -/
theorem prepare_succeeds (r : Renderer) (hplain : r.settings.fontFiles = []) (t : Template)
    (hw : w.canvas.family = "") : Succeeds w (r.prepare t) fun j _ => j.NamesApart := by
  unfold prepare
  rw [hplain]
  refine Succeeds.bind (Q := fun families v => families = [] ∧ v = w) ⟨[], w, rfl, rfl, rfl⟩ ?_
  rintro families v ⟨rfl, rfl⟩
  exact (chooseFont_succeeds t hw).bind fun family v _ => .pure nofun

/-- **Renderings come to their end** with the settings as they are by default, unless some path that a section or a
condition looks up cannot be followed; then, and only then, they fail, with the failure of that path -/
theorem render_done_iff (files : Files) (assets : Assets) (t : Template) (record : Value) :
    ((∃ d, Renderer.render { files := files, assets := assets } t record = .done d) ↔ ¬ t.Strays record) ∧
      ((∃ f flow, Renderer.render { files := files, assets := assets } t record = .failed f flow ∧ f.IsOfPath) ↔
        t.Strays record) := by
  obtain ⟨j, w, hprepare, hplain⟩ :=
    prepare_succeeds (w := { canvas := newCanvas t }) { files := files, assets := assets } rfl t (newCanvas_family t)
  obtain ⟨rfl, -, -, hready, -, -⟩ := prepare_ready (newCanvas_family t) hprepare
  unfold render
  rw [hprepare]
  dsimp only
  rcases layOut_outcome hplain hready record with ⟨hno, d, hd⟩ | ⟨hstrays, f, flow, hf, hpath⟩
  · rw [hd]
    refine ⟨iff_of_true ⟨d, rfl⟩ hno, iff_of_false ?_ hno⟩
    rintro ⟨f, flow, h, -⟩
    cases h
  · rw [hf]
    refine ⟨iff_of_false ?_ fun h => h hstrays, iff_of_true ⟨f, flow, rfl, hpath⟩ hstrays⟩
    rintro ⟨d, h⟩
    cases h

end Renderer

namespace Sample

/-- a template whose rows are said to be at a place that is none: a raised two looks like a digit -/
def misplaced : Value :=
  .object .record [("id", .string "t"), ("sections", .list .record [.object .record
    [("id", .string "rows"), ("isRepeatable", .bool true), ("dataBinding", .string "findings.²"),
      ("components", .list .record [])]])]

/-- a record with a list where the template looks for rows -/
def findings : Value := .object .record [("findings", .list .record [.int 1])]

/-- a renderer with the settings as they are by default, and no images -/
def bare : Renderer := { files := .empty, assets := { fetchers := { web := fun _ => .silence } } }

def isDone : Renderer.Outcome → Bool
  | .done _ => true
  | _ => false

/-- whether a template is rendered to the end, if it can be read -/
def finishes? (payload record : Value) : Option Bool :=
  match Template.read payload with
  | .ok t => some (isDone (bare.render t record))
  | .error _ => none

end Sample

/-- a template that can be read but is not rendered to the end: at a list, the raised two is taken for a place -/
theorem misplaced_not_done :
    ∃ t, Template.read Sample.misplaced = .ok t ∧ ∀ d, Sample.bare.render t Sample.findings ≠ .done d := by
  have hfinishes : Sample.finishes? Sample.misplaced Sample.findings = some false := by decide +kernel
  unfold Sample.finishes? at hfinishes
  split at hfinishes
  · next t ht =>
    refine ⟨t, ht, fun d hd => ?_⟩
    rw [hd] at hfinishes
    cases hfinishes
  · cases hfinishes

/-! ## Documents that are finished -/

namespace Sample

/-- how many pages a document has, if it was finished -/
def pages? : Renderer.Outcome → Option ℕ
  | .done d => some d.pages
  | _ => none

theorem done_of_pages {o : Renderer.Outcome} {n : ℕ} (h : pages? o = some n) : ∃ d, o = .done d ∧ d.pages = n := by
  cases o with
  | done d => exact ⟨d, rfl, Option.some.inj h⟩
  | _ => cases h

/-- the rows of the list alone -/
def list : Template := { id := "list", displayName := "List", config := {}, sections := [rows] }

end Sample

end ReportPress
