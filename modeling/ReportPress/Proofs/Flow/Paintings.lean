import ReportPress.Proofs.Document.Prepare
import ReportPress.Proofs.Flow.Instances
/-!
The components that a layout comes to, one after the other, each with the document that its painting starts from. What
holds of every such document holds whenever a component is painted, however the layout goes on and ends; and what a
component enters into the trace stays there.

- `Painting.starts`: steps with what they start from. `starts_keep`: an invariant of the steps; `starts_prefix`: a trace
  that only grows. Both by induction on the steps.
- `Job.paintings`: the components of a layout.
- `paintings_ready`, `paintings_prefix`: what they start from, and what becomes of what they enter.
-/

namespace ReportPress

/-- the trace has only grown -/
def Work.Extends (before after : Work) : Prop := before.trace <+: after.trace

theorem Work.Extends.trans {u v w : Work} (h : Work.Extends u v) (k : Work.Extends v w) : Work.Extends u w :=
  List.IsPrefix.trans h k

theorem Work.Extends.of_advances {u v : Work} (h : Work.Advances u v) : Work.Extends u v := by
  obtain ⟨added, htrace, -⟩ := h.trace
  exact ⟨added, htrace.symm⟩

namespace Painting

variable {α : Type} {act : α → Painting Unit}

/-- steps that are taken one after the other, each with the work that it starts from; the first one that fails is the
last one taken -/
def starts (act : α → Painting Unit) : List α → Work → List (α × Work)
  | [], _ => []
  | x :: rest, w =>
    (x, w) ::
      match (act x).run.run w with
      | (.ok _, v) => starts act rest v
      | (.error _, _) => []

/-- what holds at first, and is kept by each step that does not fail, holds wherever a step starts -/
theorem starts_keep {I : Work → Prop} (hact : ∀ x u v, I u → (act x).run.run u = (.ok (), v) → I v) {l : List α}
    {w : Work} (hw : I w) : ∀ p ∈ starts act l w, I p.2 := by
  induction l generalizing w with
  | nil => nofun
  | cons x rest ih =>
    intro p hp
    unfold starts at hp
    rcases List.mem_cons.1 hp with rfl | hp
    · exact hw
    · rcases hrun : (act x).run.run w with ⟨f | u, v⟩
      · rw [hrun] at hp
        cases hp
      · rw [hrun] at hp
        exact ih (hact x w v hw hrun) p hp

theorem extends_forM (hact : ∀ x w, Work.Extends w ((act x).run.run w).2) (l : List α) (w : Work) :
    Work.Extends w ((l.forM act).run.run w).2 := by
  induction l generalizing w with
  | nil => exact List.prefix_rfl
  | cons x rest ih => exact Effect.bind_rel .trans (hact x w) fun _ => ih

/-- what a step enters stays -/
theorem starts_prefix (hact : ∀ x w, Work.Extends w ((act x).run.run w).2) {l : List α} {w : Work} :
    ∀ p ∈ starts act l w, Work.Extends ((act p.1).run.run p.2).2 ((l.forM act).run.run w).2 := by
  induction l generalizing w with
  | nil => nofun
  | cons x rest ih =>
    intro p hp
    unfold starts at hp
    show Work.Extends _ ((act x >>= fun _ => rest.forM act).run.run w).2
    rw [Effect.run_bind]
    rcases hrun : (act x).run.run w with ⟨f | u, v⟩
    · -- the step that fails is the last one, and the run ends as it left things
      rw [hrun] at hp
      rcases List.mem_cons.1 hp with rfl | hp
      · rw [hrun]
        exact List.prefix_rfl
      · cases hp
    · rw [hrun] at hp
      rcases List.mem_cons.1 hp with rfl | hp
      · rw [hrun]
        exact extends_forM hact rest v
      · exact ih p hp

end Painting

/-- the components of the instance that a move puts, each with the work that its painting starts from -/
def Move.paintings (j : Job) : Move → Work → List ((Component × Spot) × Work)
  | .put p, w => Painting.starts (fun v => Paint.place j v.1 v.2) p.visits w
  | _, _ => []

/-- the components of a whole layout that starts with `w` -/
def Job.paintings (j : Job) (root : Value) (w : Work) : List ((Component × Spot) × Work) :=
  (Painting.starts (Move.run j) (j.script w.canvas root).moves w).flatMap fun m => m.1.paintings j m.2

variable {j : Job} {root : Value} {w : Work} {p : (Component × Spot) × Work}

/-- a document of the job that can be painted, with the fonts of the first -/
structure Job.ReadyFor (j : Job) (fonts : List (String × Font.Metrics)) (w : Work) : Prop where
  ready : j.Ready w
  fonts : w.canvas.fonts = fonts

theorem Job.ReadyFor.keeps {fonts : List (String × Font.Metrics)} {u v : Work} (h : j.ReadyFor fonts u)
    (hkeeps : u.canvas.Keeps v.canvas) : j.ReadyFor fonts v := ⟨h.ready.keeps hkeeps, hkeeps.fonts.trans h.fonts⟩

/-- **A move** keeps the document ready -/
theorem Move.run_readyFor {fonts : List (String × Font.Metrics)} {m : Move} {u v : Work} (hu : j.ReadyFor fonts u)
    (h : (m.run j).run.run u = (.ok (), v)) : j.ReadyFor fonts v := by
  cases m with
  | note n =>
    exact hu.keeps ((Painting.grows_note (P := fun _ => True) (Q := fun _ => True) n).of_run h).canvas
  | stop f => cases h
  | put q => exact hu.keeps ((Move.grows_put j q).of_run h).canvas
  | turn =>
    obtain ⟨_, v₁, hfooter, h⟩ := Effect.run_bind_eq_ok h
    have hready := hu.keeps ((Paint.grows_footer j).of_run hfooter).canvas
    cases h
    exact ⟨hready.ready.addPage, hready.fonts⟩

/-- **Whenever a component is painted** the document can be painted, and has the fonts that it started with -/
theorem paintings_ready (hw : j.Ready w) (hp : p ∈ j.paintings root w) : j.ReadyFor w.canvas.fonts p.2 := by
  obtain ⟨⟨m, u⟩, hm, hp⟩ := List.mem_flatMap.1 hp
  have hu := Painting.starts_keep (I := j.ReadyFor w.canvas.fonts) (fun m u v hu h => m.run_readyFor hu h) ⟨hw, rfl⟩
    (m, u) hm
  cases m with
  | put q =>
    refine Painting.starts_keep (I := j.ReadyFor w.canvas.fonts) (fun visit u v hu h => ?_) hu p hp
    exact hu.keeps ((Paint.grows_place j visit.1 visit.2).of_run h).canvas
  | _ => cases hp

theorem extends_place (j : Job) (visit : Component × Spot) (w : Work) :
    Work.Extends w ((Paint.place j visit.1 visit.2).run.run w).2 :=
  .of_advances (.of_grows ((Paint.grows_place j visit.1 visit.2).run w))

theorem extends_move (j : Job) (m : Move) (w : Work) : Work.Extends w ((m.run j).run.run w).2 :=
  .of_advances (m.run_advances j w)

/-- **What a component enters** is in the trace when the layout ends, whether or not it comes to its end -/
theorem paintings_prefix (hp : p ∈ j.paintings root w) :
    Work.Extends ((Paint.place j p.1.1 p.1.2).run.run p.2).2
      ((Flow.layOut j root).run.run (Flow.start j w)).2.work := by
  obtain ⟨⟨m, u⟩, hm, hp⟩ := List.mem_flatMap.1 hp
  have hmove : Work.Extends ((Paint.place j p.1.1 p.1.2).run.run p.2).2 ((m.run j).run.run u).2 := by
    cases m with
    | put q => exact Painting.starts_prefix (extends_place j) p hp
    | _ => cases hp
  have hmoves := Painting.starts_prefix (extends_move j) (m, u) hm
  have hall : Work.Extends ((Move.runAll j (j.script w.canvas root).moves).run.run w).2
      ((Move.runDocument j (j.script w.canvas root).moves).run.run w).2 := by
    unfold Move.runDocument
    rw [Effect.run_bind]
    rcases (Move.runAll j (j.script w.canvas root).moves).run.run w with ⟨f | u, v⟩
    · exact List.prefix_rfl
    · exact .of_advances (.of_grows ((Paint.grows_footer j).run v))
  rcases hrun : (Move.runDocument j (j.script w.canvas root).moves).run.run w with ⟨r, v⟩
  obtain ⟨g, hlayOut, hwork, -⟩ := layOut_run hrun
  rw [hrun] at hall
  rw [hlayOut, hwork]
  exact (hmove.trans hmoves).trans hall

end ReportPress
