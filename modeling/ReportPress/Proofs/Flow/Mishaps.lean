import ReportPress.Proofs.Flow.Script
import ReportPress.Proofs.Paint.FallBack
/-!
What is told of components that cannot be painted. A mishap is a component whose painter fails; it is told of twice, by
an issue and, for images and tables, by a placeholder in the trace. The two are entered by different steps, and more may
go wrong between them, yet neither list lacks a mishap or has one that did not happen.

- `Mishap`: the component, where it was to be painted, and the failure; its issue and its placeholder.
- `Paint.mishap?`: the mishap of one component, read off the run of its painter.
- `Mishap.along`: the mishaps of a run of steps, up to the first step that fails as a whole.
- `Work.Tells`: the issues and the placeholders added are those of given mishaps. `tells_place`, `tells_forM`: one
  component, and a run of steps.
- `layOut_tells`: a whole layout.
-/

namespace ReportPress

/-- a component whose painter failed: where it was to be painted, on which page, and why it was not -/
structure Mishap where
  component : Component
  origin : Point
  page : ℕ
  failure : Failure

namespace Mishap

def issue (m : Mishap) : Issue := ⟨m.component.id, m.component.kind, m.page, m.failure⟩

/-- images and tables have something to stand for them -/
def isStoodFor (m : Mishap) : Bool := m.component.kind = .image || m.component.kind = .table

def placeholder (m : Mishap) : Painted :=
  ⟨m.page, m.component.id, .placeholder, (Paint.placeholderLabel m.component.kind).getD "",
    roundThousandths m.origin.x, roundThousandths m.origin.y⟩

/-- the mishaps of steps taken one after the other, each told by `of` from the work that its step starts with; the first
step that fails is the last one taken -/
def along {α : Type} (act : α → Painting Unit) (of : α → Work → List Mishap) : List α → Work → List Mishap
  | [], _ => []
  | x :: rest, w =>
    of x w ++
      match (act x).run.run w with
      | (.ok _, v) => along act of rest v
      | (.error _, _) => []

end Mishap

/-- the mishap of a component: its conditions hold, and its painter fails -/
def Paint.mishap? (j : Job) (c : Component) (s : Spot) (w : Work) : Option Mishap :=
  match decision c s with
  | (.ok true, notes) =>
    match (paint j c s).run.run { w with notes := w.notes ++ notes } with
    | (.error f, _) => some ⟨c, s.origin, w.canvas.pages, f⟩
    | (.ok _, _) => none
  | _ => none

/-- the mishaps of a move: those of the components of the instance that it puts -/
def Move.mishaps (j : Job) : Move → Work → List Mishap
  | .put p, w =>
    Mishap.along (fun v => Paint.place j v.1 v.2) (fun v w => (Paint.mishap? j v.1 v.2 w).toList) p.visits w
  | _, _ => []

/-- the mishaps of a whole layout that starts with `w` -/
def Job.mishaps (j : Job) (root : Value) (w : Work) : List Mishap :=
  Mishap.along (Move.run j) (Move.mishaps j) (j.script w.canvas root).moves w

/-- the placeholders painted so far -/
def Work.placeholders (w : Work) : List Painted := w.trace.filter (·.mark = .placeholder)

/-! ## What is told of mishaps -/

/-- the issues that were added are those of the mishaps, and so are the placeholders -/
structure Work.Tells (before after : Work) (ms : List Mishap) : Prop where
  issues : after.issues = before.issues ++ ms.map Mishap.issue
  placeholders : after.placeholders = before.placeholders ++ (ms.filter Mishap.isStoodFor).map Mishap.placeholder

namespace Work.Tells

variable {u v w : Work} {ms ns : List Mishap}

theorem trans (h : Work.Tells u v ms) (k : Work.Tells v w ns) : Work.Tells u w (ms ++ ns) := by
  refine ⟨?_, ?_⟩
  · rw [k.issues, h.issues, List.append_assoc, List.map_append]
  · rw [k.placeholders, h.placeholders, List.append_assoc, List.filter_append, List.map_append]

/-- what enters neither an issue nor a placeholder tells of no mishap -/
theorem of_grows {P : Painted → Prop} (hP : ∀ p, P p → p.mark ≠ .placeholder)
    (h : Work.Grows P (fun _ => False) u v) : Work.Tells u v [] := by
  obtain ⟨added, htrace, hadded⟩ := h.trace
  have hnone : added.filter (·.mark = .placeholder) = [] := by
    rw [List.filter_eq_nil_iff]
    intro p hp
    simpa using hP p (hadded p hp).2
  refine ⟨by rw [h.issues_eq]; exact (List.append_nil _).symm, ?_⟩
  rw [Work.placeholders, htrace, List.filter_append, hnone]
  rfl

theorem refl (w : Work) : Work.Tells w w [] := of_grows (fun _ => False.elim) (.refl w)

end Work.Tells

namespace Paint

/-- the entries of a component's placeholder are those of its mishap -/
theorem placeholderEntry_eq (m : Mishap) :
    (placeholderEntry m.component m.origin m.page).toList = ([m].filter Mishap.isStoodFor).map Mishap.placeholder := by
  obtain ⟨⟨id, kind⟩, origin, page, failure⟩ := m
  cases kind <;> rfl

/-- the fallback tells of the mishap that it is for -/
theorem tells_fallBack (m : Mishap) {w : Work} (hpage : m.page = w.canvas.pages) :
    Work.Tells w ((fallBack m.component m.origin m.issue).run.run w).2 [m] := by
  obtain ⟨u, v, hrun, -, hissues, htrace⟩ := fallBack_run m.component m.origin m.issue w
  rw [hrun]
  refine ⟨hissues, ?_⟩
  rw [Work.placeholders, htrace, ← hpage, placeholderEntry_eq, List.filter_append]
  refine congrArg (w.placeholders ++ ·) (List.filter_eq_self.2 ?_)
  intro p hp
  obtain ⟨n, -, rfl⟩ := List.mem_map.1 hp
  rfl

/-- **A component** is told of just if its painter fails -/
theorem tells_place (j : Job) (c : Component) (s : Spot) (w : Work) :
    Work.Tells w ((place j c s).run.run w).2 (mishap? j c s w).toList := by
  have hsame : Work.Tells w { w with notes := w.notes ++ (decision c s).2 } [] :=
    .of_grows (fun _ => False.elim) (.of_same (.refl _) _ w.requests)
  rw [place_run]
  unfold mishap?
  rcases hdecided : decision c s with ⟨_ | holds, notes⟩
  · rw [hdecided] at hsame
    exact hsame
  · rw [hdecided] at hsame
    cases holds with
    | false => exact hsame
    | true =>
      have hgrow := (grows_paint (c := c) (Q := fun _ => False) j s).run { w with notes := w.notes ++ notes }
      have hpaint : Work.Tells w ((paint j c s).run.run { w with notes := w.notes ++ notes }).2 [] :=
        hsame.trans (.of_grows (fun _ h => h.2.2) hgrow)
      dsimp only
      rw [attempt_run]
      rcases hrun : (paint j c s).run.run { w with notes := w.notes ++ notes } with ⟨f | u, v⟩
      · rw [hrun] at hpaint hgrow
        have hpages : v.canvas.pages = w.canvas.pages := hgrow.canvas.pages
        have hback := tells_fallBack ⟨c, s.origin, w.canvas.pages, f⟩ hpages.symm
        rw [Mishap.issue, ← hpages] at hback
        rw [← hpages]
        exact hpaint.trans hback
      · rw [hrun] at hpaint
        exact hpaint

end Paint

/-- steps that each tell of their mishaps tell of the mishaps along them -/
theorem Mishap.tells_forM {α : Type} (act : α → Painting Unit) (of : α → Work → List Mishap)
    (h : ∀ x w, Work.Tells w ((act x).run.run w).2 (of x w)) (l : List α) (w : Work) :
    Work.Tells w ((l.forM act).run.run w).2 (along act of l w) := by
  induction l generalizing w with
  | nil => exact .refl w
  | cons x rest ih =>
    have hx := h x w
    show Work.Tells w ((act x >>= fun _ => rest.forM act).run.run w).2 _
    rw [Effect.run_bind]
    unfold along
    rcases hrun : (act x).run.run w with ⟨f | u, v⟩
    · rw [hrun] at hx
      rw [List.append_nil]
      exact hx
    · rw [hrun] at hx
      exact hx.trans (ih v)

/-- a footer tells of nothing -/
theorem Work.Tells.footer (j : Job) (w : Work) : Work.Tells w ((Footer.draw j).run.run w).2 [] :=
  .of_grows (fun p h => by rw [h.2]; decide) ((Paint.grows_footer j).run w)

/-- **A move** tells of the mishaps of the instance that it puts -/
theorem Move.tells_run (j : Job) (m : Move) (w : Work) : Work.Tells w ((m.run j).run.run w).2 (m.mishaps j w) := by
  cases m with
  | note n => exact .of_grows (fun _ => False.elim) ((Painting.grows_note n).run w)
  | stop f => exact .refl w
  | put p =>
    have hvisits := Mishap.tells_forM (fun v : Component × Spot => Paint.place j v.1 v.2)
      (fun v w => (Paint.mishap? j v.1 v.2 w).toList) (fun v w => Paint.tells_place j v.1 v.2 w) p.visits w
    exact hvisits
  | turn =>
    have hpage : ∀ v, Work.Tells v ((addPage).run.run v).2 [] := fun v =>
      ⟨(List.append_nil _).symm, (List.append_nil _).symm⟩
    exact Effect.bind_rel (R := fun a b => Work.Tells a b []) (fun h k => h.trans k) (.footer j w) fun _ => hpage

/-- **A layout** tells of its mishaps, of each once, of nothing else, and in the order in which they happen, by issues;
by placeholders of those of images and tables, each where its component was to be painted and on the page of its issue.
So it is whether or not the layout comes to its end. -/
theorem layOut_tells (j : Job) (root : Value) (w : Work) :
    let after := ((Flow.layOut j root).run.run (Flow.start j w)).2.work
    after.issues = w.issues ++ (j.mishaps root w).map Mishap.issue ∧
      after.placeholders =
        w.placeholders ++ ((j.mishaps root w).filter Mishap.isStoodFor).map Mishap.placeholder := by
  have hmoves := Mishap.tells_forM _ _ (Move.tells_run j) (j.script w.canvas root).moves w
  have hall : Work.Tells w ((Move.runDocument j (j.script w.canvas root).moves).run.run w).2 (j.mishaps root w) := by
    unfold Move.runDocument Move.runAll
    rw [Effect.run_bind]
    rcases hrun : ((j.script w.canvas root).moves.forM (Move.run j)).run.run w with ⟨f | u, v⟩
    · rw [hrun] at hmoves
      exact hmoves
    · rw [hrun] at hmoves
      have hboth := hmoves.trans (.footer j v)
      rw [List.append_nil] at hboth
      exact hboth
  rcases hrun : (Move.runDocument j (j.script w.canvas root).moves).run.run w with ⟨r, v⟩
  obtain ⟨g, hlayOut, hwork, -⟩ := layOut_run hrun
  rw [hrun] at hall
  dsimp only
  rw [hlayOut, hwork]
  exact ⟨hall.issues, hall.placeholders⟩

namespace Mishap.Sample

/-- a frame whose width is no number, a picture that nobody has, and a rule -/
def body : Section :=
  { id := "body", name := "Body", kind := .content, position := ⟨10.0, 20.0⟩, dimensions := ⟨100.0, 90.0⟩
    components :=
      [{ id := "frame", kind := .rectangle, style := [("borderColor", .string "#000"), ("borderWidth", .string "wide")] },
        { id := "photo", kind := .image, content := .string "photo.png" }, { id := "rule", kind := .line }] }

def job : Job :=
  { template := { id := "body", displayName := "Body", config := {}, sections := [body] }, settings := {}
    assets := { fetchers := { web := fun _ => .silence } } }

def page : Work := { canvas := { width := 210.0, height := 297.0, pages := 1 } }

/-- two mishaps, and a placeholder for the second -/
example :
    let after := ((Flow.layOut job .null).run.run (Flow.start job page)).2.work
    after.issues.map (fun i => (i.component, i.page)) = [("frame", 1), ("photo", 1)] ∧
      after.trace.map (fun p => (p.component, p.mark)) =
        [("photo", .placeholder), ("rule", .line), ("footer", .footer)] := by
  decide +kernel

end Mishap.Sample

end ReportPress
