import ReportPress.Proofs.Flow.Script
import ReportPress.Proofs.Number.Order
import ReportPress.Proofs.Order.Stable
import ReportPress.Proofs.Record.Conditions
/-!
Which instances a layout paints. `Section.instances` says it without cursor and pages: one instance of a section that
does not repeat, if its conditions hold on the record; of a section that repeats, one for each item of its list on which
they hold, in the order of the list. A layout that comes to its end has put just these, section by section from the top
down, and has painted their components once each; page breaks neither lose, double nor reorder them.

- `expand_instances`: the expansion of a section that does not fail places its instances.
- `script_placements`: the script of a section puts what the expansion places.
- `Work.Advances`: pages along the trace never go back; a step lemma for moves, a run lemma for scripts.
- `layOut_instances`: the whole layout.
-/

namespace ReportPress

namespace Section

/-- all conditions of the section are decided and hold -/
def admits (s : Section) (scope : Value) (behind : Option Value) : Bool :=
  s.conditions.all (·.passes scope behind)

/-- what an anchored instance sees: the object that the section is bound to, else the record -/
def anchorScope (s : Section) (root : Value) : Value :=
  match s.boundScope root with
  | .ok v => v
  | .error _ => root

/-- the list that a section repeats over -/
def boundItems (s : Section) (root : Value) : List Value :=
  match Record.resolve root s.dataBinding with
  | .ok (some (.list _ items)) => items
  | _ => []

/-- the instances of a section for a record -/
def instances (s : Section) (root : Value) : List Instance :=
  if s.isRepeatable then
    (s.boundItems root).zipIdx.filterMap fun (item, i) =>
      if s.admits item (some root) then some ⟨item, some i⟩ else none
  else if s.admits root none then [⟨s.anchorScope root, none⟩]
  else []

end Section

/-- the expansion comes to its end -/
def Event.Runs (events : List Event) : Prop := ∀ f, Event.stop f ∉ events

theorem Event.Runs.tail {e : Event} {events : List Event} (h : Event.Runs (e :: events)) : Event.Runs events :=
  fun f hf => h f (List.mem_cons_of_mem e hf)

theorem Event.Runs.cons {e : Event} {events : List Event} (he : ∀ f, e ≠ .stop f) (h : Event.Runs events) :
    Event.Runs (e :: events) := fun f hf => (List.mem_cons.1 hf).elim (fun hef => he f hef.symm) (h f)

theorem Event.Runs.of_append {xs ys : List Event} (h : Event.Runs (xs ++ ys)) : Event.Runs ys :=
  fun f hf => h f (List.mem_append_right xs hf)

theorem filterMap_instance?_notes (notes : List Note) (events : List Event) :
    (notes.map Event.note ++ events).filterMap Event.instance? = events.filterMap Event.instance? := by
  rw [List.filterMap_append]
  induction notes with
  | nil => rfl
  | cons n rest ih => exact ih

namespace Section

theorem admits_of_outcome {s : Section} {scope : Value} {behind : Option Value} {b : Bool}
    (h : (Condition.allHold scope behind s.conditions).outcome.1 = .ok b) : s.admits scope behind = b := by
  have hall := Condition.allHold_eq_true scope behind s.conditions
  rw [h] at hall
  cases b with
  | true => exact hall.1 rfl
  | false => exact Bool.eq_false_iff.2 fun hs => absurd (hall.2 hs) nofun

theorem expandItems_instances (s : Section) (root : Value) (i : ℕ) (items : List Value)
    (h : Event.Runs (s.expandItems root i items)) :
    (s.expandItems root i items).filterMap Event.instance? = (items.zipIdx i).filterMap fun (item, i) =>
      if s.admits item (some root) then some ⟨item, some i⟩ else none := by
  induction items generalizing i with
  | nil => rfl
  | cons item rest ih =>
    unfold expandItems at h ⊢
    dsimp only at h ⊢
    rw [filterMap_instance?_notes, List.zipIdx_cons, List.filterMap_cons]
    have hrest := h.of_append
    split at hrest
    · exact absurd List.mem_cons_self (hrest _)
    · next hout =>
      rw [admits_of_outcome hout]
      exact ih (i + 1) hrest
    · next hout =>
      rw [admits_of_outcome hout]
      exact congrArg (_ :: ·) (ih (i + 1) hrest.tail)

/-- **The expansion** of a section, if it comes to its end, places the section's instances in order -/
theorem expand_instances (s : Section) (root : Value) (h : Event.Runs (s.expand root)) :
    (s.expand root).filterMap Event.instance? = s.instances root := by
  unfold instances boundItems
  unfold expand at h ⊢
  cases hrep : s.isRepeatable with
  | true =>
    simp only [hrep, Bool.not_true, Bool.false_eq_true, if_false, if_true] at h ⊢
    generalize Record.resolve root s.dataBinding = found at h ⊢
    rcases found with f | _ | v
    · exact absurd List.mem_cons_self (h f)
    · rfl
    · cases v with
      | list owner items => exact expandItems_instances s root 0 items h
      | _ => rfl
  | false =>
    rw [hrep] at h
    change Event.Runs (s.expandOnce root) at h
    show (s.expandOnce root).filterMap _ =
      if s.admits root none then ([⟨s.anchorScope root, none⟩] : List Instance) else []
    unfold expandOnce at h ⊢
    dsimp only at h ⊢
    rw [filterMap_instance?_notes]
    have hrest := h.of_append
    split at hrest
    · exact absurd List.mem_cons_self (hrest _)
    · next hout => rw [admits_of_outcome hout]; rfl
    · next hout =>
      rw [admits_of_outcome hout, anchorScope]
      split at hrest
      · exact absurd List.mem_cons_self (hrest _)
      · next hscope => rw [hscope]; rfl

end Section

/-! ## From expansions to scripts -/

/-- the moves come to their end -/
def Move.Runs (moves : List Move) : Prop := ∀ f, Move.stop f ∉ moves

theorem Move.Runs.tail {m : Move} {moves : List Move} (h : Move.Runs (m :: moves)) : Move.Runs moves :=
  fun f hf => h f (List.mem_cons_of_mem m hf)

theorem Move.Runs.of_append {ms ns : List Move} (h : Move.Runs (ms ++ ns)) : Move.Runs ns :=
  fun f hf => h f (List.mem_append_right ms hf)

/-- an instance that was put, and the section that it is of -/
def Placement.origin (p : Placement) : Section × Instance := (p.part, p.content)

namespace Section

variable {room : Frame Float} {s : Section}

theorem opening_placements (c : Cursor Float) : c.opening.filterMap Move.placement? = [] := by
  unfold Cursor.opening
  split <;> rfl

/-- of the moves for a flowing instance one puts it, where the cursor is once it is ready -/
theorem flowScript_placements (room : Frame Float) (s : Section) (i : Instance) (first : Bool) (c : Cursor Float) :
    (s.flowScript room i first c).placements =
      [⟨s, i, ((if first then c.enter room s.position.y else c).ready room).page,
        ⟨s.position.x, ((if first then c.enter room s.position.y else c).ready room).y⟩⟩] := by
  unfold flowScript Script.placements
  rw [List.filterMap_append, opening_placements]
  rfl

/-- a script comes to its end only if the expansion does -/
theorem runs_of_script {first : Bool} {events : List Event} {c : Cursor Float}
    (h : Move.Runs (s.script room first events c).moves) : Event.Runs events := by
  induction events generalizing first c with
  | nil => exact fun f => List.not_mem_nil
  | cons e rest ih =>
    cases e with
    | stop f => exact absurd List.mem_cons_self (h f)
    | note n => exact .cons (fun f => Event.noConfusion) (ih h.tail)
    | place i =>
      unfold script at h
      split at h
      · exact .cons (fun f => Event.noConfusion) (ih h.tail)
      · exact .cons (fun f => Event.noConfusion) (ih h.of_append)

/-- **The script** of a section puts the instances that the expansion places, in their order -/
theorem script_placements (room : Frame Float) (first : Bool) (events : List Event) (c : Cursor Float)
    (h : Event.Runs events) : (s.script room first events c).placements.map Placement.origin =
      (events.filterMap Event.instance?).map (s, ·) := by
  induction events generalizing first c with
  | nil => rfl
  | cons e rest ih =>
    cases e with
    | stop f => exact absurd List.mem_cons_self (h f)
    | note n => exact ih first c h.tail
    | place i =>
      unfold script
      split
      · exact congrArg ((s, i) :: ·) (ih first c h.tail)
      · have hput : (s.flowScript room i first c).placements.map Placement.origin = [(s, i)] := by
          rw [flowScript_placements]
          rfl
        unfold Script.placements Script.prepend
        rw [List.filterMap_append, List.map_append]
        exact congrArg₂ (· ++ ·) hput (ih false _ h.tail)

end Section

/-- the scripts of several sections put their instances, section by section -/
theorem scripts_placements {room : Frame Float} {root : Value} {sections : List Section} {c : Cursor Float}
    (h : Move.Runs (Section.scripts room root sections c).moves) :
    (Section.scripts room root sections c).placements.map Placement.origin =
      sections.flatMap fun s => (s.instances root).map (s, ·) := by
  induction sections generalizing c with
  | nil => rfl
  | cons s rest ih =>
    have hhere : Event.Runs (s.expand root) :=
      Section.runs_of_script fun f hf => h f (List.mem_append_left (Section.scripts room root rest _).moves hf)
    rw [List.flatMap_cons, ← Section.expand_instances s root hhere, ← Section.script_placements room true _ c hhere,
      ← ih h.of_append]
    show List.map _ (List.filterMap _ (_ ++ _)) = _
    rw [List.filterMap_append, List.map_append]
    rfl

/-! ## Pages along the trace -/

/-- `after` has got on from `before`: what was added to the trace is on pages from the one at hand then to the one at
hand now, none ahead of one before it -/
structure Work.Advances (before after : Work) : Prop where
  pages : before.canvas.pages ≤ after.canvas.pages
  trace : ∃ added, after.trace = before.trace ++ added ∧ (added.map Painted.page).Pairwise (· ≤ ·) ∧
    ∀ p ∈ added, before.canvas.pages ≤ p.page ∧ p.page ≤ after.canvas.pages

namespace Work.Advances

variable {u v w : Work}

theorem refl (w : Work) : Work.Advances w w :=
  ⟨le_refl _, [], (List.append_nil _).symm, List.Pairwise.nil, nofun⟩

theorem trans (h : Work.Advances u v) (k : Work.Advances v w) : Work.Advances u w := by
  obtain ⟨a, ha, hasc, hpa⟩ := h.trace
  obtain ⟨b, hb, hasc', hpb⟩ := k.trace
  refine ⟨h.pages.trans k.pages, a ++ b, by rw [hb, ha, List.append_assoc], ?_, fun p hp => ?_⟩
  · rw [List.map_append, List.pairwise_append]
    refine ⟨hasc, hasc', fun m hm n hn => ?_⟩
    obtain ⟨p, hp, rfl⟩ := List.mem_map.1 hm
    obtain ⟨q, hq, rfl⟩ := List.mem_map.1 hn
    exact (hpa p hp).2.trans (hpb q hq).1
  · rcases List.mem_append.1 hp with hp | hp
    · exact ⟨(hpa p hp).1, (hpa p hp).2.trans k.pages⟩
    · exact ⟨h.pages.trans (hpb p hp).1, (hpb p hp).2⟩

/-- what grows on one page gets on -/
theorem of_grows {P : Painted → Prop} {Q : Issue → Prop} (h : Work.Grows P Q u v) : Work.Advances u v := by
  obtain ⟨a, ha, hpa⟩ := h.trace
  refine ⟨h.canvas.pages.ge, a, ha, ?_, fun p hp => ?_⟩
  · rw [List.pairwise_map]
    exact List.pairwise_of_forall_mem_list fun p hp q hq => ((hpa p hp).1.trans (hpa q hq).1.symm).le
  · rw [(hpa p hp).1, h.canvas.pages]
    exact ⟨le_refl _, le_refl _⟩

end Work.Advances

/-- carrying out one move gets on -/
theorem Move.run_advances (j : Job) (m : Move) (w : Work) : Work.Advances w ((m.run j).run.run w).2 := by
  cases m with
  | note n => exact .of_grows ((Painting.grows_note (P := fun _ => True) (Q := fun _ => True) n).run w)
  | stop f => exact .refl w
  | put p => exact .of_grows ((Move.grows_put j p).run w)
  | turn =>
    refine Effect.bind_rel .trans (.of_grows ((Paint.grows_footer j).run w)) fun _ v => ?_
    exact ⟨Nat.le_succ _, [], (List.append_nil _).symm, List.Pairwise.nil, nofun⟩

/-- carrying out moves one after the other gets on -/
theorem Move.runAll_advances (j : Job) (moves : List Move) (w : Work) :
    Work.Advances w ((runAll j moves).run.run w).2 := by
  induction moves generalizing w with
  | nil => exact .refl w
  | cons m rest ih => exact Effect.bind_rel .trans (m.run_advances j w) fun _ => ih

/-- moves that are all carried out come to their end -/
theorem Move.runs_of_run {j : Job} {moves : List Move} {v w : Work} {u : Unit}
    (h : (runAll j moves).run.run v = (.ok u, w)) : Move.Runs moves := by
  induction moves generalizing v with
  | nil => exact fun f => List.not_mem_nil
  | cons m rest ih =>
    obtain ⟨a, t, hm, hrest⟩ := Effect.run_bind_eq_ok h
    intro f hf
    rcases List.mem_cons.1 hf with rfl | hf
    · cases hm
    · exact ih hrest f hf

/-! ## The whole layout -/

/-- a section stands above another -/
def Section.above (s t : Section) : Bool := s.position.y < t.position.y

/-- sections at heights that are numbers are ordered by them -/
theorem above_isWeak : Order.IsWeakOn Section.above fun s => s.position.y.isNaN = false := by
  refine ⟨fun s t hs ht h => ?_, fun s t u hs ht hu hst htu => ?_⟩
  · exact decide_eq_false (Binary64.lt_asymm hs ht (of_decide_eq_true h))
  · exact decide_eq_false (Binary64.not_lt_trans hs ht hu (of_decide_eq_false hst) (of_decide_eq_false htu))

theorem above_isWeakOn (sections : List Section) (hy : ∀ s ∈ sections, s.position.y.isNaN = false) :
    Order.IsWeakOn Section.above (· ∈ sections) := above_isWeak.mono hy

/-- **The instances of a layout.** A layout that comes to its end has put the instances of the sections, section by
section from the top of the page down and those of one height in the order they are declared, and no others. Its
document is what comes of carrying out moves that put these instances in this order, each painting its components once
and in order; and the pages along the trace never go back. -/
theorem layOut_instances (j : Job) (root : Value) (w : Work) (f : Flow)
    (hy : ∀ s ∈ j.template.sections, s.position.y.isNaN = false)
    (h : (Flow.layOut j root).run.run (Flow.start j w) = (.ok (), f)) :
    Order.Sorted Section.above (· ∈ j.template.sections) j.template.sections j.template.sortedSections ∧
      f.placements.map Placement.origin =
        j.template.sortedSections.flatMap (fun s => (s.instances root).map (s, ·)) ∧
      (∃ moves : List Move, moves.filterMap Move.placement? = f.placements ∧
        (Move.runDocument j moves).run.run w = (.ok (), f.work)) ∧
      ∃ added, f.work.trace = w.trace ++ added ∧ (w.canvas.pages :: added.map Painted.page).Pairwise (· ≤ ·) := by
  rcases hrun : (Move.runDocument j (j.script w.canvas root).moves).run.run w with ⟨r, v⟩
  obtain ⟨g, hg, hwork, hdone⟩ := layOut_run hrun
  rw [h, Prod.mk.injEq] at hg
  obtain ⟨rfl, rfl⟩ := hg
  obtain ⟨-, hput⟩ := hdone rfl
  obtain ⟨u, t, hmoves, -⟩ := Effect.run_bind_eq_ok hrun
  refine ⟨Order.sort_sorted (above_isWeakOn _ hy) _ fun _ => id, ?_, ⟨_, hput.symm, by rw [hrun, hwork]⟩, ?_⟩
  · rw [hput]
    exact scripts_placements (Move.runs_of_run hmoves)
  · have hadv : Work.Advances w ((Move.runDocument j (j.script w.canvas root).moves).run.run w).2 :=
      Effect.bind_rel .trans (Move.runAll_advances j _ w) fun _ t => .of_grows ((Paint.grows_footer j).run t)
    rw [hrun] at hadv
    obtain ⟨added, htrace, hasc, hpages⟩ := hadv.trace
    refine ⟨added, by rw [hwork, htrace], List.pairwise_cons.2 ⟨fun n hn => ?_, hasc⟩⟩
    obtain ⟨p, hp, rfl⟩ := List.mem_map.1 hn
    exact (hpages p hp).1

namespace Sample

/-- rows that repeat, each a framed box as high as a third of the page, but for those that are hidden -/
def rows : Section :=
  { id := "rows", name := "Rows", kind := .content, position := ⟨10.0, 60.0⟩, dimensions := ⟨100.0, 90.0⟩
    components :=
      [{ id := "box", kind := .rectangle, style := [("borderColor", .string "#000"), ("borderWidth", .int 1)] }]
    dataBinding := "rows", isRepeatable := true, conditions := [⟨"hide", .absent, .null⟩] }

/-- a heading above the rows, declared after them -/
def heading : Section :=
  { id := "heading", name := "Heading", kind := .header, position := ⟨10.0, 20.0⟩, dimensions := ⟨100.0, 10.0⟩
    components := [{ id := "rule", kind := .line }] }

def job : Job :=
  { template := { id := "list", displayName := "List", config := {}, sections := [rows, heading] }
    settings := { footer := { enabled := false } }, assets := { fetchers := { web := fun _ => .silence } } }

def page : Work := { canvas := { width := 210.0, height := 297.0, pages := 1 } }

/-- four rows, the second of them hidden -/
def root : Value :=
  .object .record [("rows", .list .record [.object .record [], .object .record [("hide", .bool true)],
    .object .record [], .object .record []])]

def laid : Except Failure Unit × Flow := (Flow.layOut job root).run.run (Flow.start job page)

theorem laid_done : (Flow.layOut job root).run.run (Flow.start job page) = (.ok (), laid.2) :=
  Effect.eq_done (by decide +kernel)

end Sample

/-- the heading first, then the rows that are not hidden with their places in the list, the last one on a new page -/
theorem layOut_instances_sample :
    Sample.laid.2.placements.map Placement.origin =
        Sample.job.template.sortedSections.flatMap (fun s => (s.instances Sample.root).map (s, ·)) ∧
      Sample.laid.2.placements.map (fun p => (p.part.id, p.content.index, p.page)) =
        [("heading", none, 1), ("rows", some 0, 1), ("rows", some 2, 1), ("rows", some 3, 2)] ∧
      Sample.laid.2.work.trace.map (fun p => (p.component, p.page)) =
        [("rule", 1), ("box", 1), ("box", 1), ("box", 2)] := by
  refine ⟨?_, by decide +kernel, by decide +kernel⟩
  exact (layOut_instances Sample.job Sample.root Sample.page Sample.laid.2 (by decide +kernel)
    (Effect.eq_done (by decide +kernel))).2.1

end ReportPress
