import ReportPress.Flow.Plan
import ReportPress.Proofs.Flow.Instances
/-!
Where flowing instances come to stand. Of a layout only the outlines of its repeated sections matter for that: where a
section is declared, how high its instances are, and how many of them there are. The cursor takes the outlines one after
the other as runs; sections that do not repeat, sections without an instance, and all that is painted leave it alone.

- `Outline.stand`: the sites of the instances that outlines stand for, and the cursor after them.
- `script_sites`: the script of one section; a step lemma over the events of its expansion.
- `scripts_sites`: the scripts of several sections, by induction on the sections.
- `layOut_sites`: a whole layout, its sites and its page count.
-/

namespace ReportPress

/-- what the instances of a repeated section take up: where it is declared, how high each is, and how many there are -/
structure Outline where
  position : Point
  height : Float
  count : ℕ

namespace Outline

/-- the lengths of an outline -/
def run (o : Outline) : Run Float := ⟨o.position.y, o.height, o.count⟩

/-- the site of an instance in a slot: its page and its upper left corner -/
def site (x : Float) (slot : Slot Float) : ℕ × Point := (slot.page, ⟨x, slot.y⟩)

/-- the sites of the instances of several outlines, and the cursor after them -/
def stand (room : Frame Float) : List Outline → Cursor Float → List (ℕ × Point) × Cursor Float
  | [], c => ([], c)
  | o :: rest, c =>
    let here := o.run.place room c
    let others := stand room rest here.2
    (here.1.map (site o.position.x) ++ others.1, others.2)

end Outline

namespace Section

/-- what the instances of a section take up for a record -/
def outline (s : Section) (root : Value) : Outline := ⟨s.position, s.dimensions.height, (s.instances root).length⟩

/-- the outlines of the sections that repeat and have an instance, in the order of the sections -/
def outlines (root : Value) (sections : List Section) : List Outline :=
  ((sections.filter (·.isRepeatable)).map (·.outline root)).filter (·.count ≠ 0)

end Section

/-- where an instance was put -/
def Placement.site (p : Placement) : ℕ × Point := (p.page, p.base)

/-- where the flowing ones among instances were put, in order -/
def flowingSites (ps : List Placement) : List (ℕ × Point) := (ps.filter Placement.isFlowing).map Placement.site

theorem flowingSites_append (ps qs : List Placement) :
    flowingSites (ps ++ qs) = flowingSites ps ++ flowingSites qs := by
  simp [flowingSites]

theorem flowingSites_cons_anchored {p : Placement} (hp : p.isFlowing = false) (ps : List Placement) :
    flowingSites (p :: ps) = flowingSites ps := by
  simp [flowingSites, hp]

theorem flowingSites_cons_flowing {p : Placement} (hp : p.isFlowing = true) (ps : List Placement) :
    flowingSites (p :: ps) = p.site :: flowingSites ps := by
  simp [flowingSites, hp]

/-- how many flowing instances an expansion places -/
def Event.flowing (events : List Event) : ℕ := (events.filterMap Event.instance?).countP fun i => !i.isAnchored

namespace Section

variable {room : Frame Float} {s : Section}

/-- the cursor that the instances to come start from: entering the section is part of its first instance -/
def entered (room : Frame Float) (s : Section) (first : Bool) (n : ℕ) (c : Cursor Float) : Cursor Float :=
  if first = true ∧ n ≠ 0 then c.enter room s.position.y else c

/-- **The script of a section** puts its flowing instances into the slots of a run, and leaves the cursor where the run
does -/
theorem script_sites (first : Bool) (events : List Event) (c : Cursor Float) (h : Event.Runs events) :
    flowingSites (s.script room first events c).placements =
        (Run.slots room s.dimensions.height (Event.flowing events)
          (entered room s first (Event.flowing events) c)).1.map (Outline.site s.position.x) ∧
      (s.script room first events c).cursor =
        (Run.slots room s.dimensions.height (Event.flowing events)
          (entered room s first (Event.flowing events) c)).2 := by
  induction events generalizing first c with
  | nil => simp [script, Event.flowing, Run.slots, entered, flowingSites, Script.placements]
  | cons e rest ih =>
    cases e with
    | stop f => exact absurd List.mem_cons_self (h f)
    | note n => exact ih first c h.tail
    | place i =>
      cases hi : i.isAnchored with
      | true =>
        have hcount : Event.flowing (.place i :: rest) = Event.flowing rest := by
          simp [Event.flowing, Event.instance?, hi]
        obtain ⟨hsites, hcursor⟩ := ih first c h.tail
        rw [hcount, script, if_pos hi]
        refine ⟨?_, hcursor⟩
        rw [← hsites]
        apply flowingSites_cons_anchored
        simp [Placement.isFlowing, hi]
      | false =>
        have hcount : Event.flowing (.place i :: rest) = Event.flowing rest + 1 := by
          simp [Event.flowing, Event.instance?, hi]
        have hhere : entered room s first (Event.flowing rest + 1) c =
            if first then c.enter room s.position.y else c := by
          simp [entered]
        obtain ⟨hsites, hcursor⟩ := ih false (s.flowScript room i first c).cursor h.tail
        have hlater : ∀ d : Cursor Float, entered room s false (Event.flowing rest) d = d := by
          intro d
          simp [entered]
        rw [hlater] at hsites hcursor
        have hsite : flowingSites (s.flowScript room i first c).placements =
            [Outline.site s.position.x ⟨((if first then c.enter room s.position.y else c).ready room).page,
              ((if first then c.enter room s.position.y else c).ready room).y⟩] := by
          rw [flowScript_placements, flowingSites_cons_flowing (by simp [Placement.isFlowing, hi])]
          rfl
        rw [hcount, hhere, script, if_neg (by simp [hi])]
        refine ⟨?_, hcursor⟩
        rw [Script.placements_prepend, flowingSites_append, hsite, hsites]
        rfl

/-- a section that does not repeat flows nothing, one that repeats all its instances -/
theorem flowing_expand (root : Value) (h : Event.Runs (s.expand root)) :
    Event.flowing (s.expand root) = if s.isRepeatable then (s.instances root).length else 0 := by
  rw [Event.flowing, expand_instances s root h]
  cases hrep : s.isRepeatable with
  | true =>
    rw [if_pos rfl, List.countP_eq_length]
    intro i hi
    rw [instances, if_pos hrep, List.mem_filterMap] at hi
    obtain ⟨⟨item, n⟩, -, hsome⟩ := hi
    have hplace : i = ⟨item, some n⟩ := by
      by_cases hadmits : s.admits item (some root) = true
      · simpa [hadmits] using hsome.symm
      · simp [hadmits] at hsome
    rw [hplace]
    rfl
  | false =>
    rw [if_neg Bool.false_ne_true, List.countP_eq_zero]
    intro i hi
    rw [instances, hrep, if_neg Bool.false_ne_true] at hi
    split at hi
    · rw [List.mem_singleton.1 hi]; simp [Instance.isAnchored]
    · cases hi

/-- a section whose outline counts goes first among the outlines -/
theorem outlines_cons (root : Value) (s : Section) (rest : List Section) :
    outlines root (s :: rest) =
      if s.isRepeatable = true ∧ (s.instances root).length ≠ 0 then s.outline root :: outlines root rest
      else outlines root rest := by
  by_cases hrep : s.isRepeatable = true
  · by_cases hcount : (s.instances root).length = 0
    · simp [outlines, hrep, outline, hcount]
    · simp [outlines, hrep, outline, hcount]
  · simp [outlines, hrep]

end Section

/-- **The scripts of several sections** put their flowing instances where the outlines stand -/
theorem scripts_sites {room : Frame Float} {root : Value} {sections : List Section} {c : Cursor Float}
    (h : Move.Runs (Section.scripts room root sections c).moves) :
    flowingSites (Section.scripts room root sections c).placements =
        (Outline.stand room (Section.outlines root sections) c).1 ∧
      (Section.scripts room root sections c).cursor =
        (Outline.stand room (Section.outlines root sections) c).2 := by
  induction sections generalizing c with
  | nil => exact ⟨rfl, rfl⟩
  | cons s rest ih =>
    have hhere : Event.Runs (s.expand root) :=
      Section.runs_of_script fun f hf => h f (List.mem_append_left (Section.scripts room root rest _).moves hf)
    obtain ⟨hsites, hcursor⟩ := @Section.script_sites room s true (s.expand root) c hhere
    obtain ⟨hothers, hlast⟩ := ih h.of_append
    rw [Section.flowing_expand root hhere] at hsites hcursor
    rw [Section.scripts, Script.placements_prepend, flowingSites_append, hsites, hothers]
    show _ ∧ (Section.scripts room root rest _).cursor = _
    rw [hlast, hcursor, Section.outlines_cons]
    by_cases hcounts : s.isRepeatable = true ∧ (s.instances root).length ≠ 0
    · have hentered : Section.entered room s true (s.instances root).length c = c.enter room s.position.y := by
        simp [Section.entered, hcounts.2]
      have hplace : (s.outline root).run.place room c =
          Run.slots room s.dimensions.height (s.instances root).length (c.enter room s.position.y) := by
        simp [Run.place, Outline.run, Section.outline, hcounts.2]
      rw [if_pos hcounts.1, if_pos hcounts, hentered, Outline.stand, hplace]
      exact ⟨rfl, rfl⟩
    · -- nothing flows, so the cursor stays where it is
      have hnone : (if s.isRepeatable then (s.instances root).length else 0) = 0 := by
        by_cases hrep : s.isRepeatable = true
        · rw [if_pos hrep]
          exact Classical.not_not.1 fun hlen => hcounts ⟨hrep, hlen⟩
        · rw [if_neg hrep]
      rw [hnone, if_neg hcounts]
      exact ⟨rfl, rfl⟩

/-- **A whole layout** puts its flowing instances where the outlines of its sections stand, and ends on the page on
which they end -/
theorem layOut_sites {j : Job} {root : Value} {w : Work} {f : Flow}
    (h : (Flow.layOut j root).run.run (Flow.start j w) = (.ok (), f)) :
    let stood := Outline.stand (Flow.frame j w.canvas) (Section.outlines root j.template.sortedSections)
      ⟨w.canvas.pages, j.template.config.margins.top, false⟩
    flowingSites f.placements = stood.1 ∧ f.work.canvas.pages = stood.2.page := by
  obtain ⟨v, hmoves, -, hcursor, hput, hpage⟩ := layOut_done h
  obtain ⟨hsites, hlast⟩ := scripts_sites (Move.runs_of_run hmoves)
  refine ⟨?_, ?_⟩
  · rw [hput]
    exact hsites
  · rw [← hpage, hcursor]
    exact congrArg Cursor.page hlast

end ReportPress
