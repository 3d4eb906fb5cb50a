import ReportPress.Proofs.Flow.Overrun
import ReportPress.Proofs.Number.Sum
/-!
That instances do not overlap. An instance that flows leaves the cursor where it ends, one gap further down; from there
the cursor goes down only, until the page is turned. So whatever flows later on the page starts where every earlier
instance ends or below, however many sections and page breaks there are in between. Where an instance ends is a sum of
doubles: by value it is the exact sum, rounded twice.

- `Placement.ending`: where an instance ends, and the gap. `Placement.Clears`: an instance starts where another ends,
  or below. `Placement.ClearsRounded`: the same by value.
- `Spaced`: the cursor is below what was put on its page, and no two instances overlap. It is kept by a flowing instance
  (`Spaced.flow`), by a section (`Spaced.script`) and by all of them (`Spaced.scripts`).
- `Section.script_first_start`: the first instance of a section starts where the section is declared, or below, if it is
  on the first page.
- `Flow.Spread`: all of this for a document. `layOut_apart`: a whole layout, and rows that are so far down that the
  roundings are to be seen.
-/

namespace ReportPress

open Binary64

/-! ## Down the page -/

namespace Cursor

variable {room : Frame Float} {c : Cursor Float} {bound : Float}

/-- the larger of two lengths is not below what the first is not below -/
theorem not_larger_lt {x y : Float} (h : ¬ x < bound) : ¬ Length.larger x y < bound := by
  unfold Length.larger
  split
  · next hbelow =>
    have hlt : x < y := of_decide_eq_true hbelow
    refine not_lt_chain (fun hx => absurd hlt (not_nan_lt hx y)) h (not_lt_of_lt hlt)
  · exact h

/-- the larger of two lengths is not below the second -/
theorem not_larger_lt_right (x y : Float) : ¬ Length.larger x y < y := by
  unfold Length.larger
  split
  · exact not_lt_self y
  · next hbelow => exact of_decide_eq_false (Bool.eq_false_iff.2 hbelow)

/-- entering a section does not lead up -/
theorem enter_not_lt (declared : Float) (h : ¬ c.y < bound) : ¬ (c.enter room declared).y < bound := by
  unfold enter
  split
  · rw [check_y]
    exact not_larger_lt h
  · exact h

/-- entering a section and getting ready for it, on the first page: not above the height where it is declared -/
theorem ready_enter_y {α : Type} [Length α] {room : Frame α} {c : Cursor α} {declared : α} (hbegun : firstPage ≤ c.page)
    (hpage : ((c.enter room declared).ready room).page = firstPage) :
    ((c.enter room declared).ready room).y = Length.larger c.y declared := by
  have hready : (c.enter room declared).waiting = false := by
    by_contra hwaiting
    rw [ready, if_pos (eq_true_of_ne_false hwaiting), turn, enter_page] at hpage
    exact absurd hpage (Nat.ne_of_gt (Nat.lt_succ_of_le hbegun))
  rw [ready, hready, if_neg Bool.false_ne_true] at hpage ⊢
  rw [enter_page] at hpage
  unfold enter at hready ⊢
  split
  · exact check_y ..
  · next hno =>
    -- the cursor does not wait and is on the first page
    rw [if_neg hno] at hready
    rw [hready, hpage] at hno
    exact absurd rfl hno

/-- an instance that is not of negative height does not lead up -/
theorem advance_not_lt {height : Float} (hheight : ¬ height < 0.0) (hgap : ¬ room.gap < 0.0) (h : ¬ c.y < bound) :
    ¬ (c.advance room height).y < bound := by
  unfold advance
  rw [check_y]
  exact not_add_lt_of h (not_add_lt_of hheight hgap)

end Cursor

/-! ## Instances one below the other -/

namespace Placement

/-- where an instance ends, and the gap behind it -/
def ending (gap : Float) (p : Placement) : Float := p.base.y + (p.part.dimensions.height + gap)

/-- of two flowing instances on one page, the second does not start above the end of the first -/
def Clears (gap : Float) (p q : Placement) : Prop :=
  p.isFlowing = true → q.isFlowing = true → q.page = p.page → ¬ q.base.y < p.ending gap

/-- by value, the second starts at the exact sum of place, height and gap of the first, rounded twice, or below -/
def ClearsRounded (gap : Float) (p q : Placement) : Prop :=
  p.isFlowing = true → q.isFlowing = true → q.page = p.page → ∀ y height space y' : ℚ,
    toRat? p.base.y = some y → toRat? p.part.dimensions.height = some height → toRat? gap = some space →
      toRat? q.base.y = some y' →
        ∃ step place, Rounds (height + space) step ∧ Rounds (y + step) place ∧ place ≤ y'

/-- what is clear is so by value, too -/
theorem Clears.rounded {gap : Float} {p q : Placement} (h : Clears gap p q) (hheight : ¬ p.part.dimensions.height < 0.0)
    (hgap : ¬ gap < 0.0) : ClearsRounded gap p q := by
  intro hpflow hqflow hsame y height space y' hy hh hg hy'
  exact toRat?_add_add hy hh hg hy' hheight hgap (h hpflow hqflow hsame)

end Placement

/-- the cursor, and the instances put so far, where none overlaps another: the cursor is past all those on its page -/
structure Spaced (room : Frame Float) (c : Cursor Float) (ps : List Placement) : Prop where
  behind : ∀ p ∈ ps, p.page ≤ c.page
  past : ∀ p ∈ ps, p.isFlowing = true → p.page = c.page → ¬ c.y < p.ending room.gap
  apart : ps.Pairwise (Placement.Clears room.gap)

namespace Spaced

variable {room : Frame Float} {c d : Cursor Float} {ps : List Placement} {s : Section}

/-- nothing has been put -/
theorem nil : Spaced room c [] :=
  ⟨fun _ hp => absurd hp List.not_mem_nil, fun _ hp => absurd hp List.not_mem_nil, .nil⟩

/-- the cursor moves down on its page -/
theorem move (h : Spaced room c ps) (hpage : d.page = c.page)
    (hdown : ∀ bound : Float, ¬ c.y < bound → ¬ d.y < bound) : Spaced room d ps := by
  refine ⟨fun p hp => ?_, fun p hp hflow hsame => ?_, h.apart⟩
  · rw [hpage]
    exact h.behind p hp
  · exact hdown _ (h.past p hp hflow (hsame.trans hpage))

/-- on a new page there is nothing to be past -/
theorem ready (h : Spaced room c ps) : Spaced room (c.ready room) ps := by
  unfold Cursor.ready
  split
  · have hnew : ∀ p ∈ ps, p.page < c.page + 1 := fun p hp => Nat.lt_succ_of_le (h.behind p hp)
    refine ⟨fun p hp => (hnew p hp).le, fun p hp _ hsame => ?_, h.apart⟩
    exact absurd hsame (hnew p hp).ne
  · exact h

/-- one instance more, on the page of the cursor: it is clear of those before it, and the cursor is past it already -/
theorem put (h : Spaced room c ps) {p : Placement} (hpage : p.page = c.page)
    (hclear : p.isFlowing = true → ∀ q ∈ ps, q.isFlowing = true → q.page = c.page → ¬ p.base.y < q.ending room.gap)
    (hpast : p.isFlowing = true → ¬ c.y < p.ending room.gap) : Spaced room c (ps ++ [p]) := by
  refine ⟨fun q hq => ?_, fun q hq hflow hsame => ?_, ?_⟩
  · rcases List.mem_append.1 hq with hq | hq
    · exact h.behind q hq
    · rw [List.mem_singleton.1 hq, hpage]
  · rcases List.mem_append.1 hq with hq | hq
    · exact h.past q hq hflow hsame
    · rw [List.mem_singleton.1 hq] at hflow ⊢
      exact hpast hflow
  · refine List.pairwise_append.2 ⟨h.apart, List.pairwise_singleton _ _, fun q hq r hr => ?_⟩
    rw [List.mem_singleton.1 hr]
    intro hqflow hpflow hsame
    exact hclear hpflow q hq hqflow (hsame.symm.trans hpage)

/-- a flowing instance starts where the cursor is, and moves the cursor past itself -/
theorem flow (h : Spaced room c ps) (hheight : ¬ s.dimensions.height < 0.0) (hgap : ¬ room.gap < 0.0) (i : Instance)
    (first : Bool) :
    Spaced room (s.flowScript room i first c).cursor (ps ++ (s.flowScript room i first c).placements) := by
  set here := if first then c.enter room s.position.y else c with hhere
  have hentered : Spaced room here ps := by
    refine h.move (Section.entering_page room s first c) fun bound hbound => ?_
    cases first with
    | true => exact Cursor.enter_not_lt _ hbound
    | false => exact hbound
  have hready := hentered.ready
  set stand := here.ready room with hstand
  have hput : (s.flowScript room i first c).placements = [⟨s, i, stand.page, ⟨s.position.x, stand.y⟩⟩] :=
    Section.flowScript_placements ..
  have hafter : Spaced room (stand.advance room s.dimensions.height) ps :=
    hready.move (Cursor.advance_page ..) fun bound => Cursor.advance_not_lt hheight hgap
  have hpage : (stand.advance room s.dimensions.height).page = stand.page := Cursor.advance_page ..
  rw [hput]
  refine hafter.put hpage.symm (fun _ q hq hflow hsame => ?_) fun _ => ?_
  · exact hready.past q hq hflow (hsame.trans hpage)
  · -- the cursor moves by the height and the gap, to just where the instance ends
    show ¬ (stand.advance room s.dimensions.height).y < stand.y + (s.dimensions.height + room.gap)
    rw [Cursor.advance, Cursor.check_y]
    exact not_lt_self _

/-- an anchored instance is nobody's concern -/
theorem anchored (h : Spaced room c ps) {i : Instance} (hi : i.isAnchored = true) (base : Point) :
    Spaced room c (ps ++ [⟨s, i, c.page, base⟩]) := by
  have hno : ¬ Placement.isFlowing ⟨s, i, c.page, base⟩ = true := by
    simp [Placement.isFlowing, hi]
  exact h.put rfl (fun hflow => absurd hflow hno) fun hflow => absurd hflow hno

theorem script (hheight : ¬ s.dimensions.height < 0.0) (hgap : ¬ room.gap < 0.0) (first : Bool) (events : List Event)
    (h : Spaced room c ps) :
    Spaced room (s.script room first events c).cursor (ps ++ (s.script room first events c).placements) := by
  induction events generalizing first c ps with
  | nil => exact (List.append_nil ps).symm ▸ h
  | cons e rest ih =>
    cases e with
    | stop f => exact (List.append_nil ps).symm ▸ h
    | note n => exact ih first h
    | place i =>
      unfold Section.script
      split
      · next hi =>
        have hrest := ih first (h.anchored (s := s) hi s.position)
        rwa [List.append_assoc] at hrest
      · have hrest := ih false (h.flow hheight hgap i first)
        rw [List.append_assoc] at hrest
        rw [Script.placements_prepend]
        exact hrest

/-- **No two instances overlap**, of one section or of several -/
theorem scripts (hgap : ¬ room.gap < 0.0) (root : Value) (sections : List Section)
    (hheight : ∀ s ∈ sections, ¬ s.dimensions.height < 0.0) (h : Spaced room c ps) :
    Spaced room (Section.scripts room root sections c).cursor
      (ps ++ (Section.scripts room root sections c).placements) := by
  induction sections generalizing c ps with
  | nil => exact (List.append_nil ps).symm ▸ h
  | cons s rest ih =>
    have hhere := h.script (hheight s List.mem_cons_self) hgap true (s.expand root)
    have hrest := ih (fun t ht => hheight t (List.mem_cons_of_mem s ht)) hhere
    rw [List.append_assoc] at hrest
    rw [Section.scripts, Script.placements_prepend]
    exact hrest

end Spaced

/-! ## The first instance of a section -/

namespace Section

variable {room : Frame Float} {s : Section}

/-- **The first instance that flows** of a section, if it is on the first page, starts where the section is declared or
below -/
theorem script_first_start {events : List Event} {c : Cursor Float} (hbegun : firstPage ≤ c.page)
    {before after : List Placement} {p : Placement}
    (hcut : (s.script room true events c).placements = before ++ p :: after)
    (hbefore : ∀ q ∈ before, q.isFlowing = false) (hflow : p.isFlowing = true) (hpage : p.page = firstPage) :
    ¬ p.base.y < s.position.y := by
  induction events generalizing before with
  | nil => exact absurd hcut.symm (List.append_ne_nil_of_right_ne_nil before (List.cons_ne_nil p after))
  | cons e rest ih =>
    cases e with
    | stop f => exact absurd hcut.symm (List.append_ne_nil_of_right_ne_nil before (List.cons_ne_nil p after))
    | note n => exact ih hcut hbefore
    | place i =>
      unfold script at hcut
      split at hcut
      · next hi =>
        -- an anchored instance is not the one that is looked for
        cases before with
        | nil =>
          obtain ⟨hp, -⟩ := List.cons.inj hcut
          rw [← hp, Placement.isFlowing, hi] at hflow
          cases hflow
        | cons q before => exact ih (List.cons.inj hcut).2 fun r hr => hbefore r (List.mem_cons_of_mem q hr)
      · next hi =>
        rw [Script.placements_prepend, flowScript_placements, if_pos rfl, List.singleton_append] at hcut
        cases before with
        | nil =>
          obtain ⟨hp, -⟩ := List.cons.inj hcut
          rw [← hp] at hpage ⊢
          rw [Cursor.ready_enter_y hbegun hpage]
          exact Cursor.not_larger_lt_right c.y s.position.y
        | cons q before =>
          -- a flowing instance would be before it
          obtain ⟨hq, -⟩ := List.cons.inj hcut
          have hanchored := hbefore q List.mem_cons_self
          simp only [← hq, Placement.isFlowing, Bool.not_eq_false', hi] at hanchored
          exact absurd hanchored Bool.false_ne_true

/-- the instances of a section that repeats flow -/
theorem instances_flow (hrep : s.isRepeatable = true) (root : Value) :
    ∀ i ∈ s.instances root, i.isAnchored = false := by
  intro i hi
  rw [instances, if_pos hrep] at hi
  obtain ⟨⟨item, n⟩, -, hsome⟩ := List.mem_filterMap.1 hi
  dsimp only at hsome
  split at hsome
  · rw [← Option.some.inj hsome]
    rfl
  · cases hsome

theorem scripts_append (root : Value) (above below : List Section) (c : Cursor Float) :
    scripts room root (above ++ below) c =
      (scripts room root below (scripts room root above c).cursor).prepend (scripts room root above c).moves := by
  induction above generalizing c with
  | nil => rfl
  | cons s rest ih =>
    rw [List.cons_append, scripts, ih]
    simp [scripts, Script.prepend, List.append_assoc]

end Section

/-- the instances of sections in the order in which they are put, each with the section that it is of -/
def origins (root : Value) (sections : List Section) : List (Section × Instance) :=
  sections.flatMap fun s => (s.instances root).map (s, ·)

/-- the part that a section has in a script that comes to its end -/
theorem scripts_cut {room : Frame Float} {root : Value} {above below : List Section} {s : Section} {c : Cursor Float}
    (hruns : Move.Runs (Section.scripts room root (above ++ s :: below) c).moves) (hbegun : firstPage ≤ c.page)
    (hrep : s.isRepeatable = true) :
    ∃ earlier here later, (Section.scripts room root (above ++ s :: below) c).placements = earlier ++ here ++ later ∧
      earlier.map Placement.origin = origins root above ∧ here.map Placement.origin = origins root [s] ∧
      later.map Placement.origin = origins root below ∧
      ∀ p, here.head? = some p → p.page = firstPage → ¬ p.base.y < s.position.y := by
  rw [Section.scripts_append] at hruns ⊢
  have habove : Move.Runs (Section.scripts room root above c).moves := fun f hf =>
    hruns f (List.mem_append_left _ hf)
  have hrest := hruns.of_append
  set start := (Section.scripts room root above c).cursor with hstart
  have hhere : Event.Runs (s.expand root) :=
    Section.runs_of_script fun f hf => hrest f (List.mem_append_left (Section.scripts room root below _).moves hf)
  have horigins : (s.script room true (s.expand root) start).placements.map Placement.origin = origins root [s] := by
    rw [Section.script_placements room true _ start hhere, Section.expand_instances s root hhere, origins,
      List.flatMap_singleton]
  have hpage : firstPage ≤ start.page := by
    have hpaged : Paged room.top c.page _ start.page := Section.scripts_paged root above c
    rw [hpaged.pages]
    exact hbegun.trans (Nat.le_add_right _ _)
  refine ⟨_, _, _, ?_, scripts_placements habove, horigins, scripts_placements hrest.of_append, fun p hp hfirst => ?_⟩
  · rw [Script.placements_prepend, Section.scripts, Script.placements_prepend, List.append_assoc]
  · obtain ⟨after, hafter⟩ := List.head?_eq_some_iff.1 hp
    have hcut : (s.script room true (s.expand root) start).placements = [] ++ p :: after := hafter
    refine Section.script_first_start hpage hcut (fun q hq => absurd hq List.not_mem_nil) ?_ hfirst
    have hmem : p.origin ∈ origins root [s] := by
      rw [← horigins, hafter]
      exact List.mem_map_of_mem List.mem_cons_self
    rw [origins, List.flatMap_singleton] at hmem
    obtain ⟨i, hi, horigin⟩ := List.mem_map.1 hmem
    have hcontent : p.content = i := (congrArg Prod.snd horigin).symm
    rw [Placement.isFlowing, hcontent, Section.instances_flow hrep root i hi]
    rfl

/-! ## The whole layout -/

/-- the instances of a document, put for a record from sections in order: no two on one page overlap, and the first
instance of each section that repeats, if it is on the first page, starts where its section is declared or below -/
structure Flow.Spread (f : Flow) (gap : Float) (root : Value) (sections : List Section) : Prop where
  clear : f.placements.Pairwise (Placement.Clears gap)
  rounded : f.placements.Pairwise (Placement.ClearsRounded gap)
  declared : ∀ above s below, sections = above ++ s :: below → s.isRepeatable = true →
    ∃ earlier here later, f.placements = earlier ++ here ++ later ∧
      earlier.map Placement.origin = origins root above ∧ here.map Placement.origin = origins root [s] ∧
      later.map Placement.origin = origins root below ∧
      ∀ p, here.head? = some p → p.page = firstPage → ¬ p.base.y < s.position.y

/-- **Instances do not overlap** in a layout that comes to its end, with sections of no negative height and no negative
gap -/
theorem layOut_apart (j : Job) (root : Value) (w : Work) (f : Flow) (hfirst : w.canvas.pages = firstPage)
    (hheight : ∀ s ∈ j.template.sections, ¬ s.dimensions.height < 0.0) (hgap : ¬ j.settings.layout.repeatGap < 0.0)
    (h : (Flow.layOut j root).run.run (Flow.start j w) = (.ok (), f)) :
    f.Spread j.settings.layout.repeatGap root j.template.sortedSections := by
  obtain ⟨v, hmoves, -, -, hput, -⟩ := layOut_done h
  have hruns := Move.runs_of_run hmoves
  unfold Job.script at hruns hput
  have hsorted : ∀ s ∈ j.template.sortedSections, ¬ s.dimensions.height < 0.0 :=
    fun s hs => hheight s ((Order.sort_perm _ _).mem_iff.1 hs)
  have hclear : f.placements.Pairwise (Placement.Clears j.settings.layout.repeatGap) := by
    have hstart : Spaced (Flow.frame j w.canvas) ⟨w.canvas.pages, j.template.config.margins.top, false⟩ [] := .nil
    have hroom : (Flow.frame j w.canvas).gap = j.settings.layout.repeatGap := rfl
    have hspaced := (hstart.scripts (hroom ▸ hgap) root j.template.sortedSections hsorted).apart
    rwa [List.nil_append, ← hput, hroom] at hspaced
  refine ⟨hclear, ?_, ?_⟩
  · refine List.Pairwise.imp_of_mem (fun {p q} hp _ hpq => hpq.rounded ?_ hgap) hclear
    -- the part of an instance is one of the sections
    have horigin : p.origin ∈ f.placements.map Placement.origin := List.mem_map_of_mem hp
    rw [hput, scripts_placements hruns] at horigin
    obtain ⟨s, hs, hmem⟩ := List.mem_flatMap.1 horigin
    obtain ⟨i, -, hpair⟩ := List.mem_map.1 hmem
    have hpart : p.part = s := (congrArg Prod.fst hpair).symm
    rw [hpart]
    exact hsorted s hs
  · intro above s below hcut hrep
    rw [hcut] at hruns hput
    rw [hput]
    exact scripts_cut hruns hfirst.ge hrep

namespace Sample

/-- the list on a page without an end, its rows so far down that doubles are 128 apart there -/
def far : Job :=
  let margins : Margins := { job.template.config.margins with bottom := -1e19 }
  { job with template := { job.template with
    config := { job.template.config with margins := margins }
    sections := [{ rows with position := ⟨10.0, 1e18⟩, dimensions := ⟨100.0, 20.0⟩ }] } }

/-- far down all rows start in the same place, though they are 20 high and the gap is 10 -/
example : ((Flow.layOut far root).run.run (Flow.start far page)).2.placements.map (fun p => toRat? p.base.y) =
    [some (10 ^ 18), some (10 ^ 18), some (10 ^ 18)] := by
  decide +kernel

end Sample

end ReportPress
