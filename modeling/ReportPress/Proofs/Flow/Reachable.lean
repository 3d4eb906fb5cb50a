import ReportPress.Proofs.Flow.Instances
/-!
Where flowing instances may start. A cursor waits for a page break just if it is past the limit, but for the start of a
document, where it stands at the top of the first page and was not looked at yet. Every instance that flows looks first;
so it starts no lower than the limit, or at the very top of a page that was just begun.

- `Cursor.Settled`: what holds of the cursor between sections. `Placed`: what holds of it and of the instances put so
  far; it holds at the start and is kept by each instance (`Placed.anchored`, `Placed.flow`), hence by each section and
  by all of them (`Placed.scripts`).
- `reachable_placed`: it holds of every state that placing sections leads to.
- `reachable_bounds`: what that says of the cursor and of each flowing instance.
-/

namespace ReportPress

namespace Cursor

variable {α : Type} [Length α] {room : Frame α} {c : Cursor α}

/-- the cursor waits for a page break just if it is past the limit -/
def Checked (room : Frame α) (c : Cursor α) : Prop := c.waiting = Length.below room.limit c.y

theorem check_checked (h : c.waiting = false) : (c.check room).Checked room := by
  unfold check Checked
  split
  · next hb => exact hb.symm
  · next hb => rw [h]; exact (Bool.eq_false_iff.2 hb).symm

theorem advance_checked (height : α) (h : c.waiting = false) : (c.advance room height).Checked room := check_checked h

/-- between sections: the cursor is checked, or it still stands at the top of the first page -/
def Settled (room : Frame α) (c : Cursor α) : Prop :=
  c.Checked room ∨ (c.waiting = false ∧ c.y = room.top ∧ c.page = firstPage)

/-- entering a section looks at the cursor on the first page; on others it was looked at before -/
theorem enter_checked (declared : α) (h : c.Settled room) : (c.enter room declared).Checked room := by
  unfold enter
  split
  · next hfirst =>
    rw [Bool.and_eq_true, Bool.not_eq_true'] at hfirst
    exact check_checked hfirst.1
  · next hfirst =>
    rcases h with h | ⟨hw, -, hp⟩
    · exact h
    · rw [hw, hp] at hfirst
      exact absurd rfl hfirst

/-- when the next instance can be placed, the cursor is not past the limit or at the top of a new page -/
theorem ready_fits (h : c.Checked room) :
    (Length.below room.limit (c.ready room).y = false ∧ (c.ready room).page = c.page) ∨
      ((c.ready room).y = room.top ∧ (c.ready room).page = c.page + 1) := by
  unfold ready
  cases hw : c.waiting with
  | true => exact .inr ⟨rfl, rfl⟩
  | false => exact .inl ⟨h.symm.trans hw, rfl⟩

end Cursor

/-- an instance that flows starts no lower than the limit, or else it is the first on its page, at the very top of a
page after the first -/
def Placement.StartsWell (room : Frame Float) (before : List Placement) (p : Placement) : Prop :=
  p.isFlowing = true → ¬ room.limit < p.base.y ∨
    (p.base.y = room.top ∧ firstPage < p.page ∧ ∀ q ∈ before, q.page < p.page)

/-- the cursor, and the instances put so far, at any point of a layout -/
structure Placed (room : Frame Float) (c : Cursor Float) (ps : List Placement) : Prop where
  begun : firstPage ≤ c.page
  settled : c.Settled room
  behind : ∀ p ∈ ps, p.page ≤ c.page
  starts : ∀ before p after, ps = before ++ p :: after → p.StartsWell room before

namespace Placed

variable {room : Frame Float} {c : Cursor Float} {ps : List Placement} {s : Section}

/-- one instance more -/
theorem put {d : Cursor Float} {p : Placement} (h : Placed room c ps) (hp : p.StartsWell room ps)
    (hpage : p.page = d.page) (hcd : c.page ≤ d.page) (hd : d.Settled room) : Placed room d (ps ++ [p]) := by
  refine ⟨h.begun.trans hcd, hd, fun q hq => ?_, fun before q after hcut => ?_⟩
  · rcases List.mem_append.1 hq with hq | hq
    · exact (h.behind q hq).trans hcd
    · rw [List.mem_singleton.1 hq, hpage]
  · rcases List.eq_nil_or_concat after with rfl | ⟨after, last, rfl⟩
    · obtain ⟨rfl, hlast⟩ := List.append_inj' hcut rfl
      rw [← List.singleton_inj.1 hlast]
      exact hp
    · have hcut' : ps ++ [p] = (before ++ q :: after) ++ [last] := by
        rw [hcut]; simp only [List.concat_eq_append, List.append_assoc, List.cons_append]
      exact h.starts before q after (List.append_inj' hcut' rfl).1

/-- an anchored instance leaves the cursor alone -/
theorem anchored (h : Placed room c ps) {i : Instance} (hi : i.isAnchored = true) (base : Point) :
    Placed room c (ps ++ [⟨s, i, c.page, base⟩]) := by
  refine h.put (fun hflow => ?_) rfl le_rfl h.settled
  rw [Placement.isFlowing, hi] at hflow
  cases hflow

/-- a flowing instance, the first of its section or one after another -/
theorem flow (h : Placed room c ps) (i : Instance) {first : Bool} (hc : first = false → c.Checked room) :
    Placed room (s.flowScript room i first c).cursor (ps ++ (s.flowScript room i first c).placements) ∧
      (s.flowScript room i first c).cursor.Checked room := by
  set here := if first then c.enter room s.position.y else c with hhere
  have hchecked : here.Checked room := by
    cases first with
    | true => exact Cursor.enter_checked _ h.settled
    | false => exact hc rfl
  have hpage : here.page = c.page := Section.entering_page room s first c
  have hlast : (s.flowScript room i first c).cursor.Checked room :=
    Cursor.advance_checked _ (Cursor.ready_waiting room here)
  have hput : (s.flowScript room i first c).placements =
      [⟨s, i, (here.ready room).page, ⟨s.position.x, (here.ready room).y⟩⟩] := Section.flowScript_placements ..
  refine ⟨?_, hlast⟩
  rw [hput]
  refine h.put (fun _ => ?_) (Cursor.advance_page ..).symm ?_ (.inl hlast)
  · rcases Cursor.ready_fits hchecked with ⟨hfits, -⟩ | ⟨htop, hnew⟩
    · exact .inl (of_decide_eq_false hfits)
    · rw [hpage] at hnew
      refine .inr ⟨htop, ?_, fun q hq => ?_⟩
      · rw [hnew]; exact Nat.lt_succ_of_le h.begun
      · rw [hnew]; exact Nat.lt_succ_of_le (h.behind q hq)
  · show c.page ≤ ((here.ready room).advance room s.dimensions.height).page
    rw [Cursor.advance_page, ← hpage]
    rcases Cursor.ready_fits hchecked with ⟨-, hsame⟩ | ⟨-, hnew⟩
    · exact hsame.ge
    · exact hnew ▸ Nat.le_succ _

theorem script (first : Bool) (events : List Event) (h : Placed room c ps) (hc : first = false → c.Checked room) :
    Placed room (s.script room first events c).cursor (ps ++ (s.script room first events c).placements) := by
  induction events generalizing first c ps with
  | nil => rw [Section.script]; exact (List.append_nil ps).symm ▸ h
  | cons e rest ih =>
    cases e with
    | stop f => exact (List.append_nil ps).symm ▸ h
    | note n => exact ih first h hc
    | place i =>
      unfold Section.script
      split
      · next hi =>
        have := ih first (h.anchored (s := s) hi s.position) hc
        rwa [List.append_assoc] at this
      · obtain ⟨hflow, hchecked⟩ := h.flow (s := s) i hc
        have := ih false hflow fun _ => hchecked
        rw [List.append_assoc] at this
        unfold Script.placements at this ⊢
        rwa [← List.filterMap_append] at this

/-- the scripts of several sections -/
theorem scripts (root : Value) (sections : List Section) (h : Placed room c ps) :
    Placed room (Section.scripts room root sections c).cursor
      (ps ++ (Section.scripts room root sections c).placements) := by
  induction sections generalizing c ps with
  | nil => exact (List.append_nil ps).symm ▸ h
  | cons s rest ih =>
    have hrest := ih (h.script (s := s) true (s.expand root) nofun)
    rw [List.append_assoc] at hrest
    rw [Section.scripts, Script.placements_prepend]
    exact hrest

/-- at the start of a document nothing is put yet -/
theorem start {j : Job} {w : Work} (hfirst : w.canvas.pages = firstPage) :
    Placed (Flow.frame j w.canvas) (Flow.start j w).cursor [] := by
  refine ⟨hfirst.ge, .inr ⟨rfl, rfl, hfirst⟩, nofun, fun before p after hcut => ?_⟩
  exact absurd hcut.symm (List.append_ne_nil_of_right_ne_nil before (List.cons_ne_nil p after))

end Placed

/-- the states of a layout: its start, and what placing sections, of whatever kind and for whatever record, leads to as
long as no placing fails -/
inductive Reachable (j : Job) (w : Work) : Flow → Prop where
  | start : Reachable j w (Flow.start j w)
  | place {f g : Flow} (s : Section) (root : Value) (hf : Reachable j w f)
      (h : (Flow.placeSection j s root).run.run f = (.ok (), g)) : Reachable j w g

/-- **The invariant** of layouts that start on the first page -/
theorem reachable_placed {j : Job} {w : Work} {f : Flow} (hfirst : w.canvas.pages = firstPage) (h : Reachable j w f) :
    f.InStep j (Flow.frame j w.canvas) ∧ Placed (Flow.frame j w.canvas) f.cursor f.placements := by
  induction h with
  | start => exact ⟨⟨rfl, rfl⟩, .start hfirst⟩
  | @place f g s root _ hplace ih =>
    obtain ⟨hstep, hplaced⟩ := ih
    rcases hrun : (Move.runAll j (s.script (Flow.frame j w.canvas) true (s.expand root) f.cursor).moves).run.run f.work
      with ⟨r, v⟩
    obtain ⟨g', hg', -, hdone⟩ := (Flow.follows_placeEvents s true (s.expand root) hstep).run r v hrun
    have heq := hplace.symm.trans hg'
    rw [Prod.mk.injEq] at heq
    obtain ⟨rfl, rfl⟩ := heq
    obtain ⟨hcursor, hput, hstep'⟩ := hdone rfl
    refine ⟨hstep', ?_⟩
    rw [hcursor, hput]
    exact hplaced.script true _ nofun

/-- **Where instances start.** In every state that placing sections leads to from the first page of a document on, the
cursor is on the page at hand; it is past the limit if it waits for a page break, and if it does not, it is not past the
limit or at the top margin. Every instance that flowed started no lower than the limit, or at the very top of a page
after the first, as the first instance there. -/
theorem reachable_bounds (j : Job) (w : Work) (f : Flow) (hfirst : w.canvas.pages = firstPage) (h : Reachable j w f) :
    f.cursor.page = f.work.canvas.pages ∧
      (f.cursor.waiting = true → j.usableBottom w.canvas < f.cursor.y) ∧
      (f.cursor.waiting = false →
        ¬ j.usableBottom w.canvas < f.cursor.y ∨ f.cursor.y = j.template.config.margins.top) ∧
      ∀ before p after, f.placements = before ++ p :: after → p.isFlowing = true →
        ¬ j.usableBottom w.canvas < p.base.y ∨
          (p.base.y = j.template.config.margins.top ∧ firstPage < p.page ∧ ∀ q ∈ before, q.page < p.page) := by
  obtain ⟨hstep, hplaced⟩ := reachable_placed hfirst h
  refine ⟨hstep.page, fun hw => ?_, fun hw => ?_, fun before p after hcut => hplaced.starts before p after hcut⟩
  · rcases hplaced.settled with hc | ⟨hno, -⟩
    · exact of_decide_eq_true (hc.symm.trans hw)
    · rw [hw] at hno; cases hno
  · rcases hplaced.settled with hc | ⟨-, htop, -⟩
    · exact .inl (of_decide_eq_false (hc.symm.trans hw))
    · exact .inr htop

namespace Sample

/-- the document once the rows are placed -/
def placed : Flow := ((Flow.placeSection job rows root).run.run (Flow.start job page)).2

end Sample

/-- three rows are placed, the last on a second page; the cursor is on that page and not past the limit -/
theorem reachable_bounds_sample :
    Sample.placed.placements.map Placement.page = [1, 1, 2] ∧
      Sample.placed.cursor.page = Sample.placed.work.canvas.pages ∧
      (¬ Sample.job.usableBottom Sample.page.canvas < Sample.placed.cursor.y ∨
        Sample.placed.cursor.y = Sample.job.template.config.margins.top) := by
  have h := reachable_bounds Sample.job Sample.page Sample.placed rfl
    (.place Sample.rows Sample.root .start (Effect.eq_done (by decide +kernel)))
  exact ⟨by decide +kernel, h.1, h.2.2.1 (by decide +kernel)⟩

end ReportPress
