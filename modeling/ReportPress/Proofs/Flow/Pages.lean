import ReportPress.Proofs.Flow.Outline
/-!
Which pages a layout adds. A cursor that waits for a page break does so until an instance flows; the page is turned
then, and the instance is put at the top of the new page. However many sections and instances the cursor waits through,
no page is begun without an instance to put on it.

- `Paged`: moves that lead from one page to another, the page being turned only ahead of an instance that flows.
- `flowScript_paged`, `script_paged`, `scripts_paged`: scripts are of this kind; a step lemma for an instance, then by
  induction on the expansion of a section and on the sections.
- `Paged.pages`, `Paged.turned`, `Paged.turns_le`, `Paged.base_of_first`: what that says of the number of pages, of each
  page break, of the instances that flow, and of the first instance on a page.
- `layOut_pages`: a whole layout.
-/

namespace ReportPress

namespace Move

/-- the end of a page and the start of the next -/
def isTurn : Move → Bool
  | .turn => true
  | _ => false

@[simp] theorem isTurn_turn : isTurn .turn = true := rfl

@[simp] theorem isTurn_put (p : Placement) : isTurn (.put p) = false := rfl

@[simp] theorem placement?_turn : placement? .turn = none := rfl

@[simp] theorem placement?_put (p : Placement) : placement? (.put p) = some p := rfl

end Move

/-- moves from one page on to another: what is put is put on the page at hand, and the page is turned only right ahead
of an instance that flows, which is put at the top of the new page -/
inductive Paged (top : Float) : ℕ → List Move → ℕ → Prop where
  | nil {m : ℕ} : Paged top m [] m
  /-- neither a page break nor an instance -/
  | aside {m n : ℕ} {move : Move} {rest : List Move} (hturn : move.isTurn = false) (hput : move.placement? = none)
      (h : Paged top m rest n) : Paged top m (move :: rest) n
  | put {m n : ℕ} {p : Placement} {rest : List Move} (hpage : p.page = m) (h : Paged top m rest n) :
      Paged top m (.put p :: rest) n
  | turn {m n : ℕ} {p : Placement} {rest : List Move} (hflow : p.isFlowing = true) (hpage : p.page = m + 1)
      (hbase : p.base.y = top) (h : Paged top (m + 1) rest n) : Paged top m (.turn :: .put p :: rest) n

namespace Paged

variable {top : Float} {l m n : ℕ} {moves others : List Move}

theorem append (h : Paged top l moves m) (k : Paged top m others n) : Paged top l (moves ++ others) n := by
  induction h with
  | nil => exact k
  | aside hturn hput _ ih => exact .aside hturn hput (ih k)
  | put hpage _ ih => exact .put hpage (ih k)
  | turn hflow hpage hbase _ ih => exact .turn hflow hpage hbase (ih k)

/-- behind the first move: a page break has led one page on, and the instance behind it is put on the page at hand -/
theorem tail {move : Move} (h : Paged top m (move :: moves) n) :
    Paged top (m + if move.isTurn then 1 else 0) moves n := by
  cases h with
  | aside hturn _ h =>
    rw [hturn]
    exact h
  | put _ h => exact h
  | turn _ hpage _ h => exact .put hpage h

/-- each page break leads one page on, and nothing else does -/
theorem pages (h : Paged top m moves n) : n = m + moves.countP Move.isTurn := by
  induction moves generalizing m with
  | nil =>
    cases h
    rfl
  | cons move rest ih =>
    rw [ih h.tail, List.countP_cons]
    omega

/-- **A page break** is followed at once by an instance that flows, at the top of the page that it begins -/
theorem turned {before after : List Move} (h : Paged top m (before ++ .turn :: after) n) :
    ∃ p rest, after = .put p :: rest ∧ p.isFlowing = true ∧ p.page = m + before.countP Move.isTurn + 1 ∧
      p.base.y = top := by
  induction before generalizing m with
  | nil =>
    cases h with
    | aside hturn => cases hturn
    | turn hflow hpage hbase _ => exact ⟨_, _, rfl, hflow, hpage, hbase⟩
  | cons move before ih =>
    obtain ⟨p, rest, hafter, hflow, hpage, hbase⟩ := ih h.tail
    refine ⟨p, rest, hafter, hflow, ?_, hbase⟩
    rw [hpage, List.countP_cons]
    omega

/-- there are no more page breaks than instances that flow -/
theorem turns_le (h : Paged top m moves n) :
    moves.countP Move.isTurn ≤ (moves.filterMap Move.placement?).countP Placement.isFlowing := by
  induction h with
  | nil => exact le_rfl
  | aside hturn hput _ ih => simpa [hturn, hput] using ih
  | put _ _ ih =>
    simp only [List.countP_cons, Move.isTurn_put, List.filterMap_cons, Move.placement?_put]
    exact ih.trans (Nat.le_add_right _ _)
  | turn hflow _ _ _ ih =>
    simp only [List.countP_cons, Move.isTurn_turn, Move.isTurn_put, List.filterMap_cons, Move.placement?_turn,
      Move.placement?_put, hflow]
    exact Nat.succ_le_succ ih

/-- the first instance on a page after the first is put at the top -/
theorem base_of_first (h : Paged top m moves n) {before after : List Placement} {p : Placement}
    (hcut : moves.filterMap Move.placement? = before ++ p :: after) (hlater : m < p.page)
    (hfirst : ∀ q ∈ before, q.page ≠ p.page) : p.base.y = top := by
  induction h generalizing before with
  | nil => exact absurd hcut.symm (List.append_ne_nil_of_right_ne_nil before (List.cons_ne_nil p after))
  | aside _ hput _ ih =>
    rw [List.filterMap_cons_none hput] at hcut
    exact ih hcut hlater hfirst
  | @put m n q rest hpage _ ih =>
    rw [List.filterMap_cons_some (Move.placement?_put q)] at hcut
    cases before with
    | nil =>
      obtain ⟨rfl, -⟩ := List.cons.inj hcut
      exact absurd hpage (Nat.ne_of_gt hlater)
    | cons q' before =>
      exact ih (List.cons.inj hcut).2 hlater fun r hr => hfirst r (List.mem_cons_of_mem q' hr)
  | @turn m n q rest _ hpage hbase _ ih =>
    rw [List.filterMap_cons_none Move.placement?_turn, List.filterMap_cons_some (Move.placement?_put q)] at hcut
    cases before with
    | nil =>
      obtain ⟨rfl, -⟩ := List.cons.inj hcut
      exact hbase
    | cons q' before =>
      obtain ⟨rfl, hrest⟩ := List.cons.inj hcut
      -- that page is not the one just begun, since an instance ahead is on it
      have hother : q.page ≠ p.page := hfirst q List.mem_cons_self
      exact ih hrest (by omega) fun r hr => hfirst r (List.mem_cons_of_mem q hr)

end Paged

namespace Section

variable {room : Frame Float} {s : Section}

/-- an instance that flows: if the cursor waits, the page is turned for it -/
theorem flowScript_paged {i : Instance} (hi : i.isAnchored = false) (first : Bool) (c : Cursor Float) :
    Paged room.top c.page (s.flowScript room i first c).moves (s.flowScript room i first c).cursor.page := by
  set here := if first then c.enter room s.position.y else c with hhere
  have hpage : here.page = c.page := entering_page room s first c
  have hflow : ∀ page base, Placement.isFlowing ⟨s, i, page, base⟩ = true := by
    intro page base
    simp [Placement.isFlowing, hi]
  show Paged room.top c.page
    (here.opening ++ [.put ⟨s, i, (here.ready room).page, ⟨s.position.x, (here.ready room).y⟩⟩])
    ((here.ready room).advance room s.dimensions.height).page
  rw [Cursor.advance_page, ← hpage]
  cases hwaiting : here.waiting with
  | true =>
    have hready : here.ready room = Cursor.turn room (here.page + 1) := by
      rw [Cursor.ready, if_pos hwaiting]
    rw [Cursor.opening, if_pos hwaiting, hready]
    exact .turn (hflow _ _) rfl rfl .nil
  | false =>
    have hready : here.ready room = here := by
      rw [Cursor.ready, hwaiting, if_neg Bool.false_ne_true]
    rw [Cursor.opening, hwaiting, if_neg Bool.false_ne_true, hready]
    exact .put rfl .nil

/-- the script of a section leads from the page of the cursor ahead of it to that of the cursor behind it -/
theorem script_paged (first : Bool) (events : List Event) (c : Cursor Float) :
    Paged room.top c.page (s.script room first events c).moves (s.script room first events c).cursor.page := by
  induction events generalizing first c with
  | nil => exact .nil
  | cons e rest ih =>
    cases e with
    | stop f => exact .aside rfl rfl .nil
    | note n => exact .aside rfl rfl (ih first c)
    | place i =>
      rw [script]
      cases hi : i.isAnchored with
      | true =>
        rw [if_pos rfl]
        exact .put rfl (ih first c)
      | false =>
        rw [if_neg Bool.false_ne_true]
        exact (flowScript_paged hi first c).append (ih false _)

theorem scripts_paged (root : Value) (sections : List Section) (c : Cursor Float) :
    Paged room.top c.page (scripts room root sections c).moves (scripts room root sections c).cursor.page := by
  induction sections generalizing c with
  | nil => exact .nil
  | cons s rest ih => exact (script_paged true (s.expand root) c).append (ih _)

/-- sections without a repeated instance have no outlines -/
theorem outlines_eq_nil {root : Value} {sections : List Section}
    (h : ∀ s ∈ sections, s.isRepeatable = true → s.instances root = []) : outlines root sections = [] := by
  rw [outlines, List.filter_eq_nil_iff]
  intro o ho
  obtain ⟨s, hs, rfl⟩ := List.mem_map.1 ho
  obtain ⟨hmem, hrep⟩ := List.mem_filter.1 hs
  simp [outline, h s hmem hrep]

end Section

/-- the script of a whole document leads on from the first page -/
theorem Job.script_paged {c : Canvas} (j : Job) (root : Value) (hfirst : c.pages = firstPage) :
    Paged j.template.config.margins.top firstPage (j.script c root).moves (j.script c root).cursor.page := by
  rw [← hfirst]
  exact @Section.scripts_paged (Flow.frame j c) root j.template.sortedSections
    ⟨c.pages, j.template.config.margins.top, false⟩

/-- **The pages of a layout** that comes to its end. Every page after the first is begun by a page break that is
followed at once by an instance that flows, put on that page at the top margin. So there is one page more than there
are page breaks, at most one more than instances that flow, and only one if no section that repeats has an instance. -/
theorem layOut_pages (j : Job) (root : Value) (w : Work) (f : Flow) (hfirst : w.canvas.pages = firstPage)
    (h : (Flow.layOut j root).run.run (Flow.start j w) = (.ok (), f)) :
    let moves := (j.script w.canvas root).moves
    (Move.runDocument j moves).run.run w = (.ok (), f.work) ∧
      moves.filterMap Move.placement? = f.placements ∧
      (∀ before after, moves = before ++ .turn :: after → ∃ p rest, after = .put p :: rest ∧ p.isFlowing = true ∧
        p.page = firstPage + before.countP Move.isTurn + 1 ∧ p.base.y = j.template.config.margins.top) ∧
      f.work.canvas.pages = 1 + moves.countP Move.isTurn ∧
      f.work.canvas.pages ≤ 1 + f.placements.countP Placement.isFlowing ∧
      ((∀ s ∈ j.template.sections, s.isRepeatable = true → s.instances root = []) → f.work.canvas.pages = 1) := by
  obtain ⟨v, hmoves, hfooter, hcursor, hput, hpage⟩ := layOut_done h
  have hpaged := j.script_paged root hfirst
  have hcount : f.work.canvas.pages = 1 + (j.script w.canvas root).moves.countP Move.isTurn := by
    rw [← hpage, hcursor]
    exact hpaged.pages
  refine ⟨?_, hput.symm, fun before after hcut => (hcut ▸ hpaged).turned, hcount, ?_, ?_⟩
  · rw [Move.runDocument, Effect.run_bind, hmoves]
    exact hfooter
  · rw [hcount, hput]
    exact Nat.add_le_add_left hpaged.turns_le 1
  · intro hnone
    have hsorted : ∀ s ∈ j.template.sortedSections, s.isRepeatable = true → s.instances root = [] :=
      fun s hs => hnone s ((Order.sort_perm _ _).mem_iff.1 hs)
    rw [(layOut_sites h).2, Section.outlines_eq_nil hsorted]
    exact hfirst

/-- the rows take a second page, which is begun for the last of them -/
theorem layOut_pages_sample :
    (Sample.job.script Sample.page.canvas Sample.root).moves.countP Move.isTurn = 1 ∧
      Sample.laid.2.work.canvas.pages = 2 ∧ Sample.laid.2.placements.countP Placement.isFlowing = 3 := by
  have hturns : (Sample.job.script Sample.page.canvas Sample.root).moves.countP Move.isTurn = 1 := by decide +kernel
  obtain ⟨-, -, -, hpages, -, -⟩ := layOut_pages Sample.job Sample.root Sample.page Sample.laid.2 rfl Sample.laid_done
  refine ⟨hturns, ?_, by decide +kernel⟩
  rw [hpages, hturns]

end ReportPress
