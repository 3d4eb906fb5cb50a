import ReportPress.Flow.Layout
import ReportPress.Proofs.Paint.Entries
/-!
A layout as a script. Which instances are put where, and where the page is turned, depends on the sections, on the
record and on the room on the page, but not on what painting comes to. So the moves of a layout can be written down
beforehand, from the cursor alone; laying out is carrying out the moves on the document, up to the first that fails.

- `Section.script`, `Section.scripts`: the moves, and the cursor after them. `put_mem_scripts`: what they put.
- `follows_placeEvents`, `follows_placeSections`: laying out follows the script.
- `layOut_run`: a whole layout is the script carried out, and the footer of the last page.
- `layOut_done`: what a layout that came to its end has done.
-/

namespace ReportPress

/-- one step of a layout, as work on the document -/
inductive Move where
  | note (n : Note)
  | stop (f : Failure)
  /-- the end of a page, and the start of the next -/
  | turn
  | put (p : Placement)

/-- the components of an instance that was put, in the order they are declared, each with where and for what -/
def Placement.visits (p : Placement) : List (Component × Spot) :=
  p.part.components.map fun c => (c, ⟨p.base.translate c.position, p.content.scope, p.content.index.map Int.ofNat⟩)

/-- an instance that flows with the cursor -/
def Placement.isFlowing (p : Placement) : Bool := !p.content.isAnchored

namespace Move

def placement? : Move → Option Placement
  | .put p => some p
  | _ => none

/-- starts the next page -/
def addPage : Painting Unit := modify fun w => { w with canvas := w.canvas.addPage }

/-- carries out a move -/
def run (j : Job) : Move → Painting Unit
  | .note n => Painting.note n
  | .stop f => throw f
  | .turn => do
    Footer.draw j
    addPage
  | .put p => p.visits.forM fun v => Paint.place j v.1 v.2

/-- carries out moves one after the other -/
def runAll (j : Job) (moves : List Move) : Painting Unit := moves.forM (run j)

end Move

/-- the moves of a layout, or of a part of one, and the cursor after them -/
structure Script where
  moves : List Move
  cursor : Cursor Float

namespace Script

def placements (sc : Script) : List Placement := sc.moves.filterMap Move.placement?

def prepend (moves : List Move) (sc : Script) : Script := ⟨moves ++ sc.moves, sc.cursor⟩

theorem placements_prepend (a b : Script) : (b.prepend a.moves).placements = a.placements ++ b.placements :=
  List.filterMap_append

end Script

/-- the page is turned first where the cursor waits for it -/
def Cursor.opening (c : Cursor Float) : List Move := if c.waiting then [.turn] else []

namespace Section

/-- the moves for a repeated instance at the cursor -/
def flowScript (room : Frame Float) (s : Section) (i : Instance) (first : Bool) (c : Cursor Float) : Script :=
  let here := if first then c.enter room s.position.y else c
  let ready := here.ready room
  ⟨here.opening ++ [.put ⟨s, i, ready.page, ⟨s.position.x, ready.y⟩⟩], ready.advance room s.dimensions.height⟩

/-- entering a section stays on the page -/
theorem entering_page (room : Frame Float) (s : Section) (first : Bool) (c : Cursor Float) :
    (if first then c.enter room s.position.y else c).page = c.page := by
  cases first with
  | true => exact Cursor.enter_page ..
  | false => rfl

/-- the moves for the expansion of a section -/
def script (room : Frame Float) (s : Section) : Bool → List Event → Cursor Float → Script
  | _, [], c => ⟨[], c⟩
  | _, .stop f :: _, c => ⟨[.stop f], c⟩
  | first, .note n :: rest, c => (script room s first rest c).prepend [.note n]
  | first, .place i :: rest, c =>
    if i.isAnchored then (script room s first rest c).prepend [.put ⟨s, i, c.page, s.position⟩]
    else
      let here := s.flowScript room i first c
      (script room s false rest here.cursor).prepend here.moves

/-- the moves for several sections -/
def scripts (room : Frame Float) (root : Value) : List Section → Cursor Float → Script
  | [], c => ⟨[], c⟩
  | s :: rest, c =>
    let here := s.script room true (s.expand root) c
    (scripts room root rest here.cursor).prepend here.moves

end Section

namespace Move

theorem runAll_append (j : Job) (ms ns : List Move) :
    runAll j (ms ++ ns) = (do runAll j ms; runAll j ns) := List.forM_append

theorem runAll_singleton (j : Job) (m : Move) : runAll j [m] = run j m := bind_pure_unit

/-- putting an instance enters no footer -/
theorem grows_put (j : Job) (p : Placement) :
    Painting.Grows (·.mark ≠ .footer) (fun _ => True) (run j (.put p)) := by
  show Painting.Grows _ _ (List.forM _ _)
  induction p.visits with
  | nil => exact .pure _
  | cons v rest ih => exact ((Paint.grows_place j v.1 v.2).mono (fun _ h => h.2) fun _ => id).bind fun _ => ih

end Move

/-! ## Following a script -/

namespace Flow

/-- the cursor is on the page at hand, and `room` is the room on it -/
structure InStep (j : Job) (room : Frame Float) (f : Flow) : Prop where
  page : f.cursor.page = f.work.canvas.pages
  room : frame j f.work.canvas = room

/-- from `f` on, laying out comes to what carrying out the script comes to; unless it fails, the cursor ends where the
script says, and the instances of the script were put -/
structure Follows (j : Job) (room : Frame Float) (f : Flow) (x : Flowing Unit) (sc : Script) : Prop where
  run : ∀ r v, (Move.runAll j sc.moves).run.run f.work = (r, v) → ∃ g, x.run.run f = (r, g) ∧ g.work = v ∧
    (r = .ok () → g.cursor = sc.cursor ∧ g.placements = f.placements ++ sc.placements ∧ g.InStep j room)

variable {j : Job} {room : Frame Float} {f : Flow}

theorem run_paint {α : Type} (x : Painting α) (f : Flow) :
    (Flow.paint x).run.run f = ((x.run.run f.work).1, { f with work := (x.run.run f.work).2 }) := rfl

theorem Follows.nothing (hf : f.InStep j room) : Follows j room f (pure ()) ⟨[], f.cursor⟩ := by
  refine ⟨fun r v h => ⟨f, ?_⟩⟩
  cases h
  exact ⟨rfl, rfl, fun _ => ⟨rfl, (List.append_nil _).symm, hf⟩⟩

/-- one part after the other, one script after the other -/
theorem Follows.bind {x y : Flowing Unit} {a b : Script} (hx : Follows j room f x a)
    (hy : ∀ g : Flow, g.InStep j room → g.cursor = a.cursor → Follows j room g y b) :
    Follows j room f (do x; y) (b.prepend a.moves) := by
  refine ⟨fun r v h => ?_⟩
  change (Move.runAll j (a.moves ++ b.moves)).run.run f.work = (r, v) at h
  rw [Move.runAll_append, Effect.run_bind] at h
  rcases hrun : (Move.runAll j a.moves).run.run f.work with ⟨r', v'⟩
  obtain ⟨g, hg, hwork, hdone⟩ := hx.run r' v' hrun
  rw [hrun] at h
  rw [Effect.run_bind, hg]
  cases r' with
  | error e => cases h; exact ⟨g, rfl, hwork, nofun⟩
  | ok u =>
    obtain ⟨hcursor, hput, hstep⟩ := hdone rfl
    subst hwork
    obtain ⟨g', hg', hwork', hdone'⟩ := (hy g hstep hcursor).run r v h
    refine ⟨g', hg', hwork', fun hok => ?_⟩
    obtain ⟨hcursor', hput', hstep'⟩ := hdone' hok
    refine ⟨hcursor', ?_, hstep'⟩
    rw [hput', hput, List.append_assoc]
    exact congrArg (f.placements ++ ·) List.filterMap_append.symm

theorem Follows.moveCursor (hf : f.InStep j room) {move : Cursor Float → Cursor Float}
    (hmove : (move f.cursor).page = f.cursor.page) : Follows j room f (moveCursor move) ⟨[], move f.cursor⟩ := by
  refine ⟨fun r v h => ⟨{ f with cursor := move f.cursor }, ?_⟩⟩
  cases h
  exact ⟨rfl, rfl, fun _ => ⟨rfl, (List.append_nil _).symm, hmove.trans hf.page, hf.room⟩⟩

/-- what painting leaves alone keeps the cursor in step -/
theorem InStep.paint (hf : f.InStep j room) {P : Painted → Prop} {Q : Issue → Prop} {w : Work}
    (hw : Work.Grows P Q f.work w) : InStep j room { f with work := w } := by
  refine ⟨hf.page.trans hw.canvas.pages.symm, ?_⟩
  rw [← hf.room]
  simp only [frame, Job.usableBottom, hw.canvas.height]

theorem Follows.note (hf : f.InStep j room) (n : Note) :
    Follows j room f (Flow.paint (Painting.note n)) ⟨[.note n], f.cursor⟩ := by
  refine ⟨fun r v h => ⟨{ f with work := v }, ?_⟩⟩
  rw [Move.runAll_singleton] at h
  change (Painting.note n).run.run f.work = (r, v) at h
  have hgrow := (Painting.grows_note (P := fun _ => True) (Q := fun _ => True) n).of_run h
  refine ⟨?_, rfl, fun _ => ⟨rfl, (List.append_nil _).symm, hf.paint hgrow⟩⟩
  rw [run_paint, h]

theorem Follows.stop (e : Failure) (c : Cursor Float) : Follows j room f (throw e) ⟨[.stop e], c⟩ := by
  refine ⟨fun r v h => ⟨f, ?_⟩⟩
  cases h
  exact ⟨rfl, rfl, nofun⟩

theorem paintComponents_eq (j : Job) (base : Point) (i : Instance) (s : Section) (page : ℕ) :
    paintComponents j base i s.components = Move.run j (.put ⟨s, i, page, base⟩) := by
  show _ = List.forM (s.components.map _) _
  induction s.components with
  | nil => rfl
  | cons c rest ih =>
    show (Paint.place j c _ >>= fun _ => _) = (Paint.place j c _ >>= fun _ => _)
    rw [ih]

theorem Follows.put (hf : f.InStep j room) (s : Section) (i : Instance) (base : Point) :
    Follows j room f (Flow.put j s i base) ⟨[.put ⟨s, i, f.cursor.page, base⟩], f.cursor⟩ := by
  refine ⟨fun r v h => ?_⟩
  rw [Move.runAll_singleton] at h
  have hgrow := (Move.grows_put j ⟨s, i, f.cursor.page, base⟩).of_run h
  have hg : InStep j room { f with placements := f.placements ++ [⟨s, i, f.cursor.page, base⟩] } := ⟨hf.page, hf.room⟩
  refine ⟨{ f with placements := f.placements ++ [⟨s, i, f.cursor.page, base⟩], work := v }, ?_, rfl,
    fun _ => ⟨rfl, rfl, hg.paint hgrow⟩⟩
  show (Flow.paint (paintComponents j base i s.components)).run.run
    { f with placements := f.placements ++ [⟨s, i, f.work.canvas.pages, base⟩] } = _
  rw [run_paint, paintComponents_eq j base i s f.cursor.page, h, hf.page]

theorem Follows.breakPage (hf : f.InStep j room) :
    Follows j room f (Flow.breakPage j) ⟨[.turn], Cursor.turn room (f.cursor.page + 1)⟩ := by
  refine ⟨fun r v h => ?_⟩
  rw [Move.runAll_singleton] at h
  change (Footer.draw j >>= fun _ => Move.addPage).run.run f.work = (r, v) at h
  rcases hrun : (Footer.draw j).run.run f.work with ⟨r', w⟩
  have hgrow := (Paint.grows_footer j).of_run hrun
  unfold Flow.breakPage
  rw [Effect.run_bind, hrun] at h
  rw [Effect.run_bind, run_paint, hrun]
  cases r' with
  | error e =>
    cases h
    exact ⟨_, rfl, rfl, nofun⟩
  | ok u =>
    cases h
    have hroom := (hf.paint hgrow).room
    have hpages : w.canvas.pages = f.cursor.page := hgrow.canvas.pages.trans hf.page.symm
    refine ⟨_, rfl, rfl, fun _ => ⟨?_, (List.append_nil _).symm, rfl, hroom⟩⟩
    show Cursor.turn (frame j w.canvas) (w.canvas.pages + 1) = _
    rw [hpages]
    exact congrArg (Cursor.turn · (f.cursor.page + 1)) hroom

/-- a step that reads the document first -/
theorem Follows.get {k : Flow → Flowing Unit} {sc : Script} (h : Follows j room f (k f) sc) :
    Follows j room f (MonadState.get >>= k) sc := ⟨h.run⟩

/-- before an instance flows, the page is turned if the cursor waits for that -/
theorem Follows.ready {k : Flowing Unit} {b : Script} (hf : f.InStep j room)
    (hk : ∀ g : Flow, g.InStep j room → g.cursor = f.cursor.ready room → Follows j room g k b) :
    Follows j room f (do if (← MonadState.get).cursor.waiting then Flow.breakPage j; k else k)
      (b.prepend f.cursor.opening) := by
  refine .get ?_
  cases hw : f.cursor.waiting with
  | true =>
    rw [Cursor.opening, if_pos hw, if_pos rfl]
    refine (Follows.breakPage hf).bind fun g hg hcursor => hk g hg ?_
    rw [hcursor, Cursor.ready, if_pos hw]
  | false =>
    rw [Cursor.opening, hw, if_neg Bool.false_ne_true, if_neg Bool.false_ne_true]
    refine hk f hf ?_
    rw [Cursor.ready, hw, if_neg Bool.false_ne_true]

theorem Follows.flow (hf : f.InStep j room) (s : Section) (i : Instance) (first : Bool) :
    Follows j room f (Flow.flow j s i first) (s.flowScript room i first f.cursor) := by
  have hlast : ∀ g : Flow, g.InStep j room → Follows j room g
      (do
        Flow.put j s i ⟨s.position.x, (← MonadState.get).cursor.y⟩
        Flow.moveCursor (·.advance room s.dimensions.height))
      ⟨[.put ⟨s, i, g.cursor.page, ⟨s.position.x, g.cursor.y⟩⟩], g.cursor.advance room s.dimensions.height⟩ := by
    intro g hg
    refine .get ((Follows.put hg s i _).bind (b := ⟨[], g.cursor.advance room s.dimensions.height⟩) fun g' hg'
      (h : g'.cursor = g.cursor) => ?_)
    rw [← h]
    exact .moveCursor hg' (Cursor.advance_page ..)
  have hready : ∀ g : Flow, g.InStep j room → Follows j room g
      (do
        if (← MonadState.get).cursor.waiting then Flow.breakPage j
        Flow.put j s i ⟨s.position.x, (← MonadState.get).cursor.y⟩
        Flow.moveCursor (·.advance room s.dimensions.height))
      (s.flowScript room i false g.cursor) := fun g hg =>
    Follows.ready hg (b := ⟨[.put ⟨s, i, (g.cursor.ready room).page, ⟨s.position.x, (g.cursor.ready room).y⟩⟩],
      (g.cursor.ready room).advance room s.dimensions.height⟩) fun g' hg' h => h ▸ hlast g' hg'
  unfold Flow.flow
  refine .get ?_
  rw [hf.room]
  cases first with
  | false => exact hready f hf
  | true =>
    refine Follows.bind (b := s.flowScript room i false (f.cursor.enter room s.position.y))
      (Follows.moveCursor hf (Cursor.enter_page ..)) fun g hg (h : g.cursor = f.cursor.enter room s.position.y) => ?_
    rw [← h]
    exact hready g hg

/-- **Laying out** the expansion of a section follows the section's script -/
theorem follows_placeEvents (s : Section) (first : Bool) (events : List Event) (hf : f.InStep j room) :
    Follows j room f (placeEvents j s first events) (s.script room first events f.cursor) := by
  induction events generalizing first f with
  | nil => exact .nothing hf
  | cons e rest ih =>
    cases e with
    | stop e => exact .stop e f.cursor
    | note n => exact (Follows.note hf n).bind fun g hg (h : g.cursor = f.cursor) => h ▸ ih first hg
    | place i =>
      unfold placeEvents Section.script
      split
      · exact (Follows.put hf s i s.position).bind fun g hg (h : g.cursor = f.cursor) => h ▸ ih first hg
      · exact (Follows.flow hf s i first).bind fun g hg h => h ▸ ih false hg

theorem follows_placeSections (root : Value) (sections : List Section) (hf : f.InStep j room) :
    Follows j room f (placeSections j root sections) (Section.scripts room root sections f.cursor) := by
  induction sections generalizing f with
  | nil => exact .nothing hf
  | cons s rest ih => exact (follows_placeEvents s true _ hf).bind fun g hg h => h ▸ ih hg

end Flow

/-- the script of a whole document that starts on the canvas -/
def Job.script (j : Job) (c : Canvas) (root : Value) : Script :=
  Section.scripts (Flow.frame j c) root j.template.sortedSections ⟨c.pages, j.template.config.margins.top, false⟩

/-- carries out the moves of a whole document, and draws the footer of the last page -/
def Move.runDocument (j : Job) (moves : List Move) : Painting Unit := do
  runAll j moves
  Footer.draw j

/-- **A whole layout** is its script carried out, and the footer of the last page -/
theorem layOut_run {j : Job} {root : Value} {w v : Work} {r : Except Failure Unit}
    (h : (Move.runDocument j (j.script w.canvas root).moves).run.run w = (r, v)) :
    ∃ g, (Flow.layOut j root).run.run (Flow.start j w) = (r, g) ∧ g.work = v ∧
      (r = .ok () →
        g.cursor = (j.script w.canvas root).cursor ∧ g.placements = (j.script w.canvas root).placements) := by
  have hstart : (Flow.start j w).InStep j (Flow.frame j w.canvas) := ⟨rfl, rfl⟩
  have hsections := Flow.follows_placeSections root j.template.sortedSections hstart
  unfold Move.runDocument at h
  rw [Effect.run_bind] at h
  unfold Flow.layOut
  rcases hrun : (Move.runAll j (j.script w.canvas root).moves).run.run w with ⟨r', v'⟩
  obtain ⟨g, hg, hwork, hdone⟩ := hsections.run r' v' hrun
  rw [hrun] at h
  rw [Effect.run_bind, hg]
  cases r' with
  | error e => cases h; exact ⟨g, rfl, hwork, nofun⟩
  | ok u =>
    obtain ⟨hcursor, hput, -⟩ := hdone rfl
    refine ⟨{ g with work := v }, ?_, rfl, fun _ => ⟨hcursor, hput⟩⟩
    subst hwork
    show (Flow.paint (Footer.draw j)).run.run g = _
    rw [Flow.run_paint]
    exact congrArg (fun x : Except Failure Unit × Work => (x.1, { g with work := x.2 })) h

/-- **A layout that comes to its end** has carried out its script and drawn the last footer; its cursor is where the
script leaves it, on the page at hand -/
theorem layOut_done {j : Job} {root : Value} {w : Work} {f : Flow}
    (h : (Flow.layOut j root).run.run (Flow.start j w) = (.ok (), f)) :
    ∃ v, (Move.runAll j (j.script w.canvas root).moves).run.run w = (.ok (), v) ∧
      (Footer.draw j).run.run v = (.ok (), f.work) ∧ f.cursor = (j.script w.canvas root).cursor ∧
      f.placements = (j.script w.canvas root).placements ∧ f.cursor.page = f.work.canvas.pages := by
  have hstart : (Flow.start j w).InStep j (Flow.frame j w.canvas) := ⟨rfl, rfl⟩
  have hsections := Flow.follows_placeSections root j.template.sortedSections hstart
  obtain ⟨u, g, hplace, hfinish⟩ := Effect.run_bind_eq_ok h
  rcases hrun : (Move.runAll j (j.script w.canvas root).moves).run.run w with ⟨r, v⟩
  obtain ⟨g', hg', hwork, hdone⟩ := hsections.run r v hrun
  rw [hplace, Prod.mk.injEq] at hg'
  obtain ⟨rfl, rfl⟩ := hg'
  obtain ⟨hcursor, hput, hstep⟩ := hdone rfl
  subst hwork
  change (Flow.paint (Footer.draw j)).run.run g = _ at hfinish
  rw [Flow.run_paint, Prod.mk.injEq] at hfinish
  obtain ⟨hok, rfl⟩ := hfinish
  have hgrow := (Paint.grows_footer j).run g.work
  exact ⟨g.work, rfl, Prod.ext hok rfl, hcursor, hput, hstep.page.trans hgrow.canvas.pages.symm⟩

end ReportPress
