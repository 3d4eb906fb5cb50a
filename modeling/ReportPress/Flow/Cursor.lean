import ReportPress.Page.Geometry
/-!
The cursor that repeated instances flow from. It is on a page, at a height, and either placing or waiting for a page
break; a break is waited for once the cursor is past the limit, and taken before the next instance is placed. So a page
is never added without an instance to put on it.
Main statements: `Cursor.turn_waiting`, a page break is never followed by waiting for another; `Cursor.advance_page`,
only a page break changes the page.
-/

namespace ReportPress

/-- the room on a page for flowing instances -/
structure Frame (α : Type) where
  /-- where instances start on a new page -/
  top : α
  /-- how far down they may start -/
  limit : α
  /-- between one instance and the next -/
  gap : α

structure Cursor (α : Type) where
  page : Nat
  y : α
  /-- a page break has to come before the next instance -/
  waiting : Bool := false
deriving Repr

/-- the page on which sections keep to the height that they are declared at -/
def firstPage : Nat := 1

namespace Cursor

variable {α : Type} [Length α]

/-- waits for a page break if the cursor is past the limit -/
def check (f : Frame α) (c : Cursor α) : Cursor α :=
  if Length.below f.limit c.y then { c with waiting := true } else c

/-- the cursor when a section with at least one instance starts: on the first page not above the declared height -/
def enter (f : Frame α) (declared : α) (c : Cursor α) : Cursor α :=
  if !c.waiting && c.page == firstPage then check f { c with y := Length.larger c.y declared } else c

/-- the cursor on a new page -/
def turn (f : Frame α) (page : Nat) : Cursor α := ⟨page, f.top, false⟩

/-- the cursor when the next instance can be placed -/
def ready (f : Frame α) (c : Cursor α) : Cursor α := if c.waiting then turn f (c.page + 1) else c

/-- the cursor after an instance of a height -/
def advance (f : Frame α) (height : α) (c : Cursor α) : Cursor α := check f { c with y := c.y + (height + f.gap) }

theorem check_page (f : Frame α) (c : Cursor α) : (c.check f).page = c.page := by
  unfold check; split <;> rfl

theorem check_y (f : Frame α) (c : Cursor α) : (c.check f).y = c.y := by
  unfold check; split <;> rfl

omit [Length α] in
theorem turn_waiting (f : Frame α) (page : Nat) : (turn f page).waiting = false := rfl

theorem enter_page (f : Frame α) (declared : α) (c : Cursor α) : (c.enter f declared).page = c.page := by
  unfold enter; split
  · exact check_page ..
  · rfl

theorem advance_page (f : Frame α) (height : α) (c : Cursor α) : (c.advance f height).page = c.page :=
  check_page ..

omit [Length α] in
theorem ready_waiting (f : Frame α) (c : Cursor α) : (c.ready f).waiting = false := by
  unfold ready
  split
  · rfl
  · next h => simpa using h

end Cursor

end ReportPress
