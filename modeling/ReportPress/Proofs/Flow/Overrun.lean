import ReportPress.Proofs.Flow.Pages
import ReportPress.Proofs.Flow.Reachable
import ReportPress.Proofs.Number.Exact
/-!
How far down flowing instances may reach. A page break is waited for once the cursor is past the limit, so the limit is
kept by where instances start, not by where they end: an instance that would fit on a new page is put where it starts
at the limit or above, and may still reach below it. Only the first instance on a page after the first surely ends
above the limit, since it starts at the top.

- `Placement.Fits`: an instance that would fit on a new page.
- `layOut_starts_above`: where instances start that would fit on a new page.
- `tall_reaches_below`: one that reaches below the limit.
-/

namespace ReportPress

open Binary64 in
/-- an instance that flows and would fit on a new page: from the top it would end at the limit or above it, by the exact
values of the lengths -/
structure Placement.Fits (j : Job) (c : Canvas) (p : Placement) (top height limit : ℚ) : Prop where
  flows : p.isFlowing = true
  top_eq : toRat? j.template.config.margins.top = some top
  height_eq : toRat? p.part.dimensions.height = some height
  limit_eq : toRat? (j.usableBottom c) = some limit
  nonneg : 0 ≤ height
  fits : top + height ≤ limit

open Binary64 in
/-- **Instances that would fit on a new page** do not start below the limit; and the first instance on a page after the
first ends at the limit or above it -/
theorem layOut_starts_above (j : Job) (root : Value) (w : Work) (f : Flow) (hfirst : w.canvas.pages = firstPage)
    (h : (Flow.layOut j root).run.run (Flow.start j w) = (.ok (), f)) (before after : List Placement) (p : Placement)
    (hcut : f.placements = before ++ p :: after) (top height limit : ℚ)
    (hp : p.Fits j w.canvas top height limit) :
    ¬ j.usableBottom w.canvas < p.base.y ∧ (∀ y, toRat? p.base.y = some y → y ≤ limit) ∧
      (firstPage < p.page → (∀ q ∈ before, q.page ≠ p.page) → ∃ y, toRat? p.base.y = some y ∧ y + height ≤ limit) := by
  obtain ⟨v, -, -, -, hput, -⟩ := layOut_done h
  have hplaced := (Placed.start (j := j) hfirst).scripts root j.template.sortedSections
  have hstart : ¬ j.usableBottom w.canvas < p.base.y := by
    have hwell := hplaced.starts before p after (by rw [List.nil_append, ← hcut, hput]; rfl) hp.flows
    rcases hwell with hwell | ⟨hbase, -, -⟩
    · exact hwell
    · -- at the top margin, which is above the limit because the instance fits below it
      have htop' : toRat? p.base.y = some top := by
        rw [hbase]
        exact hp.top_eq
      rw [lt_iff_toRat hp.limit_eq htop', not_lt]
      exact (le_add_of_nonneg_right hp.nonneg).trans hp.fits
  refine ⟨hstart, ?_, ?_⟩
  · intro y hy
    rw [lt_iff_toRat hp.limit_eq hy, not_lt] at hstart
    exact hstart
  · intro hlater hnew
    have hbase : p.base.y = j.template.config.margins.top :=
      (j.script_paged root hfirst).base_of_first (hput.symm.trans hcut) hlater hnew
    exact ⟨top, by rw [hbase]; exact hp.top_eq, hp.fits⟩

namespace Sample

/-- the last of the rows, which is put on a second page -/
def lastRow : Placement := laid.2.placements.getLast (by decide +kernel)

end Sample

/-- the last row starts on a new page, and ends above the limit there -/
theorem layOut_starts_above_sample :
    Sample.lastRow.page = 2 ∧ ∃ y, Binary64.toRat? Sample.lastRow.base.y = some y ∧ y + 90 ≤ 252 := by
  have hcut : Sample.laid.2.placements = Sample.laid.2.placements.dropLast ++ Sample.lastRow :: [] :=
    (List.dropLast_append_getLast _).symm
  have hfits : Sample.lastRow.Fits Sample.job Sample.page.canvas 15 90 252 := by
    constructor <;> decide +kernel
  have hstarts := layOut_starts_above Sample.job Sample.root Sample.page Sample.laid.2 rfl Sample.laid_done _ _ _ hcut
    15 90 252 hfits
  exact ⟨by decide +kernel, hstarts.2.2 (by decide +kernel) (by decide +kernel)⟩

namespace Sample

/-- the list with rows of a height that leaves no room for two of them above the limit -/
def tall : Job :=
  { job with template := { job.template with sections := [{ rows with dimensions := ⟨100.0, 100.0⟩ }] } }

def tallLaid : Except Failure Unit × Flow := (Flow.layOut tall root).run.run (Flow.start tall page)

/-- the second of the tall rows -/
def tallRow : Placement := tallLaid.2.placements.get ⟨1, by decide +kernel⟩

end Sample

/-- the second of the tall rows would fit on a new page, but starts above the limit and ends below it -/
theorem tall_reaches_below :
    (Flow.layOut Sample.tall Sample.root).run.run (Flow.start Sample.tall Sample.page) = (.ok (), Sample.tallLaid.2) ∧
      Sample.tallRow ∈ Sample.tallLaid.2.placements ∧
      Sample.tallRow.Fits Sample.tall Sample.page.canvas 15 100 252 ∧
      ∃ y, Binary64.toRat? Sample.tallRow.base.y = some y ∧ 252 < y + 100 := by
  have hfits : Sample.tallRow.Fits Sample.tall Sample.page.canvas 15 100 252 := by
    constructor <;> decide +kernel
  exact ⟨Effect.eq_done (by decide +kernel), List.get_mem .., hfits, 170, by decide +kernel, by decide +kernel⟩

end ReportPress
