import Mathlib.Order.Bounds.Basic
import ReportPress.Proofs.Paint.Tables
import ReportPress.Proofs.Template.Widths
/-!
How far the rows of a table go, and what is put on the page for each of them. Rows stop for one of three reasons: there
is no item left, there may be no more of them, or the next one would reach below the usable height. The header goes by
the last of these alone, and a table without room for it leaves no mark at all. A row is one cell for each column.

- `Canvas.cells`: the cells among the calls on the surface. `Painting.Cellless`: computations that put down none.
- `Cut`: what is shown of a text in a cell. `fit_cut`: by induction on what is cut away.
- `rowsThatFit_isGreatest`: where rows stop, by induction on the items.
- `paintCells_cells`, `paintRow_cells`, `paintRows_painted`: a row is its cells and its entry; the rows, by induction on
  the items.
- `paintTable_rows`: a whole table that is painted to its end.
-/

namespace ReportPress

/-! ## Cells on the surface -/

def Call.isCell : Call → Bool
  | .cell .. => true
  | _ => false

namespace Canvas

variable {c d : Canvas}

/-- the cells that were put down, in order -/
def cells (c : Canvas) : List Call := c.calls.filter Call.isCell

theorem cells_of_calls {call : Call} (h : d.calls = c.calls ++ [call]) (hcall : call.isCell = false) :
    d.cells = c.cells := by
  unfold cells
  rw [h, List.filter_append, List.filter_cons_of_neg (by rw [hcall]; exact Bool.false_ne_true), List.filter_nil,
    List.append_nil]

/-- a call that is checked beforehand is made if the check is passed -/
theorem calls_of_check {check : Except Failure Unit} {call : Call} (h : check.map (fun _ => c.record call) = .ok d) :
    d.calls = c.calls ++ [call] := by
  cases check with
  | error f => cases h
  | ok u =>
    cases h
    rfl

end Canvas

namespace Painting

variable {α β : Type}

/-- no run puts a cell on the surface, whether it fails or not -/
structure Cellless (x : Painting α) : Prop where
  run : ∀ w, (x.run.run w).2.canvas.cells = w.canvas.cells

namespace Cellless

theorem of_run {x : Painting α} (hx : Cellless x) {w v : Work} {r : Except Failure α} (h : x.run.run w = (r, v)) :
    v.canvas.cells = w.canvas.cells := by
  have hcells := hx.run w
  rwa [h] at hcells

theorem bind {x : Painting α} {k : α → Painting β} (hx : Cellless x) (hk : ∀ a, Cellless (k a)) :
    Cellless (x >>= k) :=
  ⟨fun w => Effect.bind_rel (R := fun u v : Work => v.canvas.cells = u.canvas.cells) (fun h k => k.trans h) (hx.run w)
    fun a => (hk a).run⟩

theorem ofExcept (r : Except Failure α) : Cellless (ofExcept r) := ⟨fun _ => rfl⟩

theorem call {c : Call} (hmade : c.isCarriedOut = true) (h : c.isCell = false) : Cellless (call c hmade) :=
  ⟨fun _ => Canvas.cells_of_calls rfl h⟩

theorem draw {f : Canvas → Except Failure Canvas} (h : ∀ c d, f c = .ok d → d.cells = c.cells) :
    Cellless (draw f) := by
  refine ⟨fun w => ?_⟩
  rw [run_draw]
  split
  · next c hc => exact h _ _ hc
  · rfl

theorem setFont (family style : String) (size : Float) : Cellless (Painting.draw (·.setFont family style size)) :=
  draw fun _ _ h => Canvas.cells_of_calls (Canvas.setFont_calls h) rfl

end Cellless

end Painting

/-! ## Texts in cells -/

namespace Text

/-- what may be shown of a text in a cell: all of it, nothing, or a beginning with three dots behind it -/
inductive Cut : List Char → List Char → Prop
  | whole (text : List Char) : Cut text text
  | nothing (text : List Char) : Cut text []
  | beginning {kept : List Char} (rest : List Char) (h : kept ≠ []) : Cut (kept ++ rest) (kept ++ ellipsis)

theorem Cut.eq_nil {text shown : List Char} (h : Cut text shown) (htext : text = []) : shown = [] := by
  cases h with
  | whole => exact htext
  | nothing => rfl
  | beginning rest hkept => exact absurd (List.append_eq_nil_iff.1 htext).1 hkept

variable {limit : Float} {w v : Work}

/-- what is left of a text that is cut from its end: nothing, or a beginning with three dots behind it -/
theorem trimToFit_cut {reversed shown : List Char}
    (h : (trimToFit Painting.measure limit reversed).run.run w = (.ok shown, v)) :
    shown = [] ∨ ∃ kept rest, kept ≠ [] ∧ reversed.reverse = kept ++ rest ∧ shown = kept ++ ellipsis := by
  induction reversed generalizing w with
  | nil =>
    cases h
    exact .inl rfl
  | cons x rest ih =>
    unfold trimToFit at h
    obtain ⟨width, u, -, h⟩ := Effect.run_bind_eq_ok h
    split at h
    · rcases ih h with hnone | ⟨kept, others, hkept, hrest, hshown⟩
      · exact .inl hnone
      · refine .inr ⟨kept, others ++ [x], hkept, ?_, hshown⟩
        rw [List.reverse_cons, hrest, List.append_assoc]
    · cases h
      exact .inr ⟨(x :: rest).reverse, [], by simp, (List.append_nil _).symm, rfl⟩

theorem fit_cut {text shown : List Char} (h : (fit Painting.measure limit text).run.run w = (.ok shown, v)) :
    Cut text shown := by
  unfold fit at h
  obtain ⟨width, u, -, h⟩ := Effect.run_bind_eq_ok h
  split at h
  · cases h
    exact .whole text
  · rcases trimToFit_cut h with rfl | ⟨kept, rest, hkept, htext, rfl⟩
    · exact .nothing text
    · rw [List.reverse_reverse] at htext
      rw [htext]
      exact .beginning rest hkept

end Text

namespace Paint

open Painting

variable {j : Job} {c : Component} {s : Spot} {w v : Work} {u : Unit}

/-! ## Where rows stop -/

/-- how far down a row starts: each row starts where the one above it ends -/
def rowTop (height y : Float) : ℕ → Float
  | 0 => y
  | k + 1 => rowTop height y k + height

theorem rowTop_next (height y : Float) (k : ℕ) : rowTop height (y + height) k = rowTop height y (k + 1) := by
  induction k with
  | zero => rfl
  | succ k ih =>
    rw [rowTop, ih]
    rfl

/-- **Where rows stop**: there are as many as there are items, as there may be, and as end at the bottom or above -/
theorem rowsThatFit_isGreatest (limits : RowLimits) (y : Float) (i : ℕ) (items : List Value) :
    IsGreatest {m : ℕ | m ≤ items.length ∧ ∀ k < m, ((i + k : ℕ) : ℤ) < limits.count ∧
      ¬ rowTop limits.height y k + limits.height > limits.bottom} (rowsThatFit limits y i items) := by
  induction items generalizing y i with
  | nil => exact ⟨⟨le_rfl, fun k hk => absurd hk (Nat.not_lt_zero k)⟩, fun m hm => hm.1⟩
  | cons item rest ih =>
    unfold rowsThatFit
    have hfirst : (limits.count ≤ i || decide (y + limits.height > limits.bottom)) = true ↔
        ¬ (((i + 0 : ℕ) : ℤ) < limits.count ∧ ¬ rowTop limits.height y 0 + limits.height > limits.bottom) := by
      rw [Bool.or_eq_true, decide_eq_true_iff, decide_eq_true_iff, Classical.not_and_iff_not_or_not, Classical.not_not,
        Int.not_lt]
      rfl
    by_cases hstop : (limits.count ≤ i || decide (y + limits.height > limits.bottom)) = true
    · rw [if_pos hstop]
      refine ⟨⟨Nat.zero_le _, fun k hk => absurd hk (Nat.not_lt_zero k)⟩, fun m hm => ?_⟩
      cases m with
      | zero => exact le_rfl
      | succ m => exact absurd (hm.2 0 (Nat.succ_pos m)) (hfirst.1 hstop)
    · rw [if_neg hstop]
      obtain ⟨⟨hlength, hrows⟩, hupper⟩ := ih (y + limits.height) (i + 1)
      have hshift : ∀ k, i + 1 + k = i + (k + 1) := fun k => Nat.add_right_comm i 1 k
      simp only [rowTop_next, hshift] at hrows hupper
      refine ⟨⟨Nat.succ_le_succ hlength, fun k hk => ?_⟩, fun m hm => ?_⟩
      · cases k with
        | zero => exact Classical.not_not.1 (mt hfirst.2 hstop)
        | succ k => exact hrows k (Nat.lt_of_succ_lt_succ hk)
      · cases m with
        | zero => exact Nat.zero_le _
        | succ m =>
          have hfewer := hupper ⟨Nat.le_of_succ_le_succ hm.1, fun k hk => hm.2 (k + 1) (Nat.succ_lt_succ hk)⟩
          exact Nat.succ_le_succ hfewer

/-! ## Rows on the page -/

/-- a cell of a width, with what can be shown of a text -/
def IsCell (height : Float) (fill : Bool) (cell : Float × String) (call : Call) : Prop :=
  ∃ shown, Text.Cut cell.2.toList shown ∧ call = .cell cell.1 height (String.ofList shown) fill

/-- **The cells of a row** are put down one after the other -/
theorem paintCells_cells {x y height : Float} {fill : Bool} {cells : List (Float × String)}
    (h : (paintCells x y height fill cells).run.run w = (.ok u, v)) :
    ∃ line, v.canvas.cells = w.canvas.cells ++ line ∧ List.Forall₂ (IsCell height fill) cells line := by
  induction cells generalizing x w with
  | nil =>
    cases h
    exact ⟨[], (List.append_nil _).symm, .nil⟩
  | cons cell rest ih =>
    obtain ⟨width, text⟩ := cell
    unfold paintCells at h
    obtain ⟨_, w₁, hmove, h⟩ := Effect.run_bind_eq_ok h
    obtain ⟨shown, w₂, hfit, h⟩ := Effect.run_bind_eq_ok h
    obtain ⟨_, w₃, hcell, h⟩ := Effect.run_bind_eq_ok h
    obtain ⟨line, hline, hcells⟩ := ih h
    have hmoved : w₁.canvas.cells = w.canvas.cells := (Cellless.call rfl rfl).of_run hmove
    have hsame : w₂ = w₁ := (congrArg Prod.snd hfit).symm.trans (Text.gauges_fit text.toList).state
    obtain ⟨d, hd, rfl⟩ := draw_eq_ok hcell
    have hput : d.cells = w.canvas.cells ++ [.cell width height (String.ofList shown) fill] := by
      unfold Canvas.cells at hmoved ⊢
      rw [Canvas.calls_of_check hd, List.filter_append, hsame, hmoved]
      rfl
    refine ⟨_ :: line, ?_, .cons ⟨shown, Text.fit_cut hfit, rfl⟩ hcells⟩
    rw [hline, hput, List.append_assoc]
    rfl

theorem paintRow_cells {mark : Mark} {place : Point} {height : Float} {widths : List Float} {fill : Bool}
    {texts : List String} (h : (paintRow c mark place height widths fill texts).run.run w = (.ok u, v)) :
    ∃ line, v.canvas.cells = w.canvas.cells ++ line ∧ List.Forall₂ (IsCell height fill) (widths.zip texts) line := by
  obtain ⟨_, w₁, hcells, hrecord⟩ := Effect.run_bind_eq_ok h
  have hline := paintCells_cells hcells
  cases hrecord
  exact hline

/-- the cells of a row for an item: what can be shown of the item's texts in the columns -/
def IsRow (j : Job) (family : String) (columns : List Column) (widths : List Float) (height : Float) (item : Value)
    (line : List Call) : Prop :=
  ∃ texts, cellTexts item columns = .ok texts ∧
    List.Forall₂ (IsCell height false) (widths.zip (texts.map (j.encodeIn family))) line

/-- **The rows of a table** that are painted to their end: as many as there is room for, each with its cells and its
entry -/
theorem paintRows_painted {columns : List Column} {widths : List Float} {x y : Float} {limits : RowLimits} {i : ℕ}
    {items : List Value} (h : (paintRows j c columns widths x limits y i items).run.run w = (.ok u, v)) :
    v.trace = w.trace ++ rowEntries j c w.canvas.family w.canvas.pages columns x limits.height y
        (items.take (rowsThatFit limits y i items)) ∧
      ∃ lines : List (List Call), v.canvas.cells = w.canvas.cells ++ lines.flatten ∧
        List.Forall₂ (IsRow j w.canvas.family columns widths limits.height)
          (items.take (rowsThatFit limits y i items)) lines := by
  induction items generalizing y i w with
  | nil =>
    cases h
    exact ⟨(List.append_nil _).symm, [], (List.append_nil _).symm, .nil⟩
  | cons item rest ih =>
    unfold paintRows at h
    unfold rowsThatFit
    split at h
    · next hstop =>
      cases h
      rw [if_pos hstop]
      exact ⟨(List.append_nil _).symm, [], (List.append_nil _).symm, .nil⟩
    · next hgo =>
      rw [if_neg hgo]
      obtain ⟨texts, w₁, hread, h⟩ := Effect.run_bind_eq_ok h
      obtain ⟨htexts, rfl⟩ := ofExcept_eq hread
      rw [Effect.run_bind, run_encodeAll] at h
      dsimp only at h
      obtain ⟨_, w₂, hrow, h⟩ := Effect.run_bind_eq_ok h
      obtain ⟨hface, hpages, htrace⟩ := paintRow_entry hrow
      obtain ⟨line, hline, hcells⟩ := paintRow_cells hrow
      obtain ⟨hentries, lines, hlines, hrows⟩ := ih h
      have hfamily : w₂.canvas.family = w.canvas.family := congrArg Prod.fst hface
      rw [hfamily] at hrows
      refine ⟨?_, line :: lines, ?_, ?_⟩
      · rw [hentries, htrace, hfamily, hpages, List.append_assoc, List.take_succ_cons, rowEntries, shownCells, htexts]
        rfl
      · rw [hlines, hline, List.flatten_cons, List.append_assoc]
      · rw [List.take_succ_cons]
        exact .cons ⟨texts, htexts, hcells⟩ hrows

/-! ## Cells and columns -/

/-- the texts of an item are those of its cells, one for each column -/
theorem cellTexts_forall₂ {item : Value} {columns : List Column} {texts : List String}
    (h : cellTexts item columns = .ok texts) :
    List.Forall₂ (fun column text => cellText item column = .ok text) columns texts := by
  induction columns generalizing texts with
  | nil =>
    cases h
    exact .nil
  | cons column rest ih =>
    unfold cellTexts at h
    obtain ⟨text, htext, h⟩ := Effect.except_bind_eq_ok h
    obtain ⟨others, hothers, h⟩ := Effect.except_bind_eq_ok h
    cases h
    exact .cons htext (ih hothers)

/-- a column has nothing to show of an item: it has no field, or the item has no such field -/
def IsBlank (column : Column) (item : Value) : Prop :=
  column.field = "" ∨ Record.resolve item column.field = .ok none

theorem cellText_of_blank {item : Value} {column : Column} (h : IsBlank column item) :
    cellText item column = .ok "" := by
  unfold cellText
  rcases h with hfield | hnone
  · rw [if_pos hfield]
  · split
    · rfl
    · rw [hnone]
      rfl

theorem encodeIn_empty (j : Job) (family : String) : j.encodeIn family "" = "" := by
  unfold Job.encodeIn
  split
  · rfl
  · decide

/-- the cell of a column that has nothing to show -/
theorem IsCell.blank {height width : Float} {fill : Bool} {call : Call} (h : IsCell height fill (width, "") call) :
    call = .cell width height "" fill := by
  obtain ⟨shown, hcut, rfl⟩ := h
  rw [hcut.eq_nil rfl]

/-- the cells of a row for an item, one for each column: each shows what can be shown of the text of its column, and the
cells of columns that have nothing to show are empty -/
structure RowCells (j : Job) (family : String) (columns : List Column) (widths : List Float) (height : Float)
    (item : Value) (row : List Call) : Prop where
  texts : IsRow j family columns widths height item row
  one_each : row.length = columns.length
  blank : ∀ (k : ℕ) column width, columns[k]? = some column → widths[k]? = some width → IsBlank column item →
    row[k]? = some (Call.cell width height "" false)

theorem IsRow.cells {family : String} {columns : List Column} {widths : List Float} {height : Float} {item : Value}
    {line : List Call} (hwidths : widths.length = columns.length)
    (h : IsRow j family columns widths height item line) : RowCells j family columns widths height item line := by
  obtain ⟨texts, htexts, hline⟩ := h
  have hcolumns := cellTexts_forall₂ htexts
  have hlength : line.length = columns.length := by
    rw [← hline.length_eq, List.length_zip, List.length_map, ← hcolumns.length_eq, hwidths, Nat.min_self]
  refine ⟨⟨texts, htexts, hline⟩, hlength, fun k column width hcolumn hwidth hblank => ?_⟩
  obtain ⟨hk, rfl⟩ := List.getElem?_eq_some_iff.1 hcolumn
  obtain ⟨hk', rfl⟩ := List.getElem?_eq_some_iff.1 hwidth
  have htexts' : k < texts.length := hcolumns.length_eq ▸ hk
  have hline' : k < line.length := hlength.symm ▸ hk
  have htext : texts[k] = "" := by
    have hread := hcolumns.get hk htexts'
    rw [List.get_eq_getElem, List.get_eq_getElem, cellText_of_blank hblank] at hread
    exact (Except.ok.inj hread).symm
  have hcell := hline.get (hline.length_eq ▸ hline') hline'
  simp only [List.get_eq_getElem, List.getElem_zip, List.getElem_map, htext, encodeIn_empty] at hcell
  rw [List.getElem?_eq_getElem hline', hcell.blank]

/-! ## The whole table -/

theorem rowEntries_eq_mapIdx (family : String) (page : ℕ) (columns : List Column) (x step y : Float)
    (items : List Value) :
    rowEntries j c family page columns x step y items = items.mapIdx fun i item =>
      rowEntry c .tableRow page ⟨x, rowTop step y i⟩ (shownCells j family columns item) := by
  induction items generalizing y with
  | nil => rfl
  | cons item rest ih =>
    rw [rowEntries, ih, List.mapIdx_cons]
    simp only [rowTop_next]
    rfl

theorem cellless_headerStyle (spec : TableSpec) (size : Float) : Cellless (headerStyle j c s spec size) :=
  (Cellless.ofExcept _).bind fun _ => (Cellless.ofExcept _).bind fun _ =>
    (Cellless.draw fun _ _ h => Canvas.cells_of_calls (Canvas.calls_of_check h) rfl).bind fun _ =>
    (Cellless.call rfl rfl).bind fun _ =>
    (Cellless.draw fun _ _ h => Canvas.cells_of_calls (Canvas.calls_of_check h) rfl).bind fun _ =>
    (Cellless.setFont ..).bind fun _ =>
    Cellless.draw fun _ _ h => Canvas.cells_of_calls (Canvas.calls_of_check h) rfl

/-- a table has a width for each of its columns -/
theorem widths_length (c : Component) (spec : TableSpec) :
    (columnWidths (tableWidth c) (spec.columns.map (·.width))).length = spec.columns.length := by
  rw [columnWidths_length, List.length_map]

/-- the cells of a header, one for each column -/
theorem exists_header {spec : TableSpec} {size : Float} {v' : Work} {u' : Unit}
    (hstyle : (headerStyle j c s spec size).run.run w = (.ok u, v))
    (hrow : (paintRow c .tableHeader s.origin spec.rowHeight
      (columnWidths (tableWidth c) (spec.columns.map (·.width))) true
      ((spec.columns.map (·.header)).map (j.encodeIn v.canvas.family))).run.run v = (.ok u', v')) :
    ∃ header, v'.canvas.cells = w.canvas.cells ++ header ∧ header.length = spec.columns.length ∧
      List.Forall₂ (IsCell spec.rowHeight true) ((columnWidths (tableWidth c) (spec.columns.map (·.width))).zip
        ((spec.columns.map (·.header)).map (j.encodeIn (headerFamily j w.canvas spec)))) header := by
  obtain ⟨header, hheader, hcells⟩ := paintRow_cells hrow
  have hfamily : v.canvas.family = headerFamily j w.canvas spec := congrArg Prod.fst (headerStyle_face hstyle)
  refine ⟨header, ?_, ?_, hfamily ▸ hcells⟩
  · rw [hheader, (cellless_headerStyle spec size).of_run hstyle]
  · rw [← hcells.length_eq, List.length_zip, List.length_map, List.length_map, widths_length, Nat.min_self]

/-- how many rows there are below the header: the most there can be -/
theorem tableRows_isGreatest (j : Job) (s : Spot) (canvas : Canvas) (spec : TableSpec) (items : List Value) :
    IsGreatest {m : ℕ | m ≤ items.length ∧ m ≤ j.settings.layout.tableMaxRows.toNat ∧
      ∀ k < m, ¬ rowTop spec.rowHeight s.origin.y (k + 1) + spec.rowHeight > j.usableBottom canvas}
      (tableRows j s canvas spec items) := by
  have hcount : ∀ m : ℕ, (∀ k < m, ((0 + k : ℕ) : ℤ) < j.settings.layout.tableMaxRows) ↔
      m ≤ j.settings.layout.tableMaxRows.toNat := by
    intro m
    constructor
    · intro h
      cases m with
      | zero => exact Nat.zero_le _
      | succ m =>
        have hlast := h m (Nat.lt_succ_self m)
        omega
    · intro h k hk
      omega
  unfold tableRows
  have hgreatest := rowsThatFit_isGreatest ⟨spec.rowHeight, j.usableBottom canvas, j.settings.layout.tableMaxRows⟩
    (s.origin.y + spec.rowHeight) 0 items
  simpa only [rowTop_next, forall₂_and, hcount] using hgreatest

/-- **A table bound to a list** that is painted to its end leaves all as it is without room for its header. With room for
it there are its header and, one below the other, as many rows as there are items, as there may be, and as end at the
usable bottom or above, each with one cell for each column. -/
theorem paintTable_rows {owner : Owner} {items : List Value} (hrun : (paintTable j c s).run.run w = (.ok u, v))
    (hitems : Record.resolve s.scope (c.dataBinding.getD "") = .ok (some (.list owner items))) :
    ∃ spec, TableSpec.read c.content j.settings.layout.tableRowHeight = .ok spec ∧
      let widths := columnWidths (tableWidth c) (spec.columns.map (·.width))
      (s.origin.y + spec.rowHeight > j.usableBottom w.canvas → v = w) ∧
      (¬ s.origin.y + spec.rowHeight > j.usableBottom w.canvas → ∃ m header lines,
        IsGreatest {m : ℕ | m ≤ items.length ∧ m ≤ j.settings.layout.tableMaxRows.toNat ∧
          ∀ k < m, ¬ rowTop spec.rowHeight s.origin.y (k + 1) + spec.rowHeight > j.usableBottom w.canvas} m ∧
        v.trace = w.trace ++ headerEntry j c s w.canvas spec :: (items.take m).mapIdx (fun k item =>
          rowEntry c .tableRow w.canvas.pages ⟨s.origin.x, rowTop spec.rowHeight s.origin.y (k + 1)⟩
            (shownCells j (bodyFamily j w.canvas spec) spec.columns item)) ∧
        v.canvas.cells = w.canvas.cells ++ header ++ lines.flatten ∧
        (header.length = spec.columns.length ∧ List.Forall₂ (IsCell spec.rowHeight true)
          (widths.zip ((spec.columns.map (·.header)).map (j.encodeIn (headerFamily j w.canvas spec)))) header) ∧
        List.Forall₂ (RowCells j (bodyFamily j w.canvas spec) spec.columns widths spec.rowHeight) (items.take m)
          lines) := by
  unfold paintTable at hrun
  obtain ⟨spec, w₁, hspec, h₁⟩ := Effect.run_bind_eq_ok hrun
  obtain ⟨hread, rfl⟩ := ofExcept_eq hspec
  obtain ⟨found, w₂, hfound, h₂⟩ := Effect.run_bind_eq_ok h₁
  obtain ⟨hbound, rfl⟩ := ofExcept_eq hfound
  obtain rfl : some (.list owner items) = found := Except.ok.inj (hitems.symm.trans hbound)
  obtain ⟨size, w₃, hsize, h₃⟩ := Effect.run_bind_eq_ok h₂
  obtain ⟨-, rfl⟩ := ofExcept_eq hsize
  obtain ⟨seen, w₄, hget, h₄⟩ := Effect.run_bind_eq_ok h₃
  cases hget
  dsimp only at h₄
  refine ⟨spec, hread, ?_⟩
  by_cases hroom : s.origin.y + spec.rowHeight > j.usableBottom w.canvas
  · rw [if_pos hroom] at h₄
    cases h₄
    exact ⟨fun _ => rfl, fun hno => absurd hroom hno⟩
  rw [if_neg hroom] at h₄
  refine ⟨fun hyes => absurd hyes hroom, fun _ => ?_⟩
  obtain ⟨_, w₅, hstyle, h₅⟩ := Effect.run_bind_eq_ok h₄
  rw [Effect.run_bind, run_encodeAll] at h₅
  dsimp only at h₅
  obtain ⟨_, w₆, hrow, h₆⟩ := Effect.run_bind_eq_ok h₅
  have hheaded := headed_of_row hstyle hrow
  obtain ⟨header, hheader, hlength, htexts⟩ := exists_header hstyle hrow
  obtain ⟨_, w₇, hfont, h₇⟩ := Effect.run_bind_eq_ok h₆
  have hfontCells := (Cellless.setFont ..).of_run hfont
  obtain ⟨c₇, hc₇, rfl⟩ := draw_eq_ok hfont
  obtain ⟨hbody, hpage⟩ := hheaded.body hc₇
  obtain ⟨hentries, lines, hlines, hrows⟩ := paintRows_painted h₇
  have hbelow : v.trace =
      w₆.trace ++ bodyEntries j c s w.canvas spec (items.take (tableRows j s w.canvas spec items)) := by
    rw [hentries, hbody, hpage]
    rfl
  refine ⟨tableRows j s w.canvas spec items, header, lines, tableRows_isGreatest .., ?_, ?_, ⟨hlength, htexts⟩, ?_⟩
  · rw [hbelow, hheaded.trace, bodyEntries, rowEntries_eq_mapIdx, List.append_assoc]
    simp only [rowTop_next]
    rfl
  · rw [hlines, hfontCells, hheader]
  · rw [← hbody]
    exact hrows.imp fun _ _ => IsRow.cells (widths_length c spec)

namespace Roster

/-- a table of two columns, the second of them without a field -/
def table : Component :=
  { id := "roster", kind := .table, dataBinding := some "rows"
    content := .object .template [("columns", .list .template
      [.object .template [("field", .string "name"), ("header", .string "Name")],
        .object .template [("header", .string "Mark")]])] }

def spec : TableSpec := ⟨[⟨"name", "Name", none⟩, ⟨"", "Mark", none⟩], 8.0, .null, "bold"⟩

def item (name : String) : Value := .object .record [("name", .string name)]

def items : List Value := [item "a", item "b", item "c"]

def spot : Spot := ⟨⟨10.0, 20.0⟩, .object .record [("rows", .list .record items)], none⟩

/-- a job with two rows at most in a table -/
def job : Job := { Broken.job with settings := { layout := { tableMaxRows := 2 } } }

def painted : Except Failure Unit × Work := (paintTable job table spot).run.run Broken.page

theorem painted_done : (paintTable job table spot).run.run Broken.page = (.ok (), painted.2) :=
  Effect.eq_done (by decide +kernel)

end Roster

/-- the header and the rows for two of three items, each with an empty cell in its second column -/
theorem paintTable_rows_sample :
    Roster.painted.2.trace.map (·.mark) = [.tableHeader, .tableRow, .tableRow] ∧
      ∃ header lines, Roster.painted.2.canvas.cells = header ++ List.flatten lines ∧ header.length = 2 ∧
        lines.length = 2 ∧ ∀ row ∈ lines, row.length = 2 ∧ ∃ width, row[1]? = some (Call.cell width 8.0 "" false) := by
  refine ⟨by decide +kernel, ?_⟩
  have hitems : Record.resolve Roster.spot.scope (Roster.table.dataBinding.getD "") =
      .ok (some (.list .record Roster.items)) := rfl
  obtain ⟨spec, hread, -, hroom⟩ := paintTable_rows Roster.painted_done hitems
  obtain rfl : Roster.spec = spec := Except.ok.inj hread
  obtain ⟨m, header, lines, hm, -, hcells, ⟨hheader, -⟩, hlines⟩ := hroom (by decide +kernel)
  have htwo : tableRows Roster.job Roster.spot Broken.page.canvas Roster.spec Roster.items = 2 := by decide +kernel
  obtain rfl : m = 2 := (hm.unique (tableRows_isGreatest ..)).trans htwo
  refine ⟨header, lines, hcells, hheader, hlines.length_eq.symm, fun row hmem => ?_⟩
  obtain ⟨k, hk, rfl⟩ := List.getElem_of_mem hmem
  have hrow := hlines.get (hlines.length_eq ▸ hk) hk
  have hwidths : 1 < (columnWidths (tableWidth Roster.table) (Roster.spec.columns.map (·.width))).length := by
    rw [columnWidths_length]
    decide
  exact ⟨hrow.one_each, _, hrow.blank 1 ⟨"", "Mark", none⟩ _ rfl (List.getElem?_eq_getElem hwidths) (.inl rfl)⟩

end Paint

end ReportPress
