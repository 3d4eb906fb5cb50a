import ReportPress.Proofs.Paint.FallBack
/-!
What a component that fails leaves in the trace. Texts, images, rectangles and lines are entered as the last step of
painting them, so they leave nothing. A table is painted row by row, and each row is entered when it is painted: if a
table fails at one of its items, its header and the rows before remain, and the placeholder comes after them.

- `Painting.Clean`: a computation that enters nothing if it fails. `clean_paintText` and its like: four of the painters.
- `paintRows_entries`: how far the rows of a table get.
- `Headed`: a table's header is there, and what holds then. `Headed.body`: the font below it.
- `Remains`: what a component that failed may have left.
- `render_remains`: it has left that, and the fallback adds the placeholder. `table_half_painted`: a table that is left
  with its header and a row.
-/

namespace ReportPress

namespace Painting

variable {α β : Type}

/-- a run that fails enters nothing -/
structure Clean (x : Painting α) : Prop where
  run : ∀ w f v, x.run.run w = (.error f, v) → v.trace = w.trace

namespace Clean

theorem of_grows {Q : Issue → Prop} {x : Painting α} (hx : Grows (fun _ => False) Q x) : Clean x :=
  ⟨fun _ _ _ h => (hx.of_run h).trace_eq⟩

theorem pure (a : α) : Clean (pure a) := ⟨fun _ _ _ => nofun⟩

theorem record (component : String) (mark : Mark) (place : Point) (text : String) :
    Clean (record component mark place text) := ⟨fun _ _ _ => nofun⟩

/-- what comes before a computation that is clean may fail as long as it enters nothing -/
theorem bind {x : Painting α} {k : α → Painting β} (hx : Grows (fun _ => False) (fun _ => False) x)
    (hk : ∀ a, Clean (k a)) : Clean (x >>= k) := by
  refine ⟨fun w f v h => ?_⟩
  rcases Effect.run_bind_eq_error h with h | ⟨a, u, hfirst, h⟩
  · exact (hx.of_run h).trace_eq
  · exact ((hk a).run u f v h).trans (hx.of_run hfirst).trace_eq

theorem ite {c : Prop} [Decidable c] {x y : Painting α} (hx : Clean x) (hy : Clean y) :
    Clean (if c then x else y) := by
  split
  · exact hx
  · exact hy

end Clean

end Painting

namespace Paint

open Painting

variable {j : Job} {c : Component} {s : Spot}

/-! ## Painters that enter last -/

theorem clean_paintText : Clean (paintText j c s) := by
  refine .bind (grows_ofExcept _) fun text => .ite (.pure ()) ?_
  refine .bind (grows_styleText j s) fun size => .bind (grows_encode j text) fun text => ?_
  refine .bind (grows_textLines text) fun lines => .bind (grows_paintLines ..) fun _ => ?_
  exact .bind (grows_setTextColour _) fun _ => .record ..

theorem clean_paintImage : Clean (paintImage j c s) := by
  refine .bind (grows_ofExcept _) fun named => ?_
  split
  · exact .pure ()
  · exact .bind (grows_load ..) fun image => .bind (grows_image _ _ _ _) fun _ => .record ..

theorem clean_paintRectangle : Clean (paintRectangle j c s) := by
  refine .bind (grows_ofExcept _) fun fill => .bind (grows_ofExcept _) fun stroke => ?_
  refine .bind (grows_chooseFill fill) fun _ => .bind (grows_chooseStroke _ stroke) fun _ => ?_
  exact .ite (.pure ()) (.bind (grows_call _) fun _ => .record ..)

theorem clean_paintLine : Clean (paintLine j c s) := by
  refine .bind (grows_ofExcept _) fun _ => .bind (grows_setDrawColour _) fun _ => .bind (grows_ofExcept _) fun _ => ?_
  exact .bind (grows_call _) fun _ => .bind (grows_call _) fun _ => .record ..

/-! ## Rows -/

/-- a row of a table as it is entered -/
def rowEntry (c : Component) (mark : Mark) (page : ℕ) (place : Point) (texts : List String) : Painted :=
  ⟨page, c.id, mark, " | ".intercalate texts, roundThousandths place.x, roundThousandths place.y⟩

/-- the texts of an item in the columns of a table, for a font family -/
def shownCells (j : Job) (family : String) (columns : List Column) (item : Value) : List String :=
  match cellTexts item columns with
  | .ok texts => texts.map (j.encodeIn family)
  | .error _ => []

/-- the rows for items, one below the other, the first at `y` -/
def rowEntries (j : Job) (c : Component) (family : String) (page : ℕ) (columns : List Column) (x step : Float) :
    Float → List Value → List Painted
  | _, [] => []
  | y, item :: rest =>
    rowEntry c .tableRow page ⟨x, y⟩ (shownCells j family columns item) ::
      rowEntries j c family page columns x step (y + step) rest

/-- the same font is at hand -/
def SameFace (v w : Work) : Prop := w.canvas.face = v.canvas.face

theorem SameFace.trans {u v w : Work} (h : SameFace u v) (k : SameFace v w) : SameFace u w := Eq.trans k h

/-- putting down cells leaves the font at hand -/
theorem paintCells_face (x y height : Float) (fill : Bool) (cells : List (Float × String)) (w : Work) :
    SameFace w ((paintCells x y height fill cells).run.run w).2 := by
  induction cells generalizing x w with
  | nil => rfl
  | cons cell rest ih =>
    refine Effect.bind_rel .trans rfl fun _ w₁ => Effect.bind_rel .trans ?_ fun shown w₂ =>
      Effect.bind_rel .trans ?_ fun _ w₃ => ih _ w₃
    · exact congrArg (·.canvas.face) (Text.gauges_fit _).state
    · rw [run_draw]
      split
      · next d hd => exact Canvas.face_of_check hd
      · rfl

/-- a row is entered when its cells are painted, and if they cannot be it is not -/
theorem paintRow_entry {mark : Mark} {place : Point} {height : Float} {widths : List Float} {fill : Bool}
    {texts : List String} {w v : Work} {r : Except Failure Unit}
    (h : (paintRow c mark place height widths fill texts).run.run w = (r, v)) :
    SameFace w v ∧ v.canvas.pages = w.canvas.pages ∧
      v.trace = w.trace ++ if r.isOk then [rowEntry c mark w.canvas.pages place texts] else [] := by
  have hface := paintCells_face place.x place.y height fill (widths.zip texts) w
  have hgrow := (grows_paintCells (P := fun _ => False) (Q := fun _ => False) place.x place.y height fill
    (widths.zip texts)).run w
  unfold paintRow at h
  rw [Effect.run_bind] at h
  rcases hcells : (paintCells place.x place.y height fill (widths.zip texts)).run.run w with ⟨_ | _, u⟩
  · rw [hcells] at h hface hgrow
    cases h
    exact ⟨hface, hgrow.canvas.pages, hgrow.trace_eq.trans (List.append_nil _).symm⟩
  · rw [hcells] at h hface hgrow
    cases h
    refine ⟨hface, hgrow.canvas.pages, ?_⟩
    show u.trace ++ [rowEntry c mark u.canvas.pages place texts] = _
    rw [hgrow.trace_eq, show u.canvas.pages = w.canvas.pages from hgrow.canvas.pages]
    rfl

/-- **The rows of a table** are entered one after the other; if they fail at an item, those for the items before it are
there -/
theorem paintRows_entries {columns : List Column} {widths : List Float} {x y : Float} {limits : RowLimits} {i : ℕ}
    {items : List Value} {w v : Work} {r : Except Failure Unit}
    (h : (paintRows j c columns widths x limits y i items).run.run w = (r, v)) :
    ∃ k, (r.isOk = false → k < items.length) ∧ v.trace = w.trace ++
      rowEntries j c w.canvas.family w.canvas.pages columns x limits.height y (items.take k) := by
  induction items generalizing y i w with
  | nil =>
    cases h
    exact ⟨0, nofun, (List.append_nil _).symm⟩
  | cons item rest ih =>
    have hnone : v.trace = w.trace → ∃ k, (r.isOk = false → k < (item :: rest).length) ∧ v.trace = w.trace ++
        rowEntries j c w.canvas.family w.canvas.pages columns x limits.height y ((item :: rest).take k) :=
      fun htrace => ⟨0, fun _ => Nat.succ_pos _, htrace.trans (List.append_nil _).symm⟩
    unfold paintRows at h
    split at h
    · cases h
      exact hnone rfl
    · rw [Effect.run_bind] at h
      rw [ofExcept_run] at h
      cases hitem : cellTexts item columns with
      | error f =>
        rw [hitem] at h
        cases h
        exact hnone rfl
      | ok texts =>
        rw [hitem] at h
        dsimp only at h
        rw [Effect.run_bind, run_encodeAll] at h
        dsimp only at h
        rw [Effect.run_bind] at h
        rcases hrow : (paintRow c .tableRow ⟨x, y⟩ limits.height widths false
          (texts.map (j.encodeIn w.canvas.family))).run.run w with ⟨_ | _, u⟩
        · obtain ⟨-, -, htrace⟩ := paintRow_entry hrow
          rw [hrow] at h
          cases h
          exact hnone (htrace.trans (List.append_nil _))
        · obtain ⟨hface, hpages, htrace⟩ := paintRow_entry hrow
          rw [hrow] at h
          obtain ⟨k, hk, hrest⟩ := ih h
          have hfamily : u.canvas.family = w.canvas.family := congrArg Prod.fst hface
          refine ⟨k + 1, fun hfailed => Nat.succ_lt_succ (hk hfailed), ?_⟩
          rw [hrest, htrace, hfamily, hpages, List.append_assoc, List.take_succ_cons, rowEntries, shownCells, hitem]
          rfl

/-! ## Tables -/

/-- the font family of a table's header, on a surface -/
def headerFamily (j : Job) (canvas : Canvas) (spec : TableSpec) : String :=
  (canvas.faceFor j.family (Font.styleOf (.string spec.headerWeight))).1

/-- the font family of a table's rows, chosen after that of the header -/
def bodyFamily (j : Job) (canvas : Canvas) (spec : TableSpec) : String :=
  (Canvas.faceFor { canvas with family := headerFamily j canvas spec } j.family "").1

/-- the header of a table as it is entered -/
def headerEntry (j : Job) (c : Component) (s : Spot) (canvas : Canvas) (spec : TableSpec) : Painted :=
  rowEntry c .tableHeader canvas.pages s.origin
    ((spec.columns.map (·.header)).map (j.encodeIn (headerFamily j canvas spec)))

/-- the rows of a table below its header -/
def bodyEntries (j : Job) (c : Component) (s : Spot) (canvas : Canvas) (spec : TableSpec) : List Value → List Painted :=
  rowEntries j c (bodyFamily j canvas spec) canvas.pages spec.columns s.origin.x spec.rowHeight
    (s.origin.y + spec.rowHeight)

/-- the header's font is at hand once its style is chosen -/
theorem headerStyle_face {spec : TableSpec} {size : Float} {w v : Work} {u : Unit}
    (h : (headerStyle j c s spec size).run.run w = (.ok u, v)) :
    v.canvas.face = w.canvas.faceFor j.family (Font.styleOf (.string spec.headerWeight)) := by
  obtain ⟨fill, w₁, h₁, h⟩ := Effect.run_bind_eq_ok h
  obtain ⟨border, w₂, h₂, h⟩ := Effect.run_bind_eq_ok h
  obtain ⟨_, w₃, h₃, h⟩ := Effect.run_bind_eq_ok h
  obtain ⟨_, w₄, h₄, h⟩ := Effect.run_bind_eq_ok h
  obtain ⟨_, w₅, h₅, h⟩ := Effect.run_bind_eq_ok h
  obtain ⟨_, w₆, h₆, h₇⟩ := Effect.run_bind_eq_ok h
  obtain ⟨-, rfl⟩ := ofExcept_eq h₁
  obtain ⟨-, rfl⟩ := ofExcept_eq h₂
  obtain ⟨c₃, hc₃, rfl⟩ := draw_eq_ok h₃
  have hface₄ : w₄.canvas.face = c₃.face := by cases h₄; rfl
  have hfonts₄ : w₄.canvas.fonts = c₃.fonts := by cases h₄; rfl
  obtain ⟨c₅, hc₅, rfl⟩ := draw_eq_ok h₅
  obtain ⟨c₆, hc₆, rfl⟩ := draw_eq_ok h₆
  obtain ⟨c₇, hc₇, rfl⟩ := draw_eq_ok h₇
  have hfonts : c₅.fonts = w.canvas.fonts := by
    rw [(Canvas.keeps_fillColour hc₅).fonts, hfonts₄, (Canvas.keeps_drawColour hc₃).fonts]
  have hface : c₅.face = w.canvas.face := by
    rw [Canvas.face_of_check hc₅, hface₄, Canvas.face_of_check hc₃]
  calc c₇.face = c₆.face := Canvas.face_of_check hc₇
    _ = c₅.faceFor j.family _ := Canvas.face_of_setFont hc₆
    _ = w.canvas.faceFor j.family _ := Canvas.faceFor_of_same hfonts (congrArg Prod.fst hface) _ _

/-- the header of a table is on the page: it is entered, and its font is at hand -/
structure Headed (j : Job) (c : Component) (s : Spot) (spec : TableSpec) (w v : Work) : Prop where
  trace : v.trace = w.trace ++ [headerEntry j c s w.canvas spec]
  pages : v.canvas.pages = w.canvas.pages
  fonts : v.canvas.fonts = w.canvas.fonts
  family : v.canvas.family = headerFamily j w.canvas spec

theorem headed_of_row {spec : TableSpec} {size height : Float} {widths : List Float} {w v v' : Work} {u u' : Unit}
    (hstyle : (headerStyle j c s spec size).run.run w = (.ok u, v))
    (hrow : (paintRow c .tableHeader s.origin height widths true
      ((spec.columns.map (·.header)).map (j.encodeIn v.canvas.family))).run.run v = (.ok u', v')) :
    Headed j c s spec w v' := by
  have hstyled := (grows_headerStyle (P := fun _ => False) (Q := fun _ => False) j s spec size).of_run hstyle
  have hpainted := (grows_paintRow (Q := fun _ => False) (by decide) ..).of_run hrow
  have hfamily : v.canvas.family = headerFamily j w.canvas spec := congrArg Prod.fst (headerStyle_face hstyle)
  obtain ⟨hface, hpages, htrace⟩ := paintRow_entry hrow
  refine ⟨?_, hpages.trans hstyled.canvas.pages, hpainted.canvas.fonts.trans hstyled.canvas.fonts,
    (congrArg Prod.fst hface).trans hfamily⟩
  rw [htrace, hstyled.trace_eq, hfamily, hstyled.canvas.pages]
  rfl

/-- the font that is set below the header is that of the rows -/
theorem Headed.body {spec : TableSpec} {size : Float} {w v : Work} {d : Canvas} (h : Headed j c s spec w v)
    (hd : v.canvas.setFont j.family "" size = .ok d) :
    d.family = bodyFamily j w.canvas spec ∧ d.pages = w.canvas.pages := by
  refine ⟨(congrArg Prod.fst (Canvas.face_of_setFont hd)).trans (congrArg Prod.fst ?_),
    (Canvas.keeps_setFont hd).pages.trans h.pages⟩
  exact Canvas.faceFor_of_same (c := { w.canvas with family := headerFamily j w.canvas spec }) h.fonts h.family _ _

/-- what a component that failed has left in the trace: nothing, or, if it is a table, its header and the rows for the
items before the one that it failed at -/
inductive Remains (j : Job) (c : Component) (s : Spot) (canvas : Canvas) : List Painted → Prop
  | nothing : Remains j c s canvas []
  | rows {spec : TableSpec} {owner : Owner} {items : List Value} {k : ℕ} (hkind : c.kind = .table)
      (hspec : TableSpec.read c.content j.settings.layout.tableRowHeight = .ok spec)
      (hitems : Record.resolve s.scope (c.dataBinding.getD "") = .ok (some (.list owner items)))
      (hk : k = 0 ∨ k < items.length) :
      Remains j c s canvas (headerEntry j c s canvas spec :: bodyEntries j c s canvas spec (items.take k))

/-- **A table that fails** has left its header and the rows before, or nothing -/
theorem paintTable_remains (hkind : c.kind = .table) {w v : Work} {f : Failure}
    (h : (paintTable j c s).run.run w = (.error f, v)) :
    ∃ left, Remains j c s w.canvas left ∧ v.trace = w.trace ++ left := by
  have hnothing : v.trace = w.trace → ∃ left, Remains j c s w.canvas left ∧ v.trace = w.trace ++ left :=
    fun htrace => ⟨[], .nothing, htrace.trans (List.append_nil _).symm⟩
  unfold paintTable at h
  obtain h | ⟨spec, w₁, hspec, h₁⟩ := Effect.run_bind_eq_error h
  · exact hnothing (congrArg Work.trace (ofExcept_eq h).2).symm
  obtain ⟨hread, rfl⟩ := ofExcept_eq hspec
  obtain h | ⟨found, w₂, hfound, h₂⟩ := Effect.run_bind_eq_error h₁
  · exact hnothing (congrArg Work.trace (ofExcept_eq h).2).symm
  obtain ⟨hitems, rfl⟩ := ofExcept_eq hfound
  split at h₂
  · next owner items =>
    obtain h | ⟨size, w₃, hsize, h₃⟩ := Effect.run_bind_eq_error h₂
    · exact hnothing (congrArg Work.trace (ofExcept_eq h).2).symm
    obtain ⟨-, rfl⟩ := ofExcept_eq hsize
    obtain h | ⟨seen, w₄, hget, h₄⟩ := Effect.run_bind_eq_error h₃
    · cases h
    cases hget
    dsimp only at h₄
    split at h₄
    · cases h₄
    obtain h | ⟨_, w₅, hstyle, h₅⟩ := Effect.run_bind_eq_error h₄
    · exact hnothing ((grows_headerStyle (Q := fun _ => False) j s spec size).of_run h).trace_eq
    have hstyled := (grows_headerStyle (P := fun _ => False) (Q := fun _ => False) j s spec size).of_run hstyle
    rw [Effect.run_bind, run_encodeAll] at h₅
    obtain h | ⟨_, w₇, hrow, h₇⟩ := Effect.run_bind_eq_error h₅
    · obtain ⟨-, -, htrace⟩ := paintRow_entry h
      exact hnothing ((htrace.trans (List.append_nil _)).trans hstyled.trace_eq)
    -- the header is there now, and stays whatever comes
    have hheader := headed_of_row hstyle hrow
    obtain h | ⟨_, w₈, hfont, h₈⟩ := Effect.run_bind_eq_error h₇
    · have hsame := ((grows_setFont (P := fun _ => False) (Q := fun _ => False) ..).of_run h).trace_eq
      exact ⟨_, .rows (k := 0) hkind hread hitems (.inl rfl), hsame.trans hheader.trace⟩
    obtain ⟨c₈, hc₈, rfl⟩ := draw_eq_ok hfont
    obtain ⟨hbody, hpage⟩ := hheader.body hc₈
    obtain ⟨k, hk, hrows⟩ := paintRows_entries h₈
    refine ⟨_, .rows (k := k) hkind hread hitems (.inr (hk rfl)), ?_⟩
    rw [hrows, hbody, hpage]
    show w₇.trace ++ _ = _
    rw [hheader.trace, List.append_assoc]
    rfl
  · cases h₂

/-! ## Any component -/

/-- the painter of a component that fails has left what may remain of it -/
theorem paint_remains {w v : Work} {f : Failure} (h : (paint j c s).run.run w = (.error f, v)) :
    ∃ left, Remains j c s w.canvas left ∧ v.trace = w.trace ++ left := by
  have hclean : Clean (paint j c s) → ∃ left, Remains j c s w.canvas left ∧ v.trace = w.trace ++ left :=
    fun hpaint => ⟨[], .nothing, (hpaint.run w f v h).trans (List.append_nil _).symm⟩
  cases hkind : c.kind with
  | table =>
    unfold paint at h
    rw [hkind] at h
    exact paintTable_remains hkind h
  | text => exact hclean (by unfold paint; rw [hkind]; exact clean_paintText)
  | image => exact hclean (by unfold paint; rw [hkind]; exact clean_paintImage)
  | rectangle => exact hclean (by unfold paint; rw [hkind]; exact clean_paintRectangle)
  | line => exact hclean (by unfold paint; rw [hkind]; exact clean_paintLine)
  | chart => exact hclean (by unfold paint; rw [hkind]; exact .pure ())

/-- an issue comes of a painter that fails -/
theorem render_issue {w v : Work} {issue : Issue} (h : (render j c s).run.run w = (.ok (some issue), v)) :
    ∃ f notes, (paint j c s).run.run { w with notes := notes } = (.error f, v) := by
  obtain ⟨holds, w₁, hdecide, h₁⟩ := Effect.run_bind_eq_ok h
  obtain rfl : _ = w₁ := congrArg Prod.snd hdecide
  split at h₁
  · rw [Effect.run_tryCatch, Effect.run_bind] at h₁
    rcases hpaint : (paint j c s).run.run _ with ⟨f | u, w₂⟩
    · rw [hpaint] at h₁
      cases h₁
      exact ⟨f, _, hpaint⟩
    · rw [hpaint] at h₁
      cases h₁
  · cases h₁

/-- **A component that gives an issue** has entered nothing, or, if it is a table, its header and the rows for the items
before the one that it failed at; the fallback then enters its placeholder, if it has one, and nothing else. -/
theorem render_remains {w v : Work} {issue : Issue} (h : (render j c s).run.run w = (.ok (some issue), v)) :
    ∃ left, Remains j c s w.canvas left ∧ v.trace = w.trace ++ left ∧
      ((fallBack c s.origin issue).run.run v).2.trace =
        w.trace ++ left ++ (placeholderEntry c s.origin w.canvas.pages).toList := by
  obtain ⟨f, notes, hpaint⟩ := render_issue h
  obtain ⟨left, hleft, htrace⟩ := paint_remains hpaint
  have hpages : v.canvas.pages = w.canvas.pages :=
    ((grows_paint (c := c) (Q := fun _ => False) j s).of_run hpaint).canvas.pages
  obtain ⟨_, u, hback, -, -, hentered⟩ := fallBack_run c s.origin issue v
  refine ⟨left, hleft, htrace, ?_⟩
  rw [hback]
  exact hentered.trans (by rw [htrace, hpages])

namespace Broken

/-- a table of one column, whose field names an item only where it is asked of a list -/
def list : Component :=
  { id := "list", kind := .table, dataBinding := some "rows"
    content := .object .template [("columns", .list .template
      [.object .template [("header", .string "Name"), ("field", .string "²")]])] }

/-- a frame whose width is no number -/
def frame : Component :=
  { id := "frame", kind := .rectangle, style := [("borderColor", .string "#000"), ("borderWidth", .string "wide")] }

def job : Job :=
  { template := { id := "list", displayName := "List", config := {}, sections := [] }, settings := {}
    assets := { fetchers := { web := fun _ => .silence } } }

def picture : Component := { id := "picture", kind := .image, content := .string "logo" }

/-- a job with a logo that was loaded, drawn with what turns all images away -/
def barred : Job :=
  { job with
    assets := { job.assets with logo := some ⟨.png, 60, 20, none⟩ }
    library := ⟨fun _ _ _ => some (.told "no room")⟩ }

def page : Work := { canvas := { width := 210.0, height := 297.0, pages := 1 } }

/-- two items, an object and a list -/
def spot : Spot :=
  ⟨⟨10.0, 20.0⟩, .object .record [("rows", .list .record [.object .record [], .list .record [.int 1]])], none⟩

def rendered (c : Component) : Except Failure (Option Issue) × Work := (render job c spot).run.run page

/-- the picture, had but turned away -/
def turnedAway : Except Failure (Option Issue) × Work := (render barred picture spot).run.run page

/-- the run gave an issue -/
def gaveIssue : Except Failure (Option Issue) × Work → Bool
  | (.ok (some _), _) => true
  | _ => false

theorem exists_issue {r : Except Failure (Option Issue) × Work} (h : gaveIssue r = true) :
    ∃ issue, r = (.ok (some issue), r.2) := by
  obtain ⟨_ | _ | issue, v⟩ := r
  · cases h
  · cases h
  · exact ⟨issue, rfl⟩

end Broken

/-- a table that fails at its second item, and a frame and an image that is turned away, which leave nothing -/
theorem render_remains_sample :
    (∃ issue left, (render Broken.job Broken.list Broken.spot).run.run Broken.page =
        (.ok (some issue), (Broken.rendered Broken.list).2) ∧
      Remains Broken.job Broken.list Broken.spot Broken.page.canvas left ∧
      (Broken.rendered Broken.list).2.trace = [] ++ left ∧ left.map (·.mark) = [.tableHeader, .tableRow]) ∧
    (∃ issue left, (render Broken.job Broken.frame Broken.spot).run.run Broken.page =
        (.ok (some issue), (Broken.rendered Broken.frame).2) ∧
      Remains Broken.job Broken.frame Broken.spot Broken.page.canvas left ∧ left.map (·.mark) = []) ∧
    (∃ issue left, (render Broken.barred Broken.picture Broken.spot).run.run Broken.page =
        (.ok (some issue), Broken.turnedAway.2) ∧
      Remains Broken.barred Broken.picture Broken.spot Broken.page.canvas left ∧ left.map (·.mark) = []) := by
  have hlist : (Broken.rendered Broken.list).2.trace.map (·.mark) = [.tableHeader, .tableRow] := by decide +kernel
  have hframe : (Broken.rendered Broken.frame).2.trace.map (·.mark) = [] := by decide +kernel
  have himage : Broken.turnedAway.2.trace.map (·.mark) = [] := by decide +kernel
  obtain ⟨issue, hissue⟩ := Broken.exists_issue (r := Broken.rendered Broken.list) (by decide +kernel)
  obtain ⟨issue', hissue'⟩ := Broken.exists_issue (r := Broken.rendered Broken.frame) (by decide +kernel)
  obtain ⟨issue'', hissue''⟩ := Broken.exists_issue (r := Broken.turnedAway) (by decide +kernel)
  obtain ⟨left, hleft, htrace, -⟩ := render_remains hissue
  obtain ⟨left', hleft', htrace', -⟩ := render_remains hissue'
  obtain ⟨left'', hleft'', htrace'', -⟩ := render_remains hissue''
  refine ⟨⟨issue, left, hissue, hleft, htrace, ?_⟩, ⟨issue', left', hissue', hleft', ?_⟩, issue'', left'', hissue'',
    hleft'', ?_⟩
  · rw [htrace] at hlist
    exact hlist
  · rw [htrace'] at hframe
    exact hframe
  · rw [htrace''] at himage
    exact himage

/-- a table that gives an issue may have entered its header and a row, and they stay above the placeholder -/
theorem table_half_painted :
    ∃ issue, (render Broken.job Broken.list Broken.spot).run.run Broken.page =
        (.ok (some issue), (Broken.rendered Broken.list).2) ∧
      (Broken.rendered Broken.list).2.trace.map (·.mark) = [.tableHeader, .tableRow] ∧
      ((fallBack Broken.list Broken.spot.origin issue).run.run (Broken.rendered Broken.list).2).2.trace.map (·.mark) =
        [.tableHeader, .tableRow, .placeholder] := by
  have hlist : (Broken.rendered Broken.list).2.trace.map (·.mark) = [.tableHeader, .tableRow] := by decide +kernel
  obtain ⟨issue, hissue⟩ := Broken.exists_issue (r := Broken.rendered Broken.list) (by decide +kernel)
  obtain ⟨_, v, hback, -, -, hentered⟩ := fallBack_run Broken.list Broken.spot.origin issue (Broken.rendered Broken.list).2
  refine ⟨issue, hissue, hlist, ?_⟩
  rw [hback]
  show v.trace.map _ = _
  rw [hentered, List.map_append, hlist]
  rfl

end Paint

end ReportPress
