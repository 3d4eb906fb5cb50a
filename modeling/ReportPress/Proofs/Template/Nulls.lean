import Mathlib.Data.List.Forall2
import ReportPress.Proofs.Template.Reader
import ReportPress.Template.Table
/-!
Entries of a table's description that are null, and the same description without them. What is read of it is the same,
but for two entries: a header that is null is the text of null, where a column without one is headed by its field, and a
height of rows that is null hides the height of cells.

- `Thins`: fields with some of the optional entries left out, where they are null. `Thins.get?`: what becomes of each.
- `Thinned`, `PartThinned`: the same of a column, and of each part of a table's content.
- `readColumn_thinned`, `mapItems_thinned`: the columns that are read, one and all. `heightField_thinned`: the height.
- `read_thinned`: the whole description, and just when leaving the entries out makes no difference.
-/

namespace ReportPress

/-- the entries that a table's description need not have -/
def TableSpec.optionalWords : List String :=
  ["header", "field", "width", "rowHeight", "cellHeight", "headerStyle", "backgroundColor", "fontWeight"]

namespace Fields

/-- fields without some of the optional ones that are null; what is kept is related by `R` -/
inductive Thins (R : String → Value → Value → Prop) : Fields → Fields → Prop where
  | nil : Thins R [] []
  | keep {k : String} {v v' : Value} {c c' : Fields} (hv : R k v v') (h : Thins R c c') :
      Thins R ((k, v) :: c) ((k, v') :: c')
  | drop {k : String} {c c' : Fields} (hk : k ∈ TableSpec.optionalWords) (honly : Fields.get? c k = none)
      (h : Thins R c c') : Thins R ((k, .null) :: c) c'

/-- what becomes of one field -/
inductive Left (R : String → Value → Value → Prop) (k : String) : Option Value → Option Value → Prop where
  | kept {v v' : Value} (hv : R k v v') : Left R k (some v) (some v')
  | missing : Left R k none none
  | dropped (hk : k ∈ TableSpec.optionalWords) : Left R k (some .null) none

/-- whether fields have a key that others have not -/
def lost (c c' : Fields) (k : String) : Bool := contains c k && !contains c' k

variable {R : String → Value → Value → Prop} {c c' : Fields}

theorem lost_self (c : Fields) (k : String) : lost c c k = false := Bool.and_not_self (contains c k)

theorem Thins.get? (h : Thins R c c') (k : String) : Left R k (Fields.get? c k) (Fields.get? c' k) := by
  induction h with
  | nil => exact .missing
  | keep hv h ih =>
    unfold Fields.get?
    split
    · next hk =>
      subst hk
      exact .kept hv
    · exact ih
  | drop hk honly h ih =>
    rw [Fields.get?]
    split
    · next heq =>
      subst heq
      rw [honly] at ih
      generalize Fields.get? _ _ = left at ih ⊢
      cases ih with
      | missing => exact .dropped hk
    · exact ih

/-- a field that is null and a missing one are alike to who asks for its value -/
theorem Thins.getD {k : String} (h : Thins R c c') (hnull : R k .null .null) : R k (getD c k) (getD c' k) := by
  unfold Fields.getD
  have hleft := h.get? k
  generalize Fields.get? c k = before, Fields.get? c' k = left at hleft ⊢
  cases hleft with
  | kept hv => exact hv
  | missing => exact hnull
  | dropped hk => exact hnull

theorem Thins.null_of_lost {k : String} (h : Thins R c c') (hlost : lost c c' k = true) :
    k ∈ TableSpec.optionalWords ∧ Fields.get? c k = some .null ∧ Fields.get? c' k = none := by
  unfold lost contains at hlost
  have hleft := h.get? k
  generalize Fields.get? c k = before, Fields.get? c' k = left at hleft hlost ⊢
  cases hleft with
  | kept hv => cases hlost
  | missing => cases hlost
  | dropped hk => exact ⟨hk, rfl, rfl⟩

/-- a field that is not lost is there in both, or in neither -/
theorem Thins.getD_of_not_lost {k : String} (h : Thins R c c') (hR : ∀ {v v'}, R k v v' → v = v')
    (hlost : lost c c' k = false) (default : Value) :
    (Fields.get? c k).getD default = (Fields.get? c' k).getD default := by
  unfold lost contains at hlost
  have hleft := h.get? k
  generalize Fields.get? c k = before, Fields.get? c' k = left at hleft hlost ⊢
  cases hleft with
  | kept hv => exact hR hv
  | missing => rfl
  | dropped hk => cases hlost

end Fields

open Fields Template

/-- a value, or an object without some of its optional entries that are null -/
inductive Value.Thinned : Value → Value → Prop where
  | same (v : Value) : Thinned v v
  | object (o : Owner) {c c' : Fields} (h : Thins (fun _ => Eq) c c') : Thinned (.object o c) (.object o c')

namespace TableSpec

/-- a part of a table's content; entries may be left out of its columns, and of the style of its header row -/
inductive PartThinned (k : String) : Value → Value → Prop where
  | same (v : Value) : PartThinned k v v
  | columns (hk : k = "columns") (o : Owner) {items items' : List Value} (h : List.Forall₂ Value.Thinned items items') :
      PartThinned k (.list o items) (.list o items')
  | headerStyle (hk : k = "headerStyle") {v v' : Value} (h : v.Thinned v') : PartThinned k v v'

variable {c c' : Fields} {v v' : Value} {o : Owner} {d : Float}

/-! ## Columns -/

/-- a column that loses its header is headed by its field -/
def relabel (headerLost : Bool) (column : Column) : Column :=
  if headerLost then { column with header := column.field } else column

/-- all columns, each by what is left of its description -/
def relabelAll (described : List (Value × Value)) (columns : List Column) : List Column :=
  List.zipWith (fun d column => relabel (lost d.1.fields d.2.fields "header") column) described columns

theorem finish_thinned (h : Thins (fun _ => Eq) c c') (i : Nat) (field : String) :
    readColumn.finish i c' field = (readColumn.finish i c field).map (relabel (lost c c' "header")) := by
  have hwidth : getD c "width" = getD c' "width" := h.getD rfl
  unfold readColumn.finish lost contains
  rw [hwidth]
  cases number? (getD c' "width") (indexed "columns" i ++ ".width") with
  | error f => rfl
  | ok width =>
    have hleft := h.get? "header"
    generalize get? c "header" = before, get? c' "header" = left at hleft ⊢
    cases hleft with
    | kept hv =>
      subst hv
      rfl
    | missing => rfl
    | dropped hk => rfl

theorem readColumn_thinned (h : v.Thinned v') (i : Nat) :
    readColumn i v' = (readColumn i v).map (relabel (lost v.fields v'.fields "header")) := by
  cases h with
  | same v =>
    rw [lost_self]
    cases readColumn i v <;> rfl
  | @object o c c' h =>
    have hfield : getD c "field" = getD c' "field" := h.getD rfl
    unfold readColumn
    dsimp only
    rw [hfield]
    cases getD c' "field" with
    | null => exact finish_thinned h i ""
    | string s => exact finish_thinned h i (Text.trim s)
    | _ => rfl

theorem mapItems_thinned {items items' : List Value} (h : List.Forall₂ Value.Thinned items items') (i : Nat) :
    mapItems readColumn i items' = (mapItems readColumn i items).map (relabelAll (items.zip items')) := by
  induction h generalizing i with
  | nil => rfl
  | @cons v v' rest rest' hv hrest ih =>
    unfold mapItems
    rw [readColumn_thinned hv, ih]
    cases readColumn i v with
    | error f => rfl
    | ok column =>
      cases mapItems readColumn (i + 1) rest with
      | error f => rfl
      | ok columns => rfl

/-- the header of a column: what its description says, be it null, and without that its field -/
theorem header_of_readColumn {i : Nat} {column : Column} (hread : readColumn i v = .ok column) :
    column.header = ((get? v.fields "header").getD (.string column.field)).bare := by
  have hfinish {c : Fields} {field : String} (h : readColumn.finish i c field = .ok column) :
      column.header = ((get? c "header").getD (.string column.field)).bare := by
    obtain ⟨width, -, h⟩ := Effect.except_bind_eq_ok h
    cases h
    rfl
  unfold readColumn at hread
  split at hread
  · split at hread
    · exact hfinish hread
    · exact hfinish hread
    · cases hread
  · cases hread

/-- a header that is lost was the text of null -/
theorem header_of_lost (h : v.Thinned v') {i : Nat} {column : Column} (hread : readColumn i v = .ok column)
    (hlost : lost v.fields v'.fields "header" = true) : column.header = "None" := by
  rw [header_of_readColumn hread]
  cases h with
  | same v =>
    rw [lost_self] at hlost
    cases hlost
  | object o h =>
    obtain ⟨-, hnull, -⟩ := h.null_of_lost hlost
    dsimp only [Value.fields]
    rw [hnull]
    rfl

theorem relabel_eq_iff (headerLost : Bool) (column : Column) :
    relabel headerLost column = column ↔ (headerLost = true → column.field = column.header) := by
  obtain ⟨field, header, width⟩ := column
  cases headerLost <;> simp [relabel]

/-- The columns are as they were just if each that loses its header has the text of null as its field -/
theorem relabelAll_eq_iff {items items' : List Value} (h : List.Forall₂ Value.Thinned items items') {i : Nat}
    {columns : List Column} (hread : mapItems readColumn i items = .ok columns) :
    relabelAll (items.zip items') columns = columns ↔
      ∀ x ∈ (items.zip items').zip columns, lost x.1.1.fields x.1.2.fields "header" = true → x.2.field = "None" := by
  induction h generalizing i columns with
  | nil =>
    cases hread
    simp [relabelAll]
  | cons hv hrest ih =>
    obtain ⟨column, hcolumn, hread⟩ := Effect.except_bind_eq_ok hread
    obtain ⟨others, hothers, hread⟩ := Effect.except_bind_eq_ok hread
    cases hread
    rw [List.zip_cons_cons, List.zip_cons_cons, List.forall_mem_cons, ← ih hothers]
    show relabel _ column :: relabelAll _ others = _ ↔ _
    rw [List.cons.injEq, relabel_eq_iff]
    refine and_congr_left' (forall_congr' fun hlost => ?_)
    rw [header_of_lost hv hcolumn hlost]

/-! ## The height of rows, and the header row -/

theorem PartThinned.eq {k : String} (h : PartThinned k v v') (hcolumns : k ≠ "columns") (hstyle : k ≠ "headerStyle") :
    v = v' := by
  cases h with
  | same => rfl
  | columns hk => exact absurd hk hcolumns
  | headerStyle hk => exact absurd hk hstyle

theorem headerStyle_thinned (h : PartThinned "headerStyle" v v') : headerStyle v' = headerStyle v := by
  cases h with
  | same => rfl
  | columns hk => exact absurd hk (by decide)
  | headerStyle _ h =>
    cases h with
    | same => rfl
    | @object o c c' h =>
      have hfill : getD c "backgroundColor" = getD c' "backgroundColor" := h.getD rfl
      have hweight : getD c "fontWeight" = getD c' "fontWeight" := h.getD rfl
      unfold headerStyle
      dsimp only
      rw [hfill, hweight]

theorem heightField_of_not_lost (h : Thins PartThinned c c') (hlost : lost c c' "rowHeight" = false) :
    heightField c' = heightField c := by
  have hcell : getD c "cellHeight" = getD c' "cellHeight" :=
    (h.getD (k := "cellHeight") (.same .null)).eq (by decide) (by decide)
  unfold heightField
  rw [hcell]
  exact (h.getD_of_not_lost (fun hpart => hpart.eq (by decide) (by decide)) hlost _).symm

/-- without the height of rows that was null, the height of cells is read -/
theorem heightField_of_lost (h : Thins PartThinned c c') (hlost : lost c c' "rowHeight" = true) :
    heightField c = .null ∧ heightField c' = getD c "cellHeight" := by
  obtain ⟨-, hnull, hnone⟩ := h.null_of_lost hlost
  have hcell : getD c "cellHeight" = getD c' "cellHeight" :=
    (h.getD (k := "cellHeight") (.same .null)).eq (by decide) (by decide)
  unfold heightField
  rw [hnull, hnone]
  exact ⟨rfl, hcell.symm⟩

/-- The height that is read is as it was just if that of cells, where it comes to the fore, is the default -/
theorem height_thinned (h : Thins PartThinned c c') (d : Float) {height : Option Float}
    (hread : number? (heightField c) "rowHeight" = .ok height) :
    (∃ height', number? (heightField c') "rowHeight" = .ok height' ∧ heightOr d height' = heightOr d height) ↔
      (lost c c' "rowHeight" = true →
        ∃ ofCells, number? (getD c "cellHeight") "rowHeight" = .ok ofCells ∧ heightOr d ofCells = d) := by
  cases hlost : lost c c' "rowHeight" with
  | false =>
    refine iff_of_true ⟨height, ?_, rfl⟩ nofun
    rw [heightField_of_not_lost h hlost, hread]
  | true =>
    obtain ⟨hnull, hcells⟩ := heightField_of_lost h hlost
    rw [hnull] at hread
    cases hread
    rw [hcells]
    simp [heightOr]

/-- a height that is refused is not null, so it is refused again -/
theorem height_error_thinned (h : Thins PartThinned c c') {f : Failure}
    (hread : number? (heightField c) "rowHeight" = .error f) : number? (heightField c') "rowHeight" = .error f := by
  cases hlost : lost c c' "rowHeight" with
  | false => rw [heightField_of_not_lost h hlost, hread]
  | true =>
    rw [(heightField_of_lost h hlost).1] at hread
    cases hread

/-! ## The whole description -/

/-- what is read of a table with columns -/
theorem read_columns {raw : List Value} (hraw : getD c "columns" = .list o raw) (hsome : raw ≠ []) (owner : Owner) :
    read (.object owner c) d = (do
      let columns ← mapItems readColumn 0 raw
      let height ← number? (heightField c) "rowHeight"
      let (fill, weight) := headerStyle (getD c "headerStyle")
      return ⟨columns, heightOr d height, fill, weight⟩) := by
  unfold read
  dsimp only
  rw [hraw]
  cases raw with
  | nil => exact absurd rfl hsome
  | cons v rest => rfl

/-- without columns no table is read, and nothing else of its content is looked at -/
theorem read_no_columns (hv : getD c "columns" = v) (hnone : v.items = []) (owner : Owner) :
    read (.object owner c) d = .error (.table (if v.items?.isSome then .noColumn else .columns)) := by
  unfold read
  dsimp only
  rw [hv]
  cases v with
  | list o items =>
    have hnil : items = [] := hnone
    rw [hnil]
    rfl
  | _ => rfl

theorem PartThinned.items (h : PartThinned "columns" v v') :
    v = v' ∧ v.items = [] ∨ ∃ o items items', v = .list o items ∧ v' = .list o items' ∧ items ≠ [] ∧
      List.Forall₂ Value.Thinned items items' := by
  cases h with
  | same =>
    cases v with
    | list o items =>
      rcases eq_or_ne items [] with rfl | hsome
      · exact .inl ⟨rfl, rfl⟩
      · exact .inr ⟨o, items, items, rfl, rfl, hsome, List.forall₂_same.2 fun w _ => .same w⟩
    | _ => exact .inl ⟨rfl, rfl⟩
  | columns _ o h =>
    cases h with
    | nil => exact .inl ⟨rfl, rfl⟩
    | cons hv hrest => exact .inr ⟨o, _, _, rfl, rfl, List.cons_ne_nil _ _, .cons hv hrest⟩
  | headerStyle hk => exact absurd hk (by decide)

/-- **Entries that are null may be left out of a table's description**, but for headers of columns, unless the column's
field is the text of null itself, and for the height of rows, where a height of cells stands beside it. A description
that is refused is refused for the same reason without them. -/
theorem read_thinned (h : Thins PartThinned c c') (owner : Owner) (d : Float) :
    (∀ f, read (.object owner c) d = .error f → read (.object owner c') d = .error f) ∧
      ∀ spec, read (.object owner c) d = .ok spec → (read (.object owner c') d = .ok spec ↔
        (∀ x ∈ ((getD c "columns").items.zip (getD c' "columns").items).zip spec.columns,
          lost x.1.1.fields x.1.2.fields "header" = true → x.2.field = "None") ∧
        (lost c c' "rowHeight" = true →
          ∃ ofCells, number? (getD c "cellHeight") "rowHeight" = .ok ofCells ∧ heightOr d ofCells = d)) := by
  have hstyle := headerStyle_thinned (h.getD (k := "headerStyle") (.same .null))
  obtain ⟨hsame, hnone⟩ | ⟨o, items, items', hitems, hitems', hsome, hthinned⟩ :=
    (h.getD (k := "columns") (.same .null)).items
  · have hread := read_no_columns (d := d) rfl hnone owner
    have hread' := read_no_columns (d := d) hsame.symm hnone owner
    rw [hread, hread']
    exact ⟨fun f hf => hf, nofun⟩
  have hsome' : items' ≠ [] := by
    rintro rfl
    exact hsome (List.forall₂_nil_right_iff.1 hthinned)
  rw [read_columns hitems hsome, read_columns hitems' hsome', hitems, hitems', mapItems_thinned hthinned, hstyle]
  cases hcolumns : mapItems readColumn 0 items with
  | error f => exact ⟨fun g hg => hg, nofun⟩
  | ok columns =>
    cases hheight : number? (heightField c) "rowHeight" with
    | error f =>
      rw [height_error_thinned h hheight]
      exact ⟨fun g hg => hg, nofun⟩
    | ok height =>
      refine ⟨nofun, ?_⟩
      rintro _ ⟨⟩
      rw [← height_thinned h d hheight]
      refine Iff.trans ?_ (and_congr_left' (relabelAll_eq_iff hthinned hcolumns))
      cases hheight' : number? (heightField c') "rowHeight" with
      | error f =>
        refine iff_of_false nofun ?_
        rintro ⟨-, height', hok, -⟩
        cases hok
      | ok height' =>
        constructor
        · intro hspec
          obtain ⟨hcolumns', hsame, -⟩ := TableSpec.mk.inj (Except.ok.inj hspec)
          exact ⟨hcolumns', height', rfl, hsame⟩
        · rintro ⟨hcolumns', height', ⟨⟩, hsame⟩
          show Except.ok (TableSpec.mk _ _ _ _) = _
          rw [hcolumns', hsame]

namespace Described

/-- a table with a column of the given description, and other entries -/
def table (column others : Fields) : Fields := ("columns", .list .template [.object .template column]) :: others

theorem thins_table {column column' others others' : Fields} (hcolumn : Thins (fun _ => Eq) column column')
    (hothers : Thins PartThinned others others') : Thins PartThinned (table column others) (table column' others') :=
  .keep (.columns rfl .template (.cons (.object .template hcolumn) .nil)) hothers

/-- a table of one column, with null for whatever it need not have but the header -/
def nulls : Fields :=
  table [("header", .string "Note"), ("field", .null), ("width", .null)]
    [("rowHeight", .null), ("cellHeight", .null),
      ("headerStyle", .object .template [("fontWeight", .string "normal"), ("backgroundColor", .null)])]

def withoutNulls : Fields :=
  table [("header", .string "Note")] [("headerStyle", .object .template [("fontWeight", .string "normal")])]

theorem thins_nulls : Thins PartThinned nulls withoutNulls := by
  apply thins_table
  · exact .keep rfl (.drop (by decide) rfl (.drop (by decide) rfl .nil))
  · refine .drop (by decide) rfl (.drop (by decide) rfl (.keep (.headerStyle rfl (.object .template ?_)) .nil))
    exact .keep rfl (.drop (by decide) rfl .nil)

/-- a column with a field, headed by null -/
def headed : Fields := [("field", .string "name"), ("header", .null)]

def unheaded : Fields := [("field", .string "name")]

/-- a height of rows that is null, and a height of cells that is no number -/
def heights : Fields := [("rowHeight", .null), ("cellHeight", .string "tall")]

def ofCells : Fields := [("cellHeight", .string "tall")]

end Described

/-- the height of rows may be left out where cells have none -/
theorem read_thinned_sample :
    Thins PartThinned Described.nulls Described.withoutNulls ∧
      read (.object .template Described.nulls) 8.0 = .ok ⟨[⟨"", "Note", none⟩], 8.0, .null, "normal"⟩ ∧
      read (.object .template Described.withoutNulls) 8.0 = .ok ⟨[⟨"", "Note", none⟩], 8.0, .null, "normal"⟩ := by
  refine ⟨Described.thins_nulls, rfl, ((read_thinned Described.thins_nulls .template 8.0).2 _ rfl).2 ⟨?_, ?_⟩⟩
  · intro x hx hlost
    cases List.mem_singleton.1 hx
    cases hlost
  · exact fun _ => ⟨none, rfl, rfl⟩

/-- A header that is null is printed, where without it the field would be; and a height of rows that is null keeps the
height of cells from being read, and refused. -/
theorem nulls_not_absent :
    (Thins PartThinned (Described.table Described.headed []) (Described.table Described.unheaded []) ∧
      read (.object .template (Described.table Described.headed [])) 8.0 =
        .ok ⟨[⟨"name", "None", none⟩], 8.0, .null, "bold"⟩ ∧
      read (.object .template (Described.table Described.unheaded [])) 8.0 =
        .ok ⟨[⟨"name", "name", none⟩], 8.0, .null, "bold"⟩) ∧
    Thins PartThinned (Described.table Described.unheaded Described.heights)
        (Described.table Described.unheaded Described.ofCells) ∧
      read (.object .template (Described.table Described.unheaded Described.heights)) 8.0 =
        .ok ⟨[⟨"name", "name", none⟩], 8.0, .null, "bold"⟩ ∧
      read (.object .template (Described.table Described.unheaded Described.ofCells)) 8.0 =
        fail "rowHeight" .number := by
  refine ⟨⟨Described.thins_table ?_ .nil, rfl, rfl⟩, Described.thins_table ?_ ?_, rfl, rfl⟩
  · exact .keep rfl (.drop (by decide) rfl .nil)
  · exact .keep rfl .nil
  · exact .drop (by decide) rfl (.keep (.same _) .nil)

end TableSpec

end ReportPress
