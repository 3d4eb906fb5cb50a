import ReportPress.Proofs.Document.Fonts
import ReportPress.Proofs.Document.Legible
import ReportPress.Proofs.Flow.Paintings
import ReportPress.Proofs.Paint.Tables
/-!
Plain tables in whole documents. A table that says nothing of how it looks has a bold header in the family of the
document. The built-in families have a bold font, or need none; a family from a file has just the one font of its file.
The family of a document is tried without a style, so that a document may well be set in a family in which no such table
can be painted.

- `lower_notMem_B`: no name in small letters ends like that of a bold font.
- `Canvas.isCoreFamily`: the built-in families, by all their names. `knows_bold`: those are the ones with a bold font,
  as long as fonts from files are registered in small letters; `prepare_namesLower`: they are.
- `render_tables`: what there is in the place of a plain table. `file_family_no_table` is a document without its table.
-/

namespace ReportPress

/-! ## Small letters -/

namespace Text

theorem ofNat_ne_B {n : ℕ} (h : n ≠ 66) : 'B' ≠ Char.ofNat n := by
  intro hB
  by_cases hvalid : n.isValidChar
  · have hn : Char.ofNat n = Char.ofNatAux n hvalid := dif_pos hvalid
    exact h (congrArg Char.toNat (hB.trans hn)).symm
  · have hzero : (Char.ofNat n).toNat = 0 := congrArg Char.toNat (dif_neg hvalid)
    rw [← hB] at hzero
    cases hzero

/-- no letter has a capital B for its small form -/
theorem lowerChar_notMem_B (c : Char) : 'B' ∉ lowerChar c := by
  have hruns : ∀ r ∈ caseRuns, ¬ (max (r.first : ℤ) 128 ≤ 66 - r.shift ∧ 66 - r.shift ≤ r.last) := by decide +kernel
  unfold lowerChar
  split
  · next hascii =>
    rw [List.mem_singleton]
    split
    · next hcapital =>
      simp only [Bool.and_eq_true, decide_eq_true_eq] at hcapital
      exact ofNat_ne_B (by have : 65 ≤ c.toNat := hcapital.1; omega)
    · next hother =>
      rintro rfl
      exact hother (by decide)
  · next hbeyond =>
    split
    · decide
    · split
      · next r hr =>
        have hcovers := List.find?_some hr
        have hnone := hruns r (List.mem_of_find?_eq_some hr)
        simp only [CaseRun.covers, Bool.and_eq_true, decide_eq_true_eq] at hcovers
        rw [List.mem_singleton]
        exact ofNat_ne_B (by omega)
      · rw [List.mem_singleton]
        rintro rfl
        exact hbeyond (by decide)

/-- **Small letters** are not a capital B -/
theorem lower_notMem_B (s : String) : 'B' ∉ (lower s).toList := by
  unfold lower
  rw [String.toList_ofList]
  generalize ([] : List Char) = before
  induction s.toList generalizing before with
  | nil => exact List.not_mem_nil
  | cons c rest ih =>
    unfold lowerFrom
    dsimp only
    rw [List.mem_append, not_or]
    refine ⟨?_, ih _⟩
    split
    · split <;> decide
    · exact lowerChar_notMem_B c

end Text

/-! ## Families with a bold font -/

namespace Canvas

/-- the family that a name stands for, if no font from a file has the name -/
def coreFamily (family : String) : String := (aliases.lookup (Text.lower family)).getD (Text.lower family)

/-- the family is built in, or goes by a name that stands for one that is -/
def isCoreFamily (family : String) : Bool := isBuiltIn (coreFamily family, "")

/-- fonts from files are registered under names in small letters -/
def NamesLower (c : Canvas) : Prop := ∀ font ∈ c.fonts, ∃ name, font.1 = Text.lower name

variable {c d : Canvas}

/-- so none of them is the bold font of a family -/
theorem NamesLower.noBold (h : c.NamesLower) (family : String) : c.fromFile? family "B" = none := by
  unfold fromFile?
  rw [List.lookup_eq_none_iff]
  intro font hfont
  obtain ⟨name, hname⟩ := h font hfont
  have hB : 'B' ∈ (family ++ "B").toList := by
    rw [String.toList_append]
    exact List.mem_append_right _ (by decide)
  rw [hname, bne_iff_ne]
  rintro heq
  rw [heq] at hB
  exact Text.lower_notMem_B name hB

theorem styleLetters_bold : styleLetters "B" = "B" := by decide

/-- the families that other names stand for have a bold font -/
theorem aliases_bold : ∀ f ∈ aliases, isBuiltIn (f.2, "B") = true := by decide

/-- a built-in family has a bold font, unless it has no styles at all -/
theorem isBuiltIn_bold {family : String} (hplain : plainFamilies.contains family = false) :
    isBuiltIn (family, "B") = isBuiltIn (family, "") := by
  have hall : ∀ entry ∈ Font.builtIn, plainFamilies.contains entry.1.1 = false →
      isBuiltIn (entry.1.1, "B") = true := by decide
  rw [Bool.eq_iff_iff]
  refine ⟨isBuiltIn_plain, fun h => ?_⟩
  obtain ⟨⟨⟨_, _⟩, widths⟩, hentry, ⟨⟩⟩ := exists_builtIn h
  exact hall _ hentry hplain

/-- a family without styles is built in -/
theorem plainFamilies_builtIn {family : String} (h : plainFamilies.contains family = true) :
    isBuiltIn (family, "") = true := by
  have hall : ∀ f ∈ plainFamilies, isBuiltIn (f, "") = true := by decide
  exact hall family (List.contains_iff_mem.1 h)

/-- a name for another family is not that of a built-in one -/
theorem aliases_apart : ∀ f ∈ aliases, isBuiltIn (f.1, "") = false := by decide

/-- a request for a family comes down to the family that its name stands for, or to one that is not built in -/
theorem faceFor_core (c : Canvas) {family : String} (hfamily : family ≠ "") (style : String) :
    (c.faceFor family style).1 = coreFamily family ∨ isBuiltIn ((c.faceFor family style).1, "") = false := by
  unfold faceFor coreFamily
  dsimp only
  rw [if_neg hfamily]
  cases halias : aliases.lookup (Text.lower family) with
  | some f =>
    dsimp only
    split
    · exact .inr (aliases_apart (_, f) (mem_of_lookup halias))
    · exact .inl rfl
  | none =>
    dsimp only
    split <;> exact .inl rfl

/-- **A bold font** of a family is there just if the family is a built-in one -/
theorem knows_bold (h : c.NamesLower) {family : String} (hfamily : family ≠ "") :
    c.Knows (c.faceFor family "B") ↔ isCoreFamily family = true := by
  unfold faceFor isCoreFamily coreFamily Knows
  dsimp only
  rw [if_neg hfamily, styleLetters_bold, h.noBold]
  cases halias : aliases.lookup (Text.lower family) with
  | some f =>
    -- the name stands for a family that has both fonts
    have hbuilt := aliases_bold _ (mem_of_lookup halias)
    exact iff_of_true (.inl hbuilt) (isBuiltIn_plain hbuilt)
  | none =>
    cases hplain : plainFamilies.contains (Text.lower family) with
    | true =>
      -- the letters of the style are dropped: the one font of the family is its bold one too
      have hbuilt := plainFamilies_builtIn hplain
      exact iff_of_true (.inl hbuilt) hbuilt
    | false =>
      show isBuiltIn (Text.lower family, "B") = true ∨ (c.fromFile? (Text.lower family) "B").isSome = true ↔ _
      rw [h.noBold, isBuiltIn_bold hplain, Option.isSome_none, or_iff_left Bool.false_ne_true]
      rfl

/-- a family that is not built in is looked up as it is -/
theorem faceFor_bold {c : Canvas} {family : String} (hfamily : family ≠ "") (hcore : isCoreFamily family = false) :
    c.faceFor family "B" = (Text.lower family, "B") := by
  unfold isCoreFamily coreFamily at hcore
  unfold faceFor
  dsimp only
  rw [if_neg hfamily, styleLetters_bold]
  cases halias : aliases.lookup (Text.lower family) with
  | some f =>
    rw [halias, Option.getD_some, isBuiltIn_plain (aliases_bold _ (mem_of_lookup halias))] at hcore
    cases hcore
  | none =>
    rw [halias, Option.getD_none] at hcore
    dsimp only
    split
    · next hplain =>
      rw [plainFamilies_builtIn hplain] at hcore
      cases hcore
    · rfl

/-- a font from a file is registered under a name in small letters -/
theorem namesLower_of_addFont {files : Files} {family : String} {path : Path} (hc : c.NamesLower)
    (h : c.addFont files family path.text = .ok d) : d.NamesLower := by
  rw [addFont_eq] at h
  generalize files.fontFile path = found at h
  cases found with
  | alien ending => cases h
  | missing => cases h
  | sound m =>
    dsimp only at h
    split at h
    · cases h
      exact hc
    · cases h
      exact List.forall_mem_append.2 ⟨hc, List.forall_mem_singleton.2 ⟨family, rfl⟩⟩
  | _ =>
    dsimp only at h
    split at h
    · cases h
      exact hc
    · cases h

end Canvas

/-- fonts from files stay under names in small letters -/
def Work.StaysLower (before after : Work) : Prop := before.canvas.NamesLower → after.canvas.NamesLower

theorem Work.StaysLower.trans {u v w : Work} (h : Work.StaysLower u v) (k : Work.StaysLower v w) :
    Work.StaysLower u w := fun hu => k (h hu)

namespace Renderer

theorem registerFonts_staysLower (files : Files) (fonts : List (String × Path)) (w : Work) :
    Work.StaysLower w ((registerFonts files fonts).run.run w).2 :=
  registerFonts_rel (R := Work.StaysLower) (fun _ => id) .trans (fun hadd hw => Canvas.namesLower_of_addFont hw hadd)
    (fun _ _ => id) fonts w

/-- a new surface has no fonts from files -/
theorem newCanvas_namesLower (t : Template) : (newCanvas t).NamesLower := by
  intro font hfont
  have hnone : (newCanvas t).fonts = [] := rfl
  rw [hnone] at hfont
  cases hfont

/-- in a prepared document all fonts from files are named so -/
theorem prepare_namesLower {r : Renderer} {t : Template} {j : Job} {v w : Work} (hfamily : w.canvas.family = "")
    (hw : w.canvas.NamesLower) (h : (r.prepare t).run.run w = (.ok j, v)) : v.canvas.NamesLower := by
  obtain ⟨families, family, u, -, -, hfonts, -, hdraws⟩ := prepare_steps hfamily h
  have hu := registerFonts_staysLower r.files r.settings.fontFiles w
  rw [hfonts] at hu
  unfold Canvas.NamesLower
  rw [hdraws.canvas.fonts]
  exact hu hw

end Renderer

/-! ## Tables -/

/-- a face of the family of a document is apart if no font is configured under the name that the family stands for -/
theorem Renderer.prepare_apart {r : Renderer} {t : Template} {j : Job} {v w : Work} (hfamily : w.canvas.family = "")
    (h : (r.prepare t).run.run w = (.ok j, v))
    (hnone : ∀ font ∈ r.settings.fontFiles, font.1 ≠ Canvas.coreFamily j.family) (canvas : Canvas) (style : String) :
    j.Apart (canvas.faceFor j.family style).1 := by
  intro hmem
  obtain ⟨-, -, -, hready, -, -⟩ := prepare_ready hfamily h
  rcases canvas.faceFor_core hready.named style with hsame | hother
  · obtain ⟨font, hfont, hname⟩ := List.mem_map.1 (prepare_families hfamily h _ hmem)
    exact absurd (hname.trans hsame) (hnone font hfont)
  · exact hother

/-- **Tables** that say nothing of how they look, wherever a layout comes to them. If the document is set in a built-in
family, and no font from a file is configured under the name of it, the table is painted: its header, and the rows that
there is room for; and that stays in the trace. If the document is set in a family from a file, no such table is
painted: there is no bold font for its header, and a placeholder stands in its place. -/
theorem Renderer.render_tables {r : Renderer} {t : Template} {record : Value} {j : Job} {w : Work}
    (hprepare : (r.prepare t).run.run { canvas := newCanvas t } = (.ok j, w)) {c : Component} {s : Spot} {u : Work}
    (hpainting : ((c, s), u) ∈ j.paintings record w) {spec : TableSpec} {items : List Value}
    (htable : Paint.PlainTable j c s u.canvas spec items) (hholds : (Paint.decision c s).1 = .ok true) :
    (Canvas.isCoreFamily j.family = true → (∀ font ∈ r.settings.fontFiles, font.1 ≠ Canvas.coreFamily j.family) →
      Succeeds u (Paint.place j c s) fun _ v => v.issues = u.issues ∧
        v.trace = u.trace ++ Paint.headerEntry j c s u.canvas spec ::
          Paint.bodyEntries j c s u.canvas spec (items.take (Paint.tableRows j s u.canvas spec items)) ∧
        v.trace <+: ((Flow.layOut j record).run.run (Flow.start j w)).2.work.trace) ∧
    (Canvas.isCoreFamily j.family = false →
      Succeeds u (Paint.place j c s) fun _ v =>
        v.issues = u.issues ++ [⟨c.id, .table, u.canvas.pages, .undefinedFont (Text.lower j.family ++ "B")⟩] ∧
        v.trace = u.trace ++ (Paint.placeholderEntry c s.origin u.canvas.pages).toList ∧
        v.trace <+: ((Flow.layOut j record).run.run (Flow.start j w)).2.work.trace) := by
  have hfamily := newCanvas_family t
  obtain ⟨-, -, -, hready, -, -⟩ := prepare_ready hfamily hprepare
  obtain ⟨hthere, hfonts⟩ := paintings_ready hready hpainting
  have hstays := paintings_prefix hpainting
  have hlower : u.canvas.NamesLower := by
    unfold Canvas.NamesLower
    rw [hfonts]
    exact prepare_namesLower hfamily (newCanvas_namesLower t) hprepare
  have hknows := Canvas.knows_bold hlower hready.named
  constructor
  · intro hcore hnone
    have hheader : j.Apart (Paint.headerFamily j u.canvas spec) := prepare_apart hfamily hprepare hnone _ _
    have hbody : j.Apart (Paint.bodyFamily j u.canvas spec) := prepare_apart hfamily hprepare hnone _ _
    obtain ⟨_, v, hrun, hissues, htrace⟩ := Paint.place_table hheader hbody hthere htable hholds (hknows.2 hcore)
    refine ⟨(), v, hrun, hissues, htrace, ?_⟩
    rw [hrun] at hstays
    exact hstays
  · intro hcore
    have hbold : ¬ u.canvas.Knows (u.canvas.faceFor j.family "B") := by
      rw [hknows, hcore]
      exact Bool.false_ne_true
    obtain ⟨_, v, hrun, hissues, htrace⟩ := Paint.place_table_fails hthere htable hholds hbold
    rw [Canvas.faceFor_bold hready.named hcore] at hissues
    refine ⟨(), v, hrun, hissues, htrace, ?_⟩
    rw [hrun] at hstays
    exact hstays

namespace Tables.Sample

/-- an entry of a font file's table of contents: all tables start at the same place -/
def entry (name : List UInt8) : List UInt8 := name ++ [0, 0, 0, 0, 0, 0, 0, 76, 0, 0, 0, 36]

/-- a font without characters -/
def font : ByteArray :=
  ⟨([0, 1, 0, 0, 0, 4, 0, 0, 0, 0, 0, 0] ++ entry [0x68, 0x65, 0x61, 0x64] ++ entry [0x68, 0x68, 0x65, 0x61] ++
    entry [0x68, 0x6D, 0x74, 0x78] ++ entry [0x63, 0x6D, 0x61, 0x70] ++ List.replicate 18 0 ++ [3, 232] ++
    List.replicate 14 0 ++ [0, 1]).toArray⟩

/-- a renderer with a font from a file -/
def fontedRenderer : Renderer :=
  { settings := { fontFiles := [("deja", .relative ["font.ttf"])] }
    files := ⟨.directory [("font.ttf", .file font)], ⟨1, []⟩⟩
    assets := { fetchers := { web := fun _ => .silence } } }

def table : Component :=
  { id := "list", kind := .table, dataBinding := some "rows"
    content := .object .template [("columns", .list .template
      [.object .template [("field", .string "name"), ("header", .string "Name")]])] }

def spec : TableSpec := ⟨[⟨"name", "Name", none⟩], 8.0, .null, "bold"⟩

def body : Section :=
  { id := "body", name := "Body", kind := .content, position := ⟨10.0, 20.0⟩, dimensions := ⟨100.0, 90.0⟩
    components := [table] }

/-- a template with a table, set in a family -/
def template (family : String) : Template :=
  { id := "list", displayName := "List", config := { fonts := { primary := family } }, sections := [body] }

def item : Value := .object .record [("name", .string "a")]

def record : Value := .object .record [("rows", .list .record [item])]

def spot : Spot := ⟨body.position.translate table.position, record, none⟩

/-- the document is prepared for the template set in the family -/
def Prepared (family : String) (j : Job) (w : Work) : Prop :=
  (fontedRenderer.prepare (template family)).run.run { canvas := Renderer.newCanvas (template family) } = (.ok j, w)

/-- the first thing that the layout comes to is the table, and it is a plain one -/
theorem sample_plain {family : String} {j : Job} {w : Work} (h : Prepared family j w) :
    ((table, spot), w) ∈ j.paintings record w ∧ Paint.PlainTable j table spot w.canvas spec [item] := by
  have hheight := Renderer.prepare_height (Renderer.newCanvas_family _) h
  obtain ⟨families, chosen, u, rfl, -, -, -, -⟩ := Renderer.prepare_steps (Renderer.newCanvas_family _) h
  constructor
  · exact List.mem_cons_self
  · -- the height stands for itself here, so that numbers alone are evaluated; no family has a part in them
    have hroom : ∀ height : Float, height = (Renderer.newCanvas (template family)).height →
        spot.origin.y + spec.rowHeight ≤
          height - (template family).config.margins.bottom - fontedRenderer.settings.layout.footerReserve := by
      rintro _ rfl
      show spot.origin.y + spec.rowHeight ≤ (Renderer.newCanvas (template "")).height -
        (template "").config.margins.bottom - fontedRenderer.settings.layout.footerReserve
      decide +kernel
    refine ⟨rfl, rfl, ?_, rfl, ?_, ⟨.record, rfl⟩, ?_, hroom _ hheight⟩
    · rintro _ _ ⟨⟩
      rfl
    · decide +kernel
    · exact List.forall_mem_singleton.2 ⟨_, _, rfl⟩

/-- the family that a document of the template is set in, if it is prepared -/
def family? (family : String) : Option String :=
  match ((fontedRenderer.prepare (template family)).run.run { canvas := Renderer.newCanvas (template family) }).1 with
  | .ok j => some j.family
  | .error _ => none

theorem exists_prepared (family chosen : String) (h : family? family = some chosen) :
    ∃ j w, Prepared family j w ∧ j.family = chosen := by
  unfold family? at h
  unfold Prepared
  rcases hrun : (fontedRenderer.prepare (template family)).run.run { canvas := Renderer.newCanvas (template family) }
    with ⟨_ | j, w⟩
  · rw [hrun] at h
    cases h
  · rw [hrun] at h
    exact ⟨j, w, rfl, Option.some.inj h⟩

theorem sample_families : family? "Arial" = some "arial" ∧ family? "deja" = some "deja" := by decide +kernel

def marksOf : Renderer.Outcome → List Mark
  | .done d => d.work.trace.map (·.mark)
  | _ => []

end Tables.Sample

namespace Renderer

open Tables

/-- a table set in a built-in family is painted, and one set in the family from the file is not -/
theorem render_tables_sample :
    (∃ j w, Sample.Prepared "Arial" j w ∧ Canvas.isCoreFamily j.family = true ∧
      Succeeds w (Paint.place j Sample.table Sample.spot) fun _ v => v.issues = w.issues ∧
        Paint.headerEntry j Sample.table Sample.spot w.canvas Sample.spec ∈ v.trace) ∧
    ∃ j w, Sample.Prepared "deja" j w ∧ Canvas.isCoreFamily j.family = false ∧
      Succeeds w (Paint.place j Sample.table Sample.spot) fun _ v =>
        v.trace = w.trace ++ (Paint.placeholderEntry Sample.table Sample.spot.origin w.canvas.pages).toList := by
  constructor
  · obtain ⟨j, w, hprepare, hfamily⟩ := Sample.exists_prepared "Arial" "arial" Sample.sample_families.1
    obtain ⟨hpainting, hplain⟩ := Sample.sample_plain hprepare
    have hcore : Canvas.isCoreFamily j.family = true := by
      rw [hfamily]
      decide
    have hnone : ∀ font ∈ Sample.fontedRenderer.settings.fontFiles, font.1 ≠ Canvas.coreFamily j.family := by
      rw [hfamily]
      decide
    refine ⟨j, w, hprepare, hcore, ?_⟩
    refine ((render_tables hprepare hpainting hplain rfl).1 hcore hnone).imp fun _ v hv => ⟨hv.1, ?_⟩
    rw [hv.2.1]
    exact List.mem_append_right _ List.mem_cons_self
  · obtain ⟨j, w, hprepare, hfamily⟩ := Sample.exists_prepared "deja" "deja" Sample.sample_families.2
    obtain ⟨hpainting, hplain⟩ := Sample.sample_plain hprepare
    have hcore : Canvas.isCoreFamily j.family = false := by
      rw [hfamily]
      decide
    refine ⟨j, w, hprepare, hcore, ?_⟩
    exact ((render_tables hprepare hpainting hplain rfl).2 hcore).imp fun _ v hv => hv.2.1

/-- a table set in the family from the file has a placeholder in its place, and no header -/
theorem file_family_no_table :
    (∃ j w, Sample.Prepared "deja" j w ∧ j.family = "deja" ∧
      ((Sample.table, Sample.spot), w) ∈ j.paintings Sample.record w ∧
      Paint.PlainTable j Sample.table Sample.spot w.canvas Sample.spec [Sample.item]) ∧
    (Paint.decision Sample.table Sample.spot).1 = .ok true ∧
    Sample.marksOf (Sample.fontedRenderer.render (Sample.template "deja") Sample.record) = [.placeholder, .footer] := by
  refine ⟨?_, rfl, by decide +kernel⟩
  obtain ⟨j, w, hprepare, hfamily⟩ := Sample.exists_prepared "deja" "deja" Sample.sample_families.2
  obtain ⟨hpainting, hplain⟩ := Sample.sample_plain hprepare
  exact ⟨j, w, hprepare, hfamily, hpainting, hplain⟩

end Renderer

end ReportPress
