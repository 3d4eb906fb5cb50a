import ReportPress.Proofs.Json.Reader
import ReportPress.Proofs.Template.Reader
import ReportPress.Proofs.Text.Trim
/-!
Templates as they are read. Painting takes for granted that ids and names are there and have no blanks around them, that
kinds and page sizes are known ones, and that contents, styles and the values of conditions never change. Reading
establishes all of this, and loses and reorders nothing.

- `WellFormed`: what holds of a condition, a component, a section, a template.
- `StandsFor`: a part of a template stands for the part of the payload that it was read from: the same ids, the kinds
  that are named there, the values settled, and its own parts one for one.
- `read_wellFormed`: both hold of every template that is read. `read_wellFormed_sample`: a template with blanks and
  mixed case in its payload.
-/

namespace ReportPress

/-! ## Well-formed parts -/

structure Condition.WellFormed (c : Condition) : Prop where
  field : Text.isNeat c.field = true
  test : Text.isNeat c.test.name = true
  value : c.value.Settled

structure Component.WellFormed (c : Component) : Prop where
  id : Text.isNeat c.id = true
  kind : c.kind ∈ ComponentKind.all
  content : c.content.Settled
  style : ∀ f ∈ c.style, f.2.Settled
  conditions : ∀ d ∈ c.conditions, d.WellFormed

structure Section.WellFormed (s : Section) : Prop where
  id : Text.isNeat s.id = true
  name : Text.isNeat s.name = true
  kind : s.kind ∈ SectionKind.all
  components : ∀ c ∈ s.components, c.WellFormed
  conditions : ∀ d ∈ s.conditions, d.WellFormed
  style : ∀ f ∈ s.style, f.2.Settled

structure Template.WellFormed (t : Template) : Prop where
  id : Text.isNeat t.id = true
  name : Text.isNeat t.name = true
  displayName : Text.isNeat t.displayName = true
  version : Text.isNeat t.version = true
  pageSize : t.config.pageSize ∈ PageSize.all
  orientation : t.config.orientation ∈ Orientation.all
  sections : ∀ s ∈ t.sections, s.WellFormed

/-! ## Parts of the payload -/

/-- `t` is the text of a field, without the blanks around it -/
def Value.Gives (v : Value) (t : String) : Prop := ∃ s, v = .string s ∧ t = Text.trim s

/-- `a` is the choice that a field names, in whatever case; the default, if there is one, where the field is missing or
empty -/
def Value.Chooses {α : Type} (name : α → String) (default : Option α) (v : Value) (a : α) : Prop :=
  (∃ s, v = .string s ∧ Text.lower (name a) = Text.lower (Text.trim s)) ∨
    (v = .null ∨ v = .string "") ∧ default = some a

structure Condition.StandsFor (raw : Value) (c : Condition) : Prop where
  field : (Fields.getD raw.fields "field").Gives c.field
  test : (Fields.getD raw.fields "operator").Gives c.test.name
  value : c.value = (Fields.getD raw.fields "value").settle

structure Component.StandsFor (raw : Value) (c : Component) : Prop where
  kind : (Fields.getD raw.fields "type").Chooses ComponentKind.name none c.kind
  content : c.content = (Fields.getD raw.fields "content").settle ∨
    Fields.getD raw.fields "content" = .null ∧ c.content = .string ""
  style : c.style = Value.settleFields (Value.section? raw.fields "style")
  conditions : List.Forall₂ Condition.StandsFor (Fields.getD raw.fields "conditions").items c.conditions

structure Section.StandsFor (raw : Value) (s : Section) : Prop where
  id : (Fields.getD raw.fields "id").Gives s.id
  kind : (Fields.getD raw.fields "type").Chooses SectionKind.name (some .content) s.kind
  components : List.Forall₂ Component.StandsFor (Fields.getD raw.fields "components").items s.components
  conditions : List.Forall₂ Condition.StandsFor (Fields.getD raw.fields "conditions").items s.conditions

structure Template.StandsFor (payload : Value) (t : Template) : Prop where
  id : (Fields.getD payload.fields "id").Gives t.id
  pageSize : (Fields.getD (Value.section? payload.fields "config") "pageSize").Chooses PageSize.name (some .a4)
    t.config.pageSize
  orientation : (Fields.getD (Value.section? payload.fields "config") "orientation").Chooses Orientation.name
    (some .portrait) t.config.orientation
  sections : List.Forall₂ Section.StandsFor (Fields.getD payload.fields "sections").items t.sections

theorem Test.name_ofName (name : String) : (Test.ofName name).name = name := by
  have hnames : ∀ e ∈ known, e.2.name = e.1 := by decide
  unfold ofName
  cases hlookup : known.lookup name with
  | none => rfl
  | some t =>
    exact hnames (name, t) (mem_of_lookup hlookup)

theorem ComponentKind.mem_all (k : ComponentKind) : k ∈ all := by cases k <;> decide

theorem SectionKind.mem_all (k : SectionKind) : k ∈ all := by cases k <;> decide

theorem PageSize.mem_all (p : PageSize) : p ∈ all := by cases p <;> decide

theorem Orientation.mem_all (o : Orientation) : o ∈ all := by cases o <;> decide

namespace Template

variable {α : Type}

/-! ## Fields -/

theorem requiredText_eq_ok {v : Value} {field t : String} (h : requiredText v field = .ok t) :
    v.Gives t ∧ Text.isNeat t = true := by
  unfold requiredText at h
  split at h
  · next s =>
    dsimp only at h
    split at h
    · cases h
    · next hne =>
      cases h
      exact ⟨⟨s, rfl, rfl⟩, Text.isNeat_trim hne⟩
  · cases h

theorem optionalText_isNeat {v : Value} {t : String} (h : optionalText v = some t) : Text.isNeat t = true := by
  unfold optionalText at h
  split at h
  · cases h
  · dsimp only at h
    split at h
    · cases h
    · next hne =>
      cases h
      exact Text.isNeat_trim hne

theorem optionalText_getD_isNeat (v : Value) {other : String} (h : Text.isNeat other = true) :
    Text.isNeat ((optionalText v).getD other) = true := by
  cases hv : optionalText v with
  | none => exact h
  | some t => exact optionalText_isNeat hv

/-- the place of an item is named after its list -/
theorem isNeat_indexed {field : String} (h : Text.isNeat field = true) (i : Nat) :
    Text.isNeat (indexed field i) = true := by
  have haround := Text.isNeat_around h ("[" ++ Nat.repr i) (show Text.isNeat "]" = true by decide)
  rwa [← String.append_assoc] at haround

theorem choice?_chooses {all : List α} {name : α → String} {v : Value} {field : String} {r default : Option α} {a : α}
    (h : choice? all name v field = .ok r) (ha : r.or default = some a) : v.Chooses name default a := by
  rcases choice?_eq_ok h with ⟨s, b, hv, rfl, -, hname⟩ | ⟨hv, rfl⟩
  · cases ha
    exact .inl ⟨s, hv, hname⟩
  · rw [Option.none_or] at ha
    exact .inr ⟨hv, ha⟩

theorem or_some_eq (r : Option α) (a : α) : r.or (some a) = some (r.getD a) := by cases r <;> rfl

/-- items that are well formed and stand for those of the payload -/
theorem both_of_forall₂ {P : α → Prop} {R : Value → α → Prop} {raw : List Value} {read : List α}
    (h : List.Forall₂ (fun v a => P a ∧ R v a) raw read) : (∀ a ∈ read, P a) ∧ List.Forall₂ R raw read := by
  induction h with
  | nil => exact ⟨by simp, .nil⟩
  | cons hab hrest ih => exact ⟨List.forall_mem_cons.2 ⟨hab.1, ih.1⟩, .cons hab.2 ih.2⟩

/-! ## Conditions, components, sections -/

theorem readCondition_wellFormed {field : String} {i : Nat} {v : Value} {c : Condition} (hv : v.OfJson)
    (h : readCondition field i v = .ok c) : c.WellFormed ∧ c.StandsFor v := by
  unfold readCondition at h
  split at h
  · next owner fields =>
    obtain ⟨name, hname, h⟩ := Effect.except_bind_eq_ok h
    obtain ⟨test, htest, h⟩ := Effect.except_bind_eq_ok h
    cases h
    obtain ⟨hgives, hneat⟩ := requiredText_eq_ok hname
    obtain ⟨hgives', hneat'⟩ := requiredText_eq_ok htest
    have hvalue := (Value.OfJson.getD hv.fields "value").settle
    refine ⟨⟨hneat, ?_, hvalue⟩, ⟨hgives, ?_, rfl⟩⟩
    · rw [Test.name_ofName]
      exact hneat'
    · rw [Test.name_ofName]
      exact hgives'
  · cases h

theorem readConditions_wellFormed {v : Value} {field : String} {cs : List Condition} (hv : v.OfJson)
    (h : readConditions v field = .ok cs) :
    (∀ c ∈ cs, c.WellFormed) ∧ List.Forall₂ Condition.StandsFor v.items cs := by
  unfold readConditions at h
  split at h
  · cases h
    exact ⟨by simp, .nil⟩
  · apply both_of_forall₂
    refine mapItems_forall₂ ?_ h
    intro i w c hw hread
    exact readCondition_wellFormed (hv.items w hw) hread
  · cases h

theorem readComponent_wellFormed {field : String} (hfield : Text.isNeat field = true) {i : Nat} {v : Value}
    {c : Component} (hv : v.OfJson) (h : readComponent field i v = .ok c) : c.WellFormed ∧ c.StandsFor v := by
  unfold readComponent at h
  split at h
  · next owner fields =>
    obtain ⟨kind, hkind, h⟩ := Effect.except_bind_eq_ok h
    cases kind with
    | none => cases h
    | some kind =>
      obtain ⟨position, -, h⟩ := Effect.except_bind_eq_ok h
      obtain ⟨dimensions, -, h⟩ := Effect.except_bind_eq_ok h
      obtain ⟨conditions, hconditions, h⟩ := Effect.except_bind_eq_ok h
      cases h
      have hget := Value.OfJson.getD hv.fields
      obtain ⟨hformed, hstand⟩ := readConditions_wellFormed (hget "conditions") hconditions
      refine ⟨⟨?_, kind.mem_all, ?_, ?_, hformed⟩, ⟨choice?_chooses hkind rfl, ?_, rfl, hstand⟩⟩
      · exact optionalText_getD_isNeat _ (isNeat_indexed hfield i)
      · show (Value.settle _).Settled
        split
        · exact .string ""
        · exact (hget "content").settle
      · exact (hget "style").settleFields
      · show Value.settle _ = _ ∨ _ ∧ Value.settle _ = _
        split
        · next hnull => exact .inr ⟨hnull, rfl⟩
        · exact .inl rfl
  · cases h

theorem readSection_wellFormed {place : String} (hplace : Text.isNeat place = true) {v : Value} {s : Section}
    (hv : v.OfJson) (h : readSection place v = .ok s) : s.WellFormed ∧ s.StandsFor v := by
  unfold readSection at h
  split at h
  · next owner fields =>
    obtain ⟨id, hid, h⟩ := Effect.except_bind_eq_ok h
    obtain ⟨kind, hkind, h⟩ := Effect.except_bind_eq_ok h
    obtain ⟨raw, hraw, h⟩ := Effect.except_bind_eq_ok h
    obtain ⟨components, hcomponents, h⟩ := Effect.except_bind_eq_ok h
    obtain ⟨dimensions, -, h⟩ := Effect.except_bind_eq_ok h
    obtain ⟨position, -, h⟩ := Effect.except_bind_eq_ok h
    obtain ⟨isRepeatable, -, h⟩ := Effect.except_bind_eq_ok h
    obtain ⟨conditions, hconditions, h⟩ := Effect.except_bind_eq_ok h
    cases h
    obtain rfl := items_eq_ok hraw
    have hget := Value.OfJson.getD hv.fields
    obtain ⟨hgives, hneat⟩ := requiredText_eq_ok hid
    obtain ⟨hformed, hstand⟩ := readConditions_wellFormed (hget "conditions") hconditions
    have hlist : Text.isNeat (place ++ ".components") = true := by
      have haround := Text.isNeat_around hplace "" (show Text.isNeat ".components" = true by decide)
      rwa [String.append_empty] at haround
    obtain ⟨hparts, hpartsStand⟩ := both_of_forall₂ (mapItems_forall₂ (fun i w c hw hread =>
      readComponent_wellFormed hlist ((hget "components").items w hw) hread) hcomponents)
    exact ⟨⟨hneat, optionalText_getD_isNeat _ hneat, SectionKind.mem_all _, hparts, hformed,
        (hget "style").settleFields⟩,
      ⟨hgives, choice?_chooses hkind (or_some_eq kind _), hpartsStand, hstand⟩⟩
  · cases h

/-! ## Templates -/

theorem readPageConfig_stands {c : Fields} {config : PageConfig} (h : readPageConfig c = .ok config) :
    (Fields.getD c "pageSize").Chooses PageSize.name (some .a4) config.pageSize ∧
      (Fields.getD c "orientation").Chooses Orientation.name (some .portrait) config.orientation := by
  obtain ⟨pageSize, hsize, h⟩ := Effect.except_bind_eq_ok h
  obtain ⟨orientation, horientation, h⟩ := Effect.except_bind_eq_ok h
  obtain ⟨margins, -, h⟩ := Effect.except_bind_eq_ok h
  obtain ⟨fonts, -, h⟩ := Effect.except_bind_eq_ok h
  obtain ⟨logo, -, h⟩ := Effect.except_bind_eq_ok h
  cases h
  exact ⟨choice?_chooses hsize (or_some_eq pageSize _), choice?_chooses horientation (or_some_eq orientation _)⟩

/-- **A template that was read** is well formed, and stands for its payload part by part -/
theorem read_wellFormed {payload : Value} (hpayload : payload.OfJson) {t : Template} (h : read payload = .ok t) :
    t.WellFormed ∧ t.StandsFor payload := by
  unfold read at h
  split at h
  · next owner fields =>
    obtain ⟨id, hid, h⟩ := Effect.except_bind_eq_ok h
    obtain ⟨config, hconfig, h⟩ := Effect.except_bind_eq_ok h
    obtain ⟨styles, -, h⟩ := Effect.except_bind_eq_ok h
    obtain ⟨raw, hraw, h⟩ := Effect.except_bind_eq_ok h
    obtain ⟨sections, hsections, h⟩ := Effect.except_bind_eq_ok h
    obtain ⟨isActive, -, h⟩ := Effect.except_bind_eq_ok h
    cases h
    obtain rfl := items_eq_ok hraw
    have hget := Value.OfJson.getD hpayload.fields
    obtain ⟨hgives, hneat⟩ := requiredText_eq_ok hid
    obtain ⟨hsize, horientation⟩ := readPageConfig_stands hconfig
    have hname := optionalText_getD_isNeat (Fields.getD fields "name") hneat
    obtain ⟨hparts, hpartsStand⟩ := both_of_forall₂ (mapItems_forall₂ (fun i w s hw hread =>
      readSection_wellFormed (isNeat_indexed (by decide) i) ((hget "sections").items w hw) hread) hsections)
    exact ⟨⟨hneat, hname, optionalText_getD_isNeat _ hname, optionalText_getD_isNeat _ (by decide),
        PageSize.mem_all _, Orientation.mem_all _, hparts⟩,
      ⟨hgives, hsize, horientation, hpartsStand⟩⟩
  · cases h

/-- blanks around its texts, its choices in mixed case, and a list in a list -/
def Sample.text : String :=
  "\x7b\"id\": \" invoice \", \"config\": \x7b\"orientation\": \" Landscape\"\x7d, \"sections\": [" ++
    "\x7b\"id\": \"top\\n\", \"components\": [\x7b\"type\": \"TEXT\", \"content\": [1, [2]], \"conditions\": [" ++
    "\x7b\"field\": \" total\", \"operator\": \"gt \"\x7d]\x7d]\x7d]\x7d"

theorem read_wellFormed_sample : ∃ payload t, Json.parse Sample.text = .ok payload ∧ payload.OfJson ∧
    read payload = .ok t ∧ t.id = "invoice" ∧ t.WellFormed ∧ t.StandsFor payload := by
  have hid : ((Json.parse Sample.text).toOption.bind fun v => (read v).toOption).map (·.id) = some "invoice" := by
    decide +kernel
  cases hparse : Json.parse Sample.text with
  | error fault =>
    rw [hparse] at hid
    cases hid
  | ok payload =>
    rw [hparse] at hid
    have hpayload := Json.parseChars_ofJson hparse
    cases hread : read payload with
    | error fault =>
      simp [Except.toOption, hread] at hid
    | ok t =>
      simp only [Except.toOption, hread, Option.bind_some, Option.map_some, Option.some.injEq] at hid
      exact ⟨payload, t, rfl, hpayload, hread, hid, read_wellFormed hpayload hread⟩

end Template

end ReportPress
