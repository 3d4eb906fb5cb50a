import ReportPress.Proofs.Effect
import ReportPress.Proofs.Order.Stable
import ReportPress.Proofs.Value.Fields
import ReportPress.Template.Catalogue
/-!
Catalogues and the additions they come from. A catalogue is described by the list of templates that were added to it,
in order: only the last template of each id counts, and it stands where the first one of that id was added.

- `IsLatest`: the last template of its id among the additions. `Holds`: what a catalogue holds after them.
- `Holds.insert`, `holds_ofList`: one more addition, and any number of them.
- `isWeakOn_before`, `tied_before`: the order of the templates in use, and which of them are tied in it.
- `Mirrors`, `ofList_mirrors`: every question put to a catalogue has the answer that the additions give.
-/

namespace ReportPress

namespace Catalogue

variable {c : Catalogue} {ts : List Template} {s t u : Template}

/-- `t` was added, and no template of its id after it -/
def IsLatest (ts : List Template) (t : Template) : Prop :=
  ∃ earlier later, ts = earlier ++ t :: later ∧ ∀ u ∈ later, u.id ≠ t.id

theorem isLatest_concat : IsLatest (ts ++ [u]) t ↔ t = u ∨ t.id ≠ u.id ∧ IsLatest ts t := by
  constructor
  · rintro ⟨earlier, later, hcut, hlater⟩
    rcases List.eq_nil_or_concat later with rfl | ⟨front, w, rfl⟩
    · have hlast := List.append_inj' hcut rfl
      exact .inl (List.cons.inj hlast.2).1.symm
    · rw [List.concat_eq_append, ← List.cons_append, ← List.append_assoc] at hcut
      obtain ⟨hts, huw⟩ := List.append_inj' hcut rfl
      obtain rfl : u = w := (List.cons.inj huw).1
      have hne : u.id ≠ t.id := hlater u (by simp)
      exact .inr ⟨hne.symm, earlier, front, hts, fun x hx => hlater x (by simp [hx])⟩
  · rintro (rfl | ⟨hne, earlier, later, rfl, hlater⟩)
    · exact ⟨ts, [], rfl, by simp⟩
    · refine ⟨earlier, later ++ [u], by simp, ?_⟩
      intro x hx
      rcases List.mem_append.1 hx with hx | hx
      · exact hlater x hx
      · rw [List.mem_singleton.1 hx]
        exact hne.symm

/-- the ids in the order of their first additions -/
def firstIds (ts : List Template) : List String := (ts.map Template.id).eraseDups

theorem firstIds_concat (ts : List Template) (t : Template) :
    firstIds (ts ++ [t]) = if t.id ∈ firstIds ts then firstIds ts else firstIds ts ++ [t.id] := by
  simp only [firstIds, List.map_append, List.map_cons, List.map_nil, List.eraseDups_append, List.mem_eraseDups]
  by_cases hknown : t.id ∈ ts.map Template.id
  · simp only [List.removeAll, List.elem_eq_mem, List.filter_cons, List.filter_nil, hknown, decide_true, Bool.not_true,
      Bool.false_eq_true, if_false, if_true, List.eraseDups_nil, List.append_nil]
  · simp only [List.removeAll, List.elem_eq_mem, List.filter_cons, List.filter_nil, hknown, decide_false,
      Bool.not_false, if_true, if_false, List.eraseDups_cons, List.eraseDups_nil]

/-- what a catalogue holds after the additions `ts` -/
structure Holds (ts : List Template) (c : Catalogue) : Prop where
  keys : c.entries.map Prod.fst = firstIds ts
  nodup : (c.entries.map Prod.fst).Nodup
  entry : ∀ e ∈ c.entries, e.1 = e.2.id ∧ IsLatest ts e.2

theorem holds_empty : Holds [] {} := ⟨rfl, List.nodup_nil, by simp⟩

/-- **One more addition**: the new template is the latest of its id, all others stay what they were -/
theorem Holds.insert (h : Holds ts c) (t : Template) : Holds (ts ++ [t]) (c.insert t) := by
  have hkeys : (c.insert t).entries.map Prod.fst = firstIds (ts ++ [t]) := by
    rw [firstIds_concat, ← h.keys]
    exact Fields.map_fst_put t.id t c.entries
  refine ⟨hkeys, ?_, ?_⟩
  · rw [hkeys, firstIds_concat, ← h.keys]
    by_cases hknown : t.id ∈ c.entries.map Prod.fst
    · rw [if_pos hknown]
      exact h.nodup
    · rw [if_neg hknown]
      rw [← List.concat_eq_append]
      exact h.nodup.concat hknown
  · intro e he
    rcases Fields.mem_put h.nodup he with rfl | ⟨hmem, hne⟩
    · exact ⟨rfl, isLatest_concat.2 (.inl rfl)⟩
    · obtain ⟨hid, hlatest⟩ := h.entry e hmem
      exact ⟨hid, isLatest_concat.2 (.inr ⟨hid ▸ hne, hlatest⟩)⟩

/-- adding a template never fails -/
theorem add_run (c : Catalogue) (t : Template) (notes : List Note) :
    ∃ notes', (c.add t).run.run notes = (.ok (c.insert t), notes') := by
  unfold add
  by_cases hknown : Fields.contains c.entries t.id = true
  · exact ⟨_, by rw [if_pos hknown]; rfl⟩
  · exact ⟨_, by rw [if_neg hknown]; rfl⟩

theorem holds_foldlM (us : List Template) (h : Holds ts c) (notes : List Note) :
    ∃ d notes', (us.foldlM add c).run.run notes = (.ok d, notes') ∧ Holds (ts ++ us) d := by
  induction us generalizing c ts notes with
  | nil => exact ⟨c, notes, rfl, by simpa using h⟩
  | cons u us ih =>
    obtain ⟨notes₁, hadd⟩ := add_run c u notes
    obtain ⟨d, notes', hrun, hd⟩ := ih (h.insert u) notes₁
    refine ⟨d, notes', ?_, by simpa using hd⟩
    rw [List.foldlM_cons, Effect.run_bind, hadd]
    exact hrun

/-- **Any number of additions** -/
theorem holds_ofList (ts : List Template) : ∃ c notes, (ofList ts).outcome = (.ok c, notes) ∧ Holds ts c := by
  obtain ⟨c, notes, hrun, hc⟩ := holds_foldlM ts holds_empty []
  exact ⟨c, notes, hrun, hc⟩

/-! ## Look-ups -/

theorem Holds.mem_templates (h : Holds ts c) : t ∈ c.templates ↔ (t.id, t) ∈ c.entries := by
  unfold templates
  constructor
  · intro ht
    obtain ⟨e, he, rfl⟩ := List.mem_map.1 ht
    rw [← (h.entry e he).1]
    exact he
  · intro ht
    exact List.mem_map_of_mem ht

theorem Holds.map_id (h : Holds ts c) : c.templates.map Template.id = firstIds ts := by
  rw [← h.keys, templates, List.map_map]
  refine List.map_congr_left ?_
  intro e he
  exact (h.entry e he).1.symm

/-- two latest templates of one id are one -/
theorem IsLatest.unique (hs : IsLatest ts s) (ht : IsLatest ts t) (hid : s.id = t.id) : s = t := by
  induction ts using List.reverseRecOn generalizing s t with
  | nil =>
    obtain ⟨earlier, later, hcut, -⟩ := hs
    simp at hcut
  | append_singleton ts u ih =>
    rcases isLatest_concat.1 hs with rfl | ⟨hsu, hs⟩
    · rcases isLatest_concat.1 ht with rfl | ⟨htu, -⟩
      · rfl
      · exact absurd hid.symm htu
    · rcases isLatest_concat.1 ht with rfl | ⟨-, ht⟩
      · exact absurd hid hsu
      · exact ih hs ht hid

/-- a catalogue finds the last template that was added with an id -/
theorem Holds.get?_eq_some (h : Holds ts c) {id : String} : c.get? id = some t ↔ t.id = id ∧ IsLatest ts t := by
  constructor
  · intro hget
    obtain ⟨hid, hlatest⟩ := h.entry _ (Fields.mem_of_get? hget)
    exact ⟨hid.symm, hlatest⟩
  · rintro ⟨rfl, hlatest⟩
    have hadded : t.id ∈ c.entries.map Prod.fst := by
      obtain ⟨earlier, later, rfl, -⟩ := hlatest
      simp [h.keys, firstIds]
    obtain ⟨e, he, hkey⟩ := List.mem_map.1 hadded
    obtain ⟨hid, hentry⟩ := h.entry e he
    obtain rfl : e.2 = t := hentry.unique hlatest (hid.symm.trans hkey)
    rw [← hkey]
    exact Fields.get?_of_mem h.nodup he

/-! ## The templates in use -/

/-- no later in the order by type and then by display name -/
def NotAfter (s t : Template) : Prop :=
  s.templateType < t.templateType ∨ s.templateType = t.templateType ∧ s.displayName ≤ t.displayName

theorem before_eq_false_iff : before t s = false ↔ NotAfter s t := by
  simp only [before, NotAfter, Bool.or_eq_false_iff, Bool.and_eq_false_iff, decide_eq_false_iff_not,
    beq_eq_false_iff_ne, String.not_lt]
  constructor
  · rintro ⟨htype, hrest⟩
    by_cases heq : s.templateType = t.templateType
    · rcases hrest with hne | hname
      · exact absurd heq.symm hne
      · exact .inr ⟨heq, hname⟩
    · left
      by_contra hlt
      exact heq (String.le_antisymm htype (String.not_lt.1 hlt))
  · rintro (htype | ⟨htype, hname⟩)
    · exact ⟨String.not_lt.1 (String.lt_asymm htype), .inl fun heq => String.lt_irrefl _ (heq ▸ htype)⟩
    · exact ⟨htype ▸ String.le_refl _, .inr hname⟩

theorem NotAfter.trans (hst : NotAfter s t) (htu : NotAfter t u) : NotAfter s u := by
  rcases hst with hst | ⟨hst, hname⟩
  · rcases htu with htu | ⟨htu, -⟩
    · exact .inl (String.lt_trans hst htu)
    · exact .inl (htu ▸ hst)
  · rcases htu with htu | ⟨htu, hname'⟩
    · exact .inl (hst ▸ htu)
    · exact .inr ⟨hst.trans htu, String.le_trans hname hname'⟩

theorem isWeakOn_before : Order.IsWeakOn before fun _ => True where
  asymm s t _ _ hst := by
    by_contra hts
    rw [Bool.not_eq_false] at hts
    simp only [before, Bool.or_eq_true, Bool.and_eq_true, decide_eq_true_eq, beq_iff_eq] at hst hts
    rcases hst with hst | ⟨hst, hname⟩
    · rcases hts with hts | ⟨hts, -⟩
      · exact String.lt_asymm hst hts
      · exact String.lt_irrefl _ (hts ▸ hst)
    · rcases hts with hts | ⟨-, hname'⟩
      · exact String.lt_irrefl _ (hst ▸ hts)
      · exact String.lt_asymm hname hname'
  trans s t u _ _ _ hst htu := by
    rw [before_eq_false_iff] at hst htu ⊢
    exact hst.trans htu

/-- tied in the order of the templates in use are those of one type and one display name -/
theorem tied_before : Order.tied before s t = true ↔
    s.templateType = t.templateType ∧ s.displayName = t.displayName := by
  rw [Order.tied, Bool.and_eq_true, Bool.not_eq_true', Bool.not_eq_true', before_eq_false_iff, before_eq_false_iff]
  constructor
  · rintro ⟨hts, hst⟩
    rcases hts with hts | ⟨htype, hname⟩
    · rcases hst with hst | ⟨hst, -⟩
      · exact absurd hts (String.lt_asymm hst)
      · exact absurd (hst ▸ hts) (String.lt_irrefl _)
    · rcases hst with hst | ⟨-, hname'⟩
      · exact absurd (htype ▸ hst) (String.lt_irrefl _)
      · exact ⟨htype.symm, String.le_antisymm hname' hname⟩
  · rintro ⟨htype, hname⟩
    exact ⟨.inr ⟨htype.symm, hname ▸ String.le_refl _⟩, .inr ⟨htype, hname ▸ String.le_refl _⟩⟩

theorem sorted_active (c : Catalogue) :
    Order.Sorted before (fun _ => True) (c.templates.filter (·.isActive)) c.active :=
  Order.sort_sorted isWeakOn_before _ fun _ _ => trivial

/-- of the templates in use, those of one type and one display name stand as in the catalogue -/
theorem active_ties (c : Catalogue) (type name : String) :
    c.active.filter (fun t => t.templateType = type ∧ t.displayName = name) =
      (c.templates.filter (·.isActive)).filter fun t => t.templateType = type ∧ t.displayName = name := by
  -- the order has no such item of its own, so ties are looked at with a template made up for the purpose
  let key : Template := { id := "", displayName := name, config := {}, sections := [], templateType := type }
  have hties : (fun t : Template => decide (t.templateType = type ∧ t.displayName = name)) = Order.tied before key := by
    funext t
    rw [Bool.eq_iff_iff, decide_eq_true_eq, tied_before]
    exact and_congr eq_comm eq_comm
  rw [hties]
  exact (sorted_active c).stable key trivial

/-! ## Any number of additions -/

/-- a template answers to its name and to its display name -/
def IsNamed (name : String) (t : Template) : Prop := t.name = name ∨ t.displayName = name

/-- every question put to the catalogue has the answer that the additions `ts` give:
- `get`: the last template that was added with an id;
- `ids`, `latest`, `size`: each id once, in the order of first additions, with its latest template;
- `named`, `unnamed`: the first of them, in that order, that has a name or display name now;
- `byId`, `byName`: a template of an id goes before all templates that only have it as a name;
- `active`, `ascending`, `ties`: those in use by type and display name, ties in the order of the catalogue. -/
structure Mirrors (ts : List Template) (c : Catalogue) : Prop where
  get : ∀ id t, c.get? id = some t ↔ t.id = id ∧ IsLatest ts t
  ids : c.templates.map Template.id = firstIds ts
  latest : ∀ t ∈ c.templates, IsLatest ts t
  size : c.size = (firstIds ts).length
  named : ∀ name t, c.byName? name = some t ↔
    ∃ ahead behind, c.templates = ahead ++ t :: behind ∧ IsNamed name t ∧ ∀ s ∈ ahead, ¬ IsNamed name s
  unnamed : ∀ name, c.byName? name = none ↔ ∀ t ∈ c.templates, ¬ IsNamed name t
  byId : ∀ t, IsLatest ts t → c.find? t.id = some t
  byName : ∀ key, (∀ t ∈ ts, t.id ≠ key) → c.find? key = c.byName? key
  active : c.active.Perm (c.templates.filter (·.isActive))
  ascending : c.active.Pairwise NotAfter
  ties : ∀ type name, c.active.filter (fun t => t.templateType = type ∧ t.displayName = name) =
    (c.templates.filter (·.isActive)).filter fun t => t.templateType = type ∧ t.displayName = name

theorem byName?_eq_some {name : String} : c.byName? name = some t ↔
    ∃ ahead behind, c.templates = ahead ++ t :: behind ∧ IsNamed name t ∧ ∀ s ∈ ahead, ¬ IsNamed name s := by
  rw [byName?, List.find?_eq_some_iff_append]
  simp only [IsNamed, Bool.or_eq_true, beq_iff_eq, Bool.not_eq_true', Bool.or_eq_false_iff, beq_eq_false_iff_ne, not_or]
  constructor
  · rintro ⟨hnamed, ahead, behind, hcut, hahead⟩
    exact ⟨ahead, behind, hcut, hnamed, hahead⟩
  · rintro ⟨ahead, behind, hcut, hnamed, hahead⟩
    exact ⟨hnamed, ahead, behind, hcut, hahead⟩

theorem Holds.mirrors (h : Holds ts c) : Mirrors ts c where
  get _ _ := h.get?_eq_some
  ids := h.map_id
  latest t ht := (h.entry _ (h.mem_templates.1 ht)).2
  size := by rw [size, ← h.keys, List.length_map]
  named _ _ := byName?_eq_some
  unnamed name := by simp [byName?, IsNamed]
  byId t ht := by rw [find?, h.get?_eq_some.2 ⟨rfl, ht⟩, Option.orElse_some]
  byName key hkey := by
    have hnone : c.get? key = none := by
      rw [Option.eq_none_iff_forall_ne_some]
      intro t hget
      obtain ⟨hid, earlier, later, rfl, -⟩ := h.get?_eq_some.1 hget
      exact hkey t (by simp) hid
    rw [find?, hnone, Option.orElse_none]
  active := (sorted_active c).perm
  ascending := (sorted_active c).ascending.imp before_eq_false_iff.1
  ties := active_ties c

/-- **A catalogue mirrors its additions.** After any sequence of templates was added, each look-up, the list of the
templates and that of the templates in use are what the sequence says, however often an id comes up in it. -/
theorem ofList_mirrors (ts : List Template) : ∃ c notes, (ofList ts).outcome = (.ok c, notes) ∧ Mirrors ts c := by
  obtain ⟨c, notes, hrun, hc⟩ := holds_ofList ts
  exact ⟨c, notes, hrun, hc.mirrors⟩

/-- a replaced template keeps its place and goes by its new name -/
example :
    let added (id name : String) : Template :=
      { id := id, name := name, displayName := name, config := {}, sections := [] }
    let c := (ofList [added "a" "old", added "b" "old", added "a" "new"]).outcome.1.toOption.getD {}
    c.templates.map (·.name) = ["new", "old"] ∧ (c.byName? "old").map (·.id) = some "b" := by
  decide

end Catalogue

end ReportPress
