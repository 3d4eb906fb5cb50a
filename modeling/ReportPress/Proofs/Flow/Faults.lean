import ReportPress.Proofs.Flow.Instances
/-!
Where a layout can fail. Painting a component fails only if its conditions cannot be decided, and expanding a section
only if its list, its object or its conditions cannot be looked up; what a layout fails with can therefore be told from
the template and the record alone.

- `Section.Strays`: a section for which some path cannot be followed.
- `Move.fault?`: what carrying out a move fails with, if it does; `Event.fault?` says the same of an expansion.
- `scripts_fault`: the first fault of a script is that of the expansions.
- `expand_fault_none`: an expansion has a fault just if the section strays.
- `expand_fault_isOfPath`: its fault is one of a path.
-/

namespace ReportPress

/-- the failure of a result, if it is one -/
def Failure.of? {α : Type} : Except Failure α → Option Failure
  | .ok _ => none
  | .error f => some f

theorem Failure.of?_eq_none {α : Type} {r : Except Failure α} : Failure.of? r = none ↔ r.isOk = true := by
  cases r with
  | ok a => exact iff_of_true rfl rfl
  | error f => exact iff_of_false nofun nofun

/-- what deciding the conditions of components comes to, for an instance that sees a value: the first failure -/
def Section.componentFault? (s : Section) (scope : Value) : Option Failure :=
  s.components.findSome? fun c => Failure.of? (Condition.allHold scope none c.conditions).outcome.1

/-- what a step of an expansion fails with -/
def Event.fault? (s : Section) : Event → Option Failure
  | .note _ => none
  | .stop f => some f
  | .place i => s.componentFault? i.scope

/-- what carrying out a move fails with, footers aside -/
def Move.fault? : Move → Option Failure
  | .note _ => none
  | .stop f => some f
  | .turn => none
  | .put p => p.part.componentFault? p.content.scope

/-! ## Faults of scripts -/

theorem opening_fault (c : Cursor Float) : c.opening.findSome? Move.fault? = none := by
  unfold Cursor.opening
  split <;> rfl

theorem script_fault {room : Frame Float} (s : Section) (first : Bool) (events : List Event) (c : Cursor Float) :
    (s.script room first events c).moves.findSome? Move.fault? = events.findSome? (Event.fault? s) := by
  induction events generalizing first c with
  | nil => rfl
  | cons e rest ih =>
    cases e with
    | stop f => rfl
    | note n => exact ih first c
    | place i =>
      have hput : ∀ (q : Placement), q.part = s → q.content = i → Move.fault? (.put q) = Event.fault? s (.place i) := by
        rintro q rfl rfl
        rfl
      rw [List.findSome?_cons]
      unfold Section.script
      split
      · show List.findSome? _ (Move.put _ :: (Section.script room s first rest c).moves) = _
        rw [List.findSome?_cons, hput _ rfl rfl, ih]
      · show List.findSome? _ (_ ++ _) = _
        rw [List.findSome?_append, ih]
        unfold Section.flowScript
        rw [List.findSome?_append, opening_fault, Option.none_or, List.findSome?_singleton, hput _ rfl rfl]
        cases Event.fault? s (.place i) <;> rfl

/-- **The first fault of a script** is the first one of the expansions -/
theorem scripts_fault {room : Frame Float} (root : Value) (sections : List Section) (c : Cursor Float) :
    (Section.scripts room root sections c).moves.findSome? Move.fault? =
      sections.findSome? fun s => (s.expand root).findSome? (Event.fault? s) := by
  induction sections generalizing c with
  | nil => rfl
  | cons s rest ih =>
    show List.findSome? _ (_ ++ _) = _
    rw [List.findSome?_append, script_fault, ih, List.findSome?_cons]
    cases (s.expand root).findSome? (Event.fault? s) <;> rfl

/-! ## Faults of expansions -/

namespace Section

/-- some path that a section needs for a record cannot be followed: that of its list or its object, that of a condition
of its own for the record or an item, or that of a condition of a component for one of its instances -/
inductive Strays (s : Section) (root : Value) : Prop
  | list (hrep : s.isRepeatable = true) (h : Record.PathStrays s.dataBinding root)
  | item (hrep : s.isRepeatable = true) {item : Value} (hitem : item ∈ s.boundItems root)
      (h : Condition.Undecided item (some root) s.conditions)
  | conditions (honce : s.isRepeatable = false) (h : Condition.Undecided root none s.conditions)
  | scope (honce : s.isRepeatable = false) (hadmits : s.admits root none = true)
      (h : Record.PathStrays s.dataBinding root)
  | component {i : Instance} (hi : i ∈ s.instances root) {c : Component} (hc : c ∈ s.components)
      (h : Condition.Undecided i.scope none c.conditions)

variable {s : Section} {root : Value}

theorem componentFault?_eq_none (s : Section) (scope : Value) :
    s.componentFault? scope = none ↔ ∀ c ∈ s.components, ¬ Condition.Undecided scope none c.conditions := by
  unfold componentFault?
  rw [List.findSome?_eq_none_iff]
  exact forall₂_congr fun c _ => Failure.of?_eq_none.trans (Condition.allHold_isOk scope none c.conditions)

theorem componentFault?_isOfPath {scope : Value} {f : Failure} (h : s.componentFault? scope = some f) : f.IsOfPath := by
  obtain ⟨c, -, hc⟩ := List.exists_of_findSome?_eq_some h
  cases hout : (Condition.allHold scope none c.conditions).outcome.1 with
  | ok b => rw [hout] at hc; cases hc
  | error g => rw [hout] at hc; cases hc; exact Condition.allHold_error hout

/-- what stops an expansion is behind the notes made on the way -/
theorem stop_mem_notes {f : Failure} (notes : List Note) (events : List Event) :
    Event.stop f ∈ notes.map Event.note ++ events ↔ Event.stop f ∈ events := by
  refine ⟨fun h => (List.mem_append.1 h).resolve_left fun h => ?_, List.mem_append_right _⟩
  obtain ⟨n, -, hn⟩ := List.mem_map.1 h
  cases hn

theorem runs_notes (notes : List Note) (events : List Event) :
    Event.Runs (notes.map Event.note ++ events) ↔ Event.Runs events :=
  forall_congr' fun _ => not_congr (stop_mem_notes notes events)

theorem runs_expandItems (s : Section) (root : Value) (i : ℕ) (items : List Value) :
    Event.Runs (s.expandItems root i items) ↔ ∀ item ∈ items, ¬ Condition.Undecided item (some root) s.conditions := by
  induction items generalizing i with
  | nil => exact iff_of_true (fun f => List.not_mem_nil) (List.forall_mem_nil _)
  | cons item rest ih =>
    have hitem := Condition.allHold_isOk item (some root) s.conditions
    unfold expandItems
    dsimp only
    rw [runs_notes, List.forall_mem_cons]
    cases hout : (Condition.allHold item (some root) s.conditions).outcome.1 with
    | error f =>
      rw [hout] at hitem
      exact iff_of_false (fun h => h f List.mem_cons_self) fun h => Bool.false_ne_true (hitem.2 h.1)
    | ok b =>
      rw [and_iff_right (hitem.1 (by rw [hout]; rfl)), ← ih (i + 1)]
      cases b with
      | false => exact Iff.rfl
      | true => exact ⟨.tail, .cons fun f => Event.noConfusion⟩

theorem boundScope_isOk (s : Section) (root : Value) :
    (s.boundScope root).isOk = true ↔ ¬ Record.PathStrays s.dataBinding root := by
  rw [← Record.resolve_isOk]
  unfold boundScope
  split
  · next hempty => exact iff_of_true rfl (by rw [hempty]; rfl)
  · rcases Record.resolve root s.dataBinding with f | _ | v
    · exact Iff.rfl
    · exact Iff.rfl
    · cases v <;> exact Iff.rfl

/-- the expansion of a section that repeats comes to its end just if its list and its conditions can be looked up -/
theorem runs_expand_list (hrep : s.isRepeatable = true) (root : Value) : Event.Runs (s.expand root) ↔
    ¬ Record.PathStrays s.dataBinding root ∧
      ∀ item ∈ s.boundItems root, ¬ Condition.Undecided item (some root) s.conditions := by
  have hpath := Record.resolve_isOk root s.dataBinding
  unfold expand boundItems
  rw [hrep, ← hpath, if_neg (by decide)]
  rcases Record.resolve root s.dataBinding with f | _ | v
  · exact iff_of_false (fun h => h f List.mem_cons_self) nofun
  · exact iff_of_true (fun f => List.not_mem_nil) ⟨rfl, nofun⟩
  · cases v with
    | list owner items => exact (runs_expandItems s root 0 items).trans (and_iff_right rfl).symm
    | _ => exact iff_of_true (fun f => List.not_mem_nil) ⟨rfl, nofun⟩

/-- that of a section that does not repeat, just if its conditions and, should they hold, its object can be looked up -/
theorem runs_expand_once (honce : s.isRepeatable = false) (root : Value) : Event.Runs (s.expand root) ↔
    ¬ Condition.Undecided root none s.conditions ∧
      (s.admits root none = true → ¬ Record.PathStrays s.dataBinding root) := by
  have hconditions := Condition.allHold_isOk root none s.conditions
  unfold expand
  rw [honce]
  show Event.Runs (s.expandOnce root) ↔ _
  unfold expandOnce
  dsimp only
  rw [runs_notes]
  cases hout : (Condition.allHold root none s.conditions).outcome.1 with
  | error f =>
    rw [hout] at hconditions
    exact iff_of_false (fun h => h f List.mem_cons_self) fun h => Bool.false_ne_true (hconditions.2 h.1)
  | ok b =>
    rw [and_iff_right (hconditions.1 (by rw [hout]; rfl)), admits_of_outcome hout]
    cases b with
    | false => exact iff_of_true (fun f => List.not_mem_nil) nofun
    | true =>
      rw [← boundScope_isOk, imp_iff_right rfl]
      dsimp only
      cases s.boundScope root with
      | error f => exact iff_of_false (fun h => h f List.mem_cons_self) nofun
      | ok v => exact iff_of_true (.cons nofun fun f => List.not_mem_nil) rfl

theorem stop_expandItems {f : Failure} {i : ℕ} {items : List Value} (h : Event.stop f ∈ s.expandItems root i items) :
    f.IsOfPath := by
  induction items generalizing i with
  | nil => cases h
  | cons item rest ih =>
    unfold expandItems at h
    have hrest := (stop_mem_notes _ _).1 h
    split at hrest
    · next hout => cases List.mem_singleton.1 hrest; exact Condition.allHold_error hout
    · exact ih hrest
    · exact ih ((List.mem_cons.1 hrest).resolve_left nofun)

/-- what stops an expansion is a failure of a path -/
theorem stop_isOfPath {f : Failure} (h : Event.stop f ∈ s.expand root) : f.IsOfPath := by
  unfold expand at h
  split at h
  · unfold expandOnce at h
    have hrest := (stop_mem_notes _ _).1 h
    split at hrest
    · next hout => cases List.mem_singleton.1 hrest; exact Condition.allHold_error hout
    · cases hrest
    · split at hrest
      · next hscope =>
        cases List.mem_singleton.1 hrest
        unfold boundScope at hscope
        split at hscope
        · cases hscope
        · split at hscope
          · next hfound => cases hscope; exact Record.resolve_error hfound
          · cases hscope
          · cases hscope
      · exact absurd (List.mem_singleton.1 hrest) nofun
  · split at h
    · next hfound => cases List.mem_singleton.1 h; exact Record.resolve_error hfound
    · exact stop_expandItems h
    · cases h

theorem faultless_iff (s : Section) (events : List Event) : events.findSome? (Event.fault? s) = none ↔
    Event.Runs events ∧ ∀ i ∈ events.filterMap Event.instance?, s.componentFault? i.scope = none := by
  rw [List.findSome?_eq_none_iff]
  constructor
  · refine fun h => ⟨fun f hf => absurd (h _ hf) nofun, fun i hi => ?_⟩
    obtain ⟨e, he, hei⟩ := List.mem_filterMap.1 hi
    cases e with
    | place i' => cases hei; exact h _ he
    | note n => cases hei
    | stop f => cases hei
  · rintro ⟨hruns, hplaced⟩ e he
    cases e with
    | note n => rfl
    | stop f => exact absurd he (hruns f)
    | place i => exact hplaced i (List.mem_filterMap.2 ⟨_, he, rfl⟩)

/-- **An expansion** has no fault just if the section does not stray -/
theorem expand_fault_none (s : Section) (root : Value) :
    (s.expand root).findSome? (Event.fault? s) = none ↔ ¬ s.Strays root := by
  rw [faultless_iff]
  constructor
  · rintro ⟨hruns, hplaced⟩ hstrays
    rw [expand_instances s root hruns] at hplaced
    cases hstrays with
    | list hrep h => exact ((runs_expand_list hrep root).1 hruns).1 h
    | item hrep hitem h => exact ((runs_expand_list hrep root).1 hruns).2 _ hitem h
    | conditions honce h => exact ((runs_expand_once honce root).1 hruns).1 h
    | scope honce hadmits h => exact ((runs_expand_once honce root).1 hruns).2 hadmits h
    | component hi hc h => exact (componentFault?_eq_none s _).1 (hplaced _ hi) _ hc h
  · intro hno
    have hruns : Event.Runs (s.expand root) := by
      cases hrep : s.isRepeatable with
      | true =>
        exact (runs_expand_list hrep root).2 ⟨fun h => hno (.list hrep h), fun _ hitem h => hno (.item hrep hitem h)⟩
      | false =>
        exact (runs_expand_once hrep root).2 ⟨fun h => hno (.conditions hrep h), fun ha h => hno (.scope hrep ha h)⟩
    refine ⟨hruns, fun i hi => (componentFault?_eq_none s i.scope).2 fun c hc h => ?_⟩
    rw [expand_instances s root hruns] at hi
    exact hno (.component hi hc h)

/-- a fault of an expansion is one of a path -/
theorem expand_fault_isOfPath {f : Failure} (h : (s.expand root).findSome? (Event.fault? s) = some f) :
    f.IsOfPath := by
  obtain ⟨e, he, hf⟩ := List.exists_of_findSome?_eq_some h
  cases e with
  | note n => cases hf
  | stop g => cases hf; exact stop_isOfPath he
  | place i => exact componentFault?_isOfPath hf

end Section

end ReportPress
