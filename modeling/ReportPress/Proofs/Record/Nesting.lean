import ReportPress.Flow.Instance
import ReportPress.Proofs.Number.Written
import ReportPress.Proofs.Record.Path
/-!
Paths put together. Following a path that goes on behind a point is following its first part and then the rest from where
that led; a part that leads nowhere or fails decides the whole. A component inside a section that is bound to an object,
or to a list whose items it is repeated for, reads what the longer path from the record leads to. Where the section is
bound to anything else, its components see the record itself.

- `resolve_append`: two paths with a point between them.
- `readInt_repr`, `resolve_item`: an item's place, written in digits, is a path that leads to it.
- `boundScope_cases`, `place_mem_expand`: what the components of an instance see.
- `resolve_nested`: paths and bindings put together. `unbound_section_reads_record`: a section whose binding leads nowhere.
-/

namespace ReportPress

namespace Record

/-- one path and, behind a point, another -/
def under (p q : String) : String := p ++ "." ++ q

/-- following one path, and then another from where it led -/
def resolveThen (record : Value) (p q : String) : Except Failure (Option Value) :=
  match resolve record p with
  | .ok (some v) => resolve v q
  | r => r

theorem under_ne_empty (p q : String) : under p q ≠ "" := by
  intro h
  simpa [under] using congrArg String.toList h

theorem segments_under (p q : String) :
    Text.split '.' (under p q).toList = Text.split '.' p.toList ++ Text.split '.' q.toList := by
  have hcut : (under p q).toList = p.toList ++ '.' :: q.toList := by simp [under]
  rw [hcut, Text.split_append]

/-- **Two paths** with a point between them are followed one after the other -/
theorem resolve_append (record : Value) {p q : String} (hp : p ≠ "") (hq : q ≠ "") :
    resolve record (under p q) = resolveThen record p q := by
  have hfirst : resolve record p = follow (Text.split '.' p.toList) record := if_neg hp
  have hrest : ∀ v, resolve v q = follow (Text.split '.' q.toList) v := fun _ => if_neg hq
  have hwhole : resolve record (under p q) = follow (Text.split '.' (under p q).toList) record :=
    if_neg (under_ne_empty p q)
  rw [hwhole, segments_under, follow_append, resolveThen, hfirst]
  cases follow (Text.split '.' p.toList) record with
  | error f => rfl
  | ok found =>
    cases found with
    | none => rfl
    | some v => exact (hrest v).symm

theorem resolveThen_of_ok {record v : Value} {p : String} (h : resolve record p = .ok (some v)) (q : String) :
    resolveThen record p q = resolve v q := by
  simp only [resolveThen, h]

end Record

/-! ## Places written in digits -/

namespace Numeral

theorem toNat_of_isDigit {c : Char} (h : c.isDigit = true) : 48 ≤ c.toNat ∧ c.toNat < 58 := by
  simp only [Char.isDigit, Bool.and_eq_true, decide_eq_true_eq, UInt32.le_iff_toNat_le] at h
  exact ⟨h.1, Nat.lt_succ_of_le h.2⟩

/-- an ASCII digit is a digit of the first script -/
theorem digitValue?_of_isDigit {c : Char} (h : c.isDigit = true) : Text.digitValue? c = some (c.toNat - 48) := by
  obtain ⟨hlo, hhi⟩ := toNat_of_isDigit h
  simp [Text.digitValue?, Text.zeros, hlo, hhi]

theorem plain_of_isDigit {c : Char} (h : c.isDigit = true) : plain c = c := by
  have hlo := (toNat_of_isDigit h).1
  unfold plain
  rw [digitValue?_of_isDigit h]
  dsimp only
  rw [Nat.add_sub_cancel' hlo, Char.ofNat_toNat]

theorem valueOf_eq (ds : List Char) : valueOf ds = digitsOf ds := by
  unfold valueOf digitsOf Text.digitsValue Nat.ofDigitChars
  rw [List.foldl_map]
  rfl

/-- **A number** that is not too long is read back from its digits -/
theorem readInt_repr {n : ℕ} (h : (Nat.repr n).length ≤ digitLimit) : readInt (Nat.repr n) = .ok n := by
  have hdigits := isDigits_toDigits n
  have hdigit : ∀ c ∈ Nat.toDigits 10 n, Text.isDigit c = true := fun c hc => by
    rw [Text.isDigit, digitValue?_of_isDigit (hdigits c hc), Option.isSome_some]
  have hplain : (Nat.toDigits 10 n).map plain = Nat.toDigits 10 n :=
    (List.map_congr_left fun c hc => plain_of_isDigit (hdigits c hc)).trans (List.map_id _)
  have hlen : ¬ digitLimit < (Nat.toDigits 10 n).length := by
    rw [← Nat.toList_repr, String.length_toList]
    exact Nat.not_lt.2 h
  show readInt (String.ofList (Nat.toDigits 10 n)) = .ok n
  rw [readInt_of_digitLike Nat.toDigits_ne_nil fun c hc => digitLike_of_digit (hdigit c hc),
    List.takeWhile_eq_self_iff.2 hdigit, if_neg hlen, if_pos (List.all_eq_true.2 hdigit), hplain, valueOf_eq,
    digitsOf_toDigits]

end Numeral

namespace Record

theorem point_notMem_repr (n : ℕ) : '.' ∉ (Nat.repr n).toList := by
  rw [Nat.toList_repr]
  intro h
  exact absurd (isDigits_toDigits n '.' h) (by decide)

theorem repr_ne_empty (n : ℕ) : Nat.repr n ≠ "" := by
  intro h
  have hnil : Nat.toDigits 10 n = [] := by rw [← Nat.toList_repr, h]; rfl
  exact Nat.toDigits_ne_nil hnil

/-- **A place** in a list, written in digits, leads to the item there -/
theorem resolve_item {owner : Owner} {items : List Value} {n : ℕ} (h : (Nat.repr n).length ≤ Numeral.digitLimit) :
    resolve (.list owner items) (Nat.repr n) = .ok items[n]? := by
  have hlike : (Nat.repr n).toList ≠ [] ∧ (Nat.repr n).toList.all Text.isDigitLike = true := by
    rw [Nat.toList_repr]
    refine ⟨Nat.toDigits_ne_nil, List.all_eq_true.2 fun c hc => Numeral.digitLike_of_digit ?_⟩
    rw [Text.isDigit, Numeral.digitValue?_of_isDigit (isDigits_toDigits n c hc), Option.isSome_some]
  have hstep : step (.list owner items) (Nat.repr n).toList = .ok items[n]? := by
    unfold step
    dsimp only
    rw [if_pos hlike, String.ofList_toList, Numeral.readInt_repr h]
    rfl
  unfold resolve
  rw [if_neg (repr_ne_empty n), split_of_notMem (point_notMem_repr n), follow, hstep]
  cases items[n]? <;> rfl

end Record

/-! ## What components see -/

namespace Section

/-- notes place nothing -/
theorem place_mem_notes {i : Instance} (notes : List Note) (events : List Event) :
    Event.place i ∈ notes.map .note ++ events ↔ Event.place i ∈ events := by
  simp

theorem place_mem_expandOnce {s : Section} {root : Value} {i : Instance} (h : .place i ∈ s.expandOnce root) :
    i.index = none ∧ s.boundScope root = .ok i.scope := by
  unfold expandOnce at h
  dsimp only at h
  rw [place_mem_notes] at h
  split at h
  · simp at h
  · simp at h
  · split at h
    · simp at h
    · next hscope =>
      simp only [List.mem_singleton, Event.place.injEq] at h
      subst h
      exact ⟨rfl, hscope⟩

/-- the induction is on the items that are left; the first of them stands at the place `n` -/
theorem place_mem_expandItems {s : Section} {root : Value} {i : Instance} {n : ℕ} {items : List Value}
    (h : .place i ∈ s.expandItems root n items) : ∃ k, i.index = some (n + k) ∧ items[k]? = some i.scope := by
  induction items generalizing n with
  | nil => cases h
  | cons item rest ih =>
    have hlater : .place i ∈ s.expandItems root (n + 1) rest →
        ∃ k, i.index = some (n + k) ∧ (item :: rest)[k]? = some i.scope := by
      intro hrest
      obtain ⟨k, hindex, hitem⟩ := ih hrest
      exact ⟨k + 1, by rw [hindex, Nat.add_right_comm, Nat.add_assoc], by simpa using hitem⟩
    unfold expandItems at h
    dsimp only at h
    rw [place_mem_notes] at h
    split at h
    · simp at h
    · exact hlater h
    · rcases List.mem_cons.1 h with hhere | hrest
      · cases hhere
        exact ⟨0, rfl, rfl⟩
      · exact hlater hrest

/-- what the components of an instance see: of a section that does not repeat, what it is bound to if that is an object,
else the record; of one that repeats, the item at the instance's place -/
theorem place_mem_expand {s : Section} {root : Value} {i : Instance} (h : .place i ∈ s.expand root) :
    if s.isRepeatable then
      ∃ owner items n, Record.resolve root s.dataBinding = .ok (some (.list owner items)) ∧ i.index = some n ∧
        items[n]? = some i.scope
    else i.index = none ∧ s.boundScope root = .ok i.scope := by
  unfold expand at h
  by_cases hrep : s.isRepeatable = true
  · rw [if_pos hrep]
    simp only [hrep, Bool.not_true, Bool.false_eq_true, if_false] at h
    split at h
    · simp at h
    · next owner items hlist =>
      obtain ⟨n, hindex, hitem⟩ := place_mem_expandItems h
      exact ⟨owner, items, n, hlist, by rw [hindex, Nat.zero_add], hitem⟩
    · simp at h
  · rw [if_neg hrep]
    simp only [hrep, Bool.not_false, if_true] at h
    exact place_mem_expandOnce h

end Section

namespace Record

/-- the path leads to an object -/
def LeadsToObject (record : Value) (p : String) : Prop := ∃ owner fields, resolve record p = .ok (some (.object owner fields))

theorem boundScope_of_object {s : Section} {record scope : Value} (hobject : LeadsToObject record s.dataBinding)
    (hbound : s.dataBinding ≠ "") (h : s.boundScope record = .ok scope) :
    resolve record s.dataBinding = .ok (some scope) := by
  obtain ⟨owner, fields, hfound⟩ := hobject
  simp only [Section.boundScope, hbound, if_false, hfound, Except.ok.injEq] at h
  rw [hfound, h]

theorem boundScope_of_other {s : Section} {record scope : Value} (hother : ¬ LeadsToObject record s.dataBinding)
    (h : s.boundScope record = .ok scope) : scope = record := by
  unfold Section.boundScope at h
  split at h
  · cases h; rfl
  · split at h
    · cases h
    · next owner fields hfound => exact absurd ⟨owner, fields, hfound⟩ hother
    · cases h; rfl

/-- **Paths and bindings put together.** What a path and another behind a point lead to is what the second leads to from
where the first led. So a component of a section bound to `p` that is bound to `q` itself reads what `p.q` leads to if
`p` leads to an object, and what `p.n.q` leads to in the instance of a section repeated over the list at `p` for the
item at the place `n`; of a section that does not repeat and whose binding leads to no object, the components read from
the record -/
theorem resolve_nested (record : Value) {p q : String} (hp : p ≠ "") (hq : q ≠ "") :
    resolve record (under p q) = resolveThen record p q ∧
      ∀ s : Section, s.dataBinding = p → ∀ i, .place i ∈ s.expand record →
        (s.isRepeatable = false → LeadsToObject record p → resolve i.scope q = resolve record (under p q)) ∧
          (s.isRepeatable = false → ¬ LeadsToObject record p → i.scope = record) ∧
          (s.isRepeatable = true → ∃ n, i.index = some n ∧ ((Nat.repr n).length ≤ Numeral.digitLimit →
            resolve i.scope q = resolve record (under (under p (Nat.repr n)) q))) := by
  refine ⟨resolve_append record hp hq, ?_⟩
  rintro s rfl i hplace
  have hsees := Section.place_mem_expand hplace
  refine ⟨fun honce hobject => ?_, fun honce hother => ?_, fun hrep => ?_⟩
  · simp only [honce, Bool.false_eq_true, if_false] at hsees
    have hscope := boundScope_of_object hobject hp hsees.2
    rw [resolve_append record hp hq, resolveThen_of_ok hscope]
  · simp only [honce, Bool.false_eq_true, if_false] at hsees
    exact boundScope_of_other hother hsees.2
  · rw [if_pos hrep] at hsees
    obtain ⟨owner, items, n, hlist, hindex, hitem⟩ := hsees
    refine ⟨n, hindex, fun hlen => ?_⟩
    have hplaced : resolve record (under s.dataBinding (Nat.repr n)) = .ok (some i.scope) := by
      rw [resolve_append record hp (repr_ne_empty n), resolveThen_of_ok hlist, resolve_item hlen, hitem]
    rw [resolve_append record (under_ne_empty _ _) hq, resolveThen_of_ok hplaced]

namespace Sample

/-- a site with a name, and two findings -/
def inspection : Value :=
  .object .record [("name", .string "North hall"), ("site", .object .record [("name", .string "Yard")]),
    ("findings", .list .record [.object .record [], .object .record [("title", .string "Crack")]])]

/-- a section that is bound to a path -/
def boundTo (path : String) (repeats : Bool) : Section :=
  { id := "s", name := "S", kind := .content, position := ⟨0.0, 0.0⟩, dimensions := ⟨0.0, 0.0⟩, dataBinding := path,
    isRepeatable := repeats }

end Sample

/-- a section bound to the site, and one repeated for the findings -/
theorem resolve_nested_sample :
    resolve Sample.inspection "site.name" = .ok (some (.string "Yard")) ∧
      resolve Sample.inspection (under "site" "name") = resolveThen Sample.inspection "site" "name" ∧
      (∃ i, .place i ∈ (Sample.boundTo "site" false).expand Sample.inspection ∧
        resolve i.scope "name" = resolve Sample.inspection (under "site" "name")) ∧
      ∃ i, .place i ∈ (Sample.boundTo "findings" true).expand Sample.inspection ∧
        resolve i.scope "title" = resolve Sample.inspection "findings.1.title" := by
  have hsite := resolve_nested Sample.inspection (show "site" ≠ "" by decide) (show "name" ≠ "" by decide)
  have hfindings := resolve_nested Sample.inspection (show "findings" ≠ "" by decide) (show "title" ≠ "" by decide)
  refine ⟨rfl, hsite.1, ⟨_, List.mem_singleton_self _, ?_⟩, ⟨⟨_, some 1⟩, List.mem_of_getElem? (i := 1) rfl, ?_⟩⟩
  · exact (hsite.2 (Sample.boundTo "site" false) rfl _ (List.mem_singleton_self _)).1 rfl ⟨_, _, rfl⟩
  · obtain ⟨n, hindex, hread⟩ := (hfindings.2 (Sample.boundTo "findings" true) rfl ⟨_, some 1⟩
      (List.mem_of_getElem? (i := 1) rfl)).2.2 rfl
    cases hindex
    exact hread (by decide)

/-- A section bound to a site that the record does not have: its components read the record's own name, though `site.name`
leads nowhere -/
theorem unbound_section_reads_record :
    let record : Value := .object .record [("name", .string "North hall")]
    ∃ i, .place i ∈ (Sample.boundTo "site" false).expand record ∧
      resolve i.scope "name" = .ok (some (.string "North hall")) ∧ resolve record (under "site" "name") = .ok none :=
  ⟨⟨_, none⟩, List.mem_singleton_self _, rfl, rfl⟩

end Record

end ReportPress
