import Mathlib.Data.Int.CharZero
import Mathlib.Data.List.Forall2
import Mathlib.Data.List.Perm.Subperm
import ReportPress.Proofs.Number.Exact
import ReportPress.Proofs.Value.Fields
import ReportPress.Value.Equality
/-!
Equality of values of records. Two values are equal if they have the same contents, and both are truth values or neither
is. Having the same contents goes down into containers: lists item by item, and objects key by key, each key being there
once. So it goes both ways and carries over, and the order of keys makes no difference to it.

- `OfRecord`: a value as a record has it.
- `Same`: how two values come to have the same contents. `same_self`, `same_symm`, `same_trans`: the laws of that.
- `strictEq_eq`: equality by contents. `strictEq_self`, `strictEq_comm`, `strictEq_trans`: the laws of it.
- `strictEq_iff_amount`: numbers are compared by their exact values.
- `strictEq_object_iff`, `Reordered.strictEq`: objects are compared by what they have under each key, in any order.
-/

namespace ReportPress.Value

/-- a value as a record has it: numbers are numbers, containers are the record's, and no key is there twice -/
inductive OfRecord : Value → Prop where
  | null : OfRecord .null
  | bool (b : Bool) : OfRecord (.bool b)
  | int (n : ℤ) : OfRecord (.int n)
  | float {x : Float} (hnum : Binary64.read x ≠ .nan) : OfRecord (.float x)
  | string (s : String) : OfRecord (.string s)
  | list {items : List Value} (h : ∀ v ∈ items, OfRecord v) : OfRecord (.list .record items)
  | object {fields : Fields} (hkeys : (fields.map Prod.fst).Nodup) (h : ∀ f ∈ fields, OfRecord f.2) :
      OfRecord (.object .record fields)

/-! ## Equal to itself -/

theorem sameAll_self {items : List Value} (h : ∀ v ∈ items, same v v = true) : sameAll items items = true := by
  induction items with
  | nil => rfl
  | cons v rest ih =>
    rw [sameAll, h v List.mem_cons_self, Bool.true_and]
    exact ih fun w hw => h w (List.mem_cons_of_mem v hw)

theorem sameFields_of_get? {fs gs : Fields} (hget : ∀ f ∈ fs, Fields.get? gs f.1 = some f.2)
    (h : ∀ f ∈ fs, same f.2 f.2 = true) : sameFields fs gs = true := by
  induction fs with
  | nil => rfl
  | cons f rest ih =>
    have hfirst := h f List.mem_cons_self
    rw [sameFields, hget f List.mem_cons_self]
    dsimp only
    rw [hfirst, Bool.true_and]
    exact ih (fun g hg => hget g (List.mem_cons_of_mem f hg)) fun g hg => h g (List.mem_cons_of_mem f hg)

theorem same_self {v : Value} (h : v.OfRecord) : same v v = true := by
  induction h with
  | null => rfl
  | bool b => exact beq_self_eq_true (Worth.ofInt _)
  | int n => exact beq_self_eq_true (Worth.ofInt n)
  | @float x hnum => exact beq_self_eq_true (Worth.ofFloat x)
  | string s => exact beq_self_eq_true s
  | list h ih => simp [same, sameAll_self ih]
  | object hkeys h ih =>
    have hfields := sameFields_of_get? (fun f hf => Fields.get?_of_mem hkeys hf) ih
    simp [same, hfields]

/-! ## Contents -/

theorem sameAll_iff {xs ys : List Value} :
    sameAll xs ys = true ↔ List.Forall₂ (fun x y => same x y = true) xs ys := by
  induction xs generalizing ys with
  | nil => cases ys <;> simp [sameAll]
  | cons x xs ih =>
    cases ys with
    | nil => simp [sameAll]
    | cons y ys => rw [sameAll, Bool.and_eq_true, List.forall₂_cons, ih]

/-- every field of the one object is there in the other, with the same contents -/
def Covered (fs gs : Fields) : Prop := ∀ f ∈ fs, ∃ w, Fields.get? gs f.1 = some w ∧ same f.2 w = true

theorem sameFields_iff {fs gs : Fields} : sameFields fs gs = true ↔ Covered fs gs := by
  unfold Covered
  induction fs with
  | nil => simp [sameFields]
  | cons f fs ih =>
    obtain ⟨k, v⟩ := f
    rw [sameFields, Bool.and_eq_true, List.forall_mem_cons, ih]
    cases Fields.get? gs k <;> simp

/-- how two values come to have the same contents -/
inductive Same : Value → Value → Prop
  | null : Same .null .null
  | string (s : String) : Same (.string s) (.string s)
  | number {v w : Value} {a : Worth} (hv : v.numeric? = some a) (hw : w.numeric? = some a) : Same v w
  | list (owner : Owner) {xs ys : List Value} (h : List.Forall₂ (fun x y => same x y = true) xs ys) :
      Same (.list owner xs) (.list owner ys)
  | object (owner : Owner) {fs gs : Fields} (hlen : fs.length = gs.length) (h : Covered fs gs) :
      Same (.object owner fs) (.object owner gs)

theorem same_of_numeric {v w : Value} {a b : Worth} (hv : v.numeric? = some a) (hw : w.numeric? = some b) :
    same v w = (a == b) := by
  cases v with
  | null => cases hv
  | string s => cases hv
  | list owner items => cases hv
  | object owner fields => cases hv
  | _ =>
    cases w with
    | null => cases hw
    | string s => cases hw
    | list owner items => cases hw
    | object owner fields => cases hw
    | _ => simp only [same, hv, hw]

theorem same_iff {v w : Value} : same v w = true ↔ Same v w := by
  constructor
  · intro h
    unfold same at h
    split at h
    · exact .null
    · rw [beq_iff_eq.1 h]
      exact .string _
    · rw [Bool.and_eq_true, beq_iff_eq, sameAll_iff] at h
      obtain ⟨rfl, h⟩ := h
      exact .list _ h
    · rw [Bool.and_eq_true, Bool.and_eq_true, beq_iff_eq, beq_iff_eq, sameFields_iff] at h
      obtain ⟨⟨rfl, hlen⟩, h⟩ := h
      exact .object _ hlen h
    · split at h
      · next a b hv hw => exact .number hv (beq_iff_eq.1 h ▸ hw)
      · cases h
  · rintro (_ | s | ⟨hv, hw⟩ | ⟨owner, h⟩ | ⟨owner, hlen, h⟩)
    · rfl
    · exact beq_self_eq_true s
    · exact (same_of_numeric hv hw).trans (beq_self_eq_true _)
    · rw [same, beq_self_eq_true, Bool.true_and]
      exact sameAll_iff.2 h
    · rw [same, beq_self_eq_true, Bool.true_and, beq_iff_eq.2 hlen, Bool.true_and]
      exact sameFields_iff.2 h

/-! ## Symmetry and transitivity of contents -/

theorem Covered.keys_subset {fs gs : Fields} (h : Covered fs gs) : fs.map Prod.fst ⊆ gs.map Prod.fst := by
  intro k hk
  obtain ⟨f, hf, rfl⟩ := List.mem_map.1 hk
  obtain ⟨w, hw, -⟩ := h f hf
  exact List.mem_map.2 ⟨_, Fields.mem_of_get? hw, rfl⟩

/-- of two objects with as many fields, each key once, either has every field of the other if one of them has -/
theorem Covered.symm {fs gs : Fields} (h : Covered fs gs) (hfs : (fs.map Prod.fst).Nodup)
    (hgs : (gs.map Prod.fst).Nodup) (hlen : fs.length = gs.length)
    (hback : ∀ f ∈ fs, ∀ g ∈ gs, same f.2 g.2 = true → same g.2 f.2 = true) : Covered gs fs := by
  have hperm : (fs.map Prod.fst).Perm (gs.map Prod.fst) :=
    (List.subperm_of_subset hfs h.keys_subset).perm_of_length_le (by simp [hlen])
  intro g hg
  obtain ⟨f, hf, hkey⟩ := List.mem_map.1 (hperm.mem_iff.2 (List.mem_map.2 ⟨g, hg, rfl⟩))
  obtain ⟨w, hw, hsame⟩ := h f hf
  rw [hkey, Fields.get?_of_mem hgs hg] at hw
  cases hw
  refine ⟨f.2, ?_, hback f hf g hg hsame⟩
  rw [← hkey]
  exact Fields.get?_of_mem hfs hf

/-- **Having the same contents** goes both ways -/
theorem same_symm {v w : Value} (hv : v.OfRecord) (hw : w.OfRecord) (h : same v w = true) : same w v = true := by
  induction hv generalizing w with
  | list hitems ih =>
    rcases same_iff.1 h with _ | _ | ⟨hn, -⟩ | ⟨_, hall⟩
    · cases hn
    cases hw with
    | list hothers =>
      have hback := ((List.forall₂_and_left _ _).2 ⟨ih, hall⟩).flip
      refine same_iff.2 (.list _ (((List.forall₂_and_left _ _).2 ⟨hothers, hback⟩).imp ?_))
      rintro w v ⟨hw, hvw, hsame⟩
      exact hvw hw hsame
  | object hkeys hfields ih =>
    rcases same_iff.1 h with _ | _ | ⟨hn, -⟩ | _ | ⟨_, hlen, hall⟩
    · cases hn
    cases hw with
    | object hothers hvalues =>
      refine same_iff.2 (.object _ hlen.symm (hall.symm hkeys hothers hlen ?_))
      intro f hf g hg
      exact ih f hf (hvalues g hg)
  | null | string s =>
    rcases same_iff.1 h with _ | _ | ⟨hn, -⟩
    · exact h
    · cases hn
  | bool b | int n | float hnum =>
    rcases same_iff.1 h with _ | _ | ⟨hn, hm⟩
    exact same_iff.2 (.number hm hn)

theorem sameItems_trans {xs ys zs : List Value}
    (h : ∀ x ∈ xs, ∀ y z, same x y = true → same y z = true → same x z = true)
    (hxy : List.Forall₂ (fun x y => same x y = true) xs ys) (hyz : List.Forall₂ (fun y z => same y z = true) ys zs) :
    List.Forall₂ (fun x z => same x z = true) xs zs := by
  induction hxy generalizing zs with
  | nil =>
    cases hyz
    exact .nil
  | cons hx hxs ih =>
    cases hyz with
    | cons hy hys =>
      obtain ⟨hfirst, hrest⟩ := List.forall_mem_cons.1 h
      exact .cons (hfirst _ _ hx hy) (ih hrest hys)

/-- having the same contents carries over -/
theorem same_trans {u v w : Value} (hu : u.OfRecord) (huv : same u v = true) (hvw : same v w = true) :
    same u w = true := by
  induction hu generalizing v w with
  | list hitems ih =>
    rcases same_iff.1 huv with _ | _ | ⟨hn, -⟩ | ⟨_, hxy⟩
    · cases hn
    rcases same_iff.1 hvw with _ | _ | ⟨hn, -⟩ | ⟨_, hyz⟩
    · cases hn
    exact same_iff.2 (.list _ (sameItems_trans (fun x hx y z => ih x hx) hxy hyz))
  | object hkeys hfields ih =>
    rcases same_iff.1 huv with _ | _ | ⟨hn, -⟩ | _ | ⟨_, hlen, hfs⟩
    · cases hn
    rcases same_iff.1 hvw with _ | _ | ⟨hn, -⟩ | _ | ⟨_, hlen', hgs⟩
    · cases hn
    refine same_iff.2 (.object _ (hlen.trans hlen') fun f hf => ?_)
    obtain ⟨x, hx, hfx⟩ := hfs f hf
    obtain ⟨y, hy, hxy⟩ := hgs _ (Fields.mem_of_get? hx)
    exact ⟨y, hy, ih f hf hfx hxy⟩
  | null | string s =>
    rcases same_iff.1 huv with _ | _ | ⟨hn, -⟩
    · exact hvw
    · cases hn
  | bool b | int n | float hnum =>
    rcases same_iff.1 huv with _ | _ | ⟨ha, hb⟩
    rcases same_iff.1 hvw with _ | _ | ⟨hb', hc⟩
    · cases hb
    · cases hb
    · cases hb.symm.trans hb'
      exact same_iff.2 (.number ha hc)
    · cases hb
    · cases hb

/-! ## Equality of values as such -/

theorem Worth.equal_eq {a : Worth} (h : a ≠ .nan) (b : Worth) : a.equal b = (a == b) := by
  cases a with
  | nan => exact absurd rfl h
  | infinite negative => cases b <;> rfl
  | finite units => cases b <;> rfl

theorem OfRecord.number_ne_nan {v : Value} (h : v.OfRecord) {a : Worth} (ha : v.number? = some a) : a ≠ .nan := by
  cases h with
  | int n =>
    cases ha
    exact nofun
  | @float x hnum =>
    cases ha
    unfold Worth.ofFloat
    cases hread : Binary64.read x with
    | nan => exact absurd hread hnum
    | infinite negative => exact nofun
    | finite b => exact nofun
  | _ => cases ha

def isTruth : Value → Bool
  | .bool _ => true
  | _ => false

theorem isTruth_of_ne {v : Value} (h : ∀ b, v ≠ .bool b) : v.isTruth = false := by
  cases v with
  | bool b => exact absurd rfl (h b)
  | _ => rfl

theorem numeric?_of_number {v : Value} {a : Worth} (h : v.number? = some a) : v.numeric? = some a := by
  cases v with
  | bool b => cases h
  | _ => exact h

theorem Worth.ofInt_inj {m n : ℤ} : Worth.ofInt m = Worth.ofInt n ↔ m = n := by
  unfold Worth.ofInt
  rw [Worth.finite.injEq]
  exact mul_left_inj' (Int.natCast_ne_zero.2 Binary64.unitsPerOne_pos.ne')

/-- two values are equal just if they have the same contents, and both are truth values or neither is -/
theorem strictEq_eq {v : Value} (hv : v.OfRecord) (w : Value) :
    strictEq v w = (same v w && v.isTruth == w.isTruth) := by
  unfold strictEq
  split
  · next b c =>
    rw [same_of_numeric rfl rfl, isTruth, isTruth, beq_self_eq_true, Bool.and_true, Bool.eq_iff_iff, beq_iff_eq,
      beq_iff_eq, Worth.ofInt_inj]
    cases b <;> cases c <;> decide
  · next b hw =>
    have hother : w.isTruth = false := isTruth_of_ne hw
    rw [hother]
    exact (Bool.and_false _).symm
  · next c hv' =>
    have hother : v.isTruth = false := isTruth_of_ne hv'
    rw [hother]
    exact (Bool.and_false _).symm
  · next hvb hwb _ =>
    rw [isTruth_of_ne hvb, isTruth_of_ne hwb, beq_self_eq_true, Bool.and_true]
    split
    · next a b ha hb =>
      rw [Worth.equal_eq (hv.number_ne_nan ha), same_of_numeric (numeric?_of_number ha) (numeric?_of_number hb)]
    · rfl

/-- **A value of a record** is equal to itself -/
theorem strictEq_self {v : Value} (h : v.OfRecord) : strictEq v v = true := by
  rw [strictEq_eq h, same_self h, beq_self_eq_true, Bool.and_true]

/-! ## Laws of equality -/

theorem strictEq_comm {v w : Value} (hv : v.OfRecord) (hw : w.OfRecord) : strictEq v w = strictEq w v := by
  rw [strictEq_eq hv, strictEq_eq hw, Bool.beq_comm]
  congr 1
  exact Bool.eq_iff_iff.2 ⟨same_symm hv hw, same_symm hw hv⟩

theorem strictEq_trans {u v w : Value} (hu : u.OfRecord) (hv : v.OfRecord) (huv : strictEq u v = true)
    (hvw : strictEq v w = true) : strictEq u w = true := by
  rw [strictEq_eq hu, Bool.and_eq_true, beq_iff_eq] at huv
  rw [strictEq_eq hv, Bool.and_eq_true, beq_iff_eq] at hvw
  rw [strictEq_eq hu, Bool.and_eq_true, beq_iff_eq]
  exact ⟨same_trans hu huv.1 hvw.1, huv.2.trans hvw.2⟩

/-- equal values are equal to the same values -/
theorem strictEq_congr {u v w : Value} (hu : u.OfRecord) (hv : v.OfRecord) (hw : w.OfRecord)
    (h : strictEq v w = true) : strictEq u v = strictEq u w :=
  Bool.eq_iff_iff.2 ⟨fun huv => strictEq_trans hu hv huv h,
    fun huw => strictEq_trans hu hw huw (strictEq_comm hv hw ▸ h)⟩

theorem looseEq_of_strictEq {v w : Value} (h : strictEq v w = true) : looseEq v w = true := by
  rw [looseEq, h, Bool.true_or]

theorem looseEq_comm {v w : Value} (hv : v.OfRecord) (hw : w.OfRecord) : looseEq v w = looseEq w v := by
  rw [looseEq, looseEq, strictEq_comm hv hw, Bool.and_comm (!v.isNull), Bool.beq_comm]

/-! ## Numbers -/

/-- the exact value of a number -/
inductive Amount where
  | fraction (q : ℚ)
  | infinite (negative : Bool)

def amount? : Value → Option Amount
  | .int n => some (.fraction n)
  | .float x =>
    match Binary64.read x with
    | .nan => none
    | .infinite negative => some (.infinite negative)
    | .finite b => some (.fraction (b.units / Binary64.unitsPerOne))
  | _ => none

def Worth.amount? : Worth → Option Amount
  | .nan => none
  | .infinite negative => some (.infinite negative)
  | .finite units => some (.fraction (units / Binary64.unitsPerOne))

theorem Worth.amount?_inj {a b : Worth} {p q : Amount} (ha : a.amount? = some p) (hb : b.amount? = some q) :
    a = b ↔ p = q := by
  have hunit : (Binary64.unitsPerOne : ℚ) ≠ 0 := Nat.cast_ne_zero.2 Binary64.unitsPerOne_pos.ne'
  cases a <;> cases b <;> cases ha <;> cases hb
  · rw [Worth.infinite.injEq, Amount.infinite.injEq]
  · exact iff_of_false nofun nofun
  · exact iff_of_false nofun nofun
  · rw [Worth.finite.injEq, Amount.fraction.injEq, div_left_inj' hunit, Int.cast_inj]

/-- a number has an exact value: that of its worth -/
theorem amount?_eq_some {v : Value} {p : Amount} (h : v.amount? = some p) :
    v.OfRecord ∧ ∃ a, v.number? = some a ∧ a.amount? = some p := by
  cases v with
  | int n =>
    refine ⟨.int n, _, rfl, ?_⟩
    have hunit : (Binary64.unitsPerOne : ℚ) ≠ 0 := Nat.cast_ne_zero.2 Binary64.unitsPerOne_pos.ne'
    rw [← h, Worth.ofInt, Worth.amount?, amount?, Int.cast_mul, Int.cast_natCast, mul_div_cancel_right₀ _ hunit]
  | float x =>
    rw [amount?] at h
    have hworth : (Worth.ofFloat x).amount? = some p := by
      rw [← h, Worth.ofFloat]
      cases Binary64.read x <;> rfl
    refine ⟨.float fun hread => ?_, _, rfl, hworth⟩
    rw [hread] at h
    cases h
  | _ => cases h

/-- **Numbers** are compared by their exact values -/
theorem strictEq_iff_amount {v w : Value} {p q : Amount} (hv : v.amount? = some p) (hw : w.amount? = some q) :
    strictEq v w = true ↔ p = q := by
  obtain ⟨hrecord, a, ha, hpa⟩ := amount?_eq_some hv
  obtain ⟨-, b, hb, hqb⟩ := amount?_eq_some hw
  have htruth : ∀ {x : Value} {c : Worth}, x.number? = some c → x.isTruth = false := by
    intro x c hx
    refine isTruth_of_ne fun y hy => ?_
    rw [hy] at hx
    cases hx
  rw [strictEq_eq hrecord, htruth ha, htruth hb, beq_self_eq_true, Bool.and_true,
    same_of_numeric (numeric?_of_number ha) (numeric?_of_number hb), beq_iff_eq, Worth.amount?_inj hpa hqb]

/-! ## Objects -/

theorem same_object_iff {fs gs : Fields} :
    same (.object .record fs) (.object .record gs) = true ↔ fs.length = gs.length ∧ Covered fs gs := by
  rw [same, Bool.and_eq_true, Bool.and_eq_true, beq_iff_eq, beq_iff_eq, sameFields_iff]
  exact and_congr_left' (and_iff_right rfl)

/-- two objects agree on a key: both have it, with the same contents, or neither has it -/
def AgreeOn (fs gs : Fields) (k : String) : Prop :=
  Option.Rel (fun x y => same x y = true) (Fields.get? fs k) (Fields.get? gs k)

theorem AgreeOn.mem_iff {fs gs : Fields} {k : String} (h : AgreeOn fs gs k) :
    k ∈ fs.map Prod.fst ↔ k ∈ gs.map Prod.fst := by
  rw [← Fields.isSome_get?_iff, ← Fields.isSome_get?_iff]
  unfold AgreeOn at h
  generalize Fields.get? fs k = x, Fields.get? gs k = y at h
  cases h <;> rfl

theorem covered_of_agree {fs gs : Fields} (hfs : (fs.map Prod.fst).Nodup) (h : ∀ k, AgreeOn fs gs k) :
    Covered fs gs := by
  intro f hf
  have hkey := h f.1
  rw [AgreeOn, Fields.get?_of_mem hfs hf] at hkey
  generalize Fields.get? gs f.1 = found at hkey
  cases hkey with
  | some hsame => exact ⟨_, rfl, hsame⟩

theorem agree_of_covered {fs gs : Fields} (hfs : Covered fs gs) (hgs : Covered gs fs) (k : String) :
    AgreeOn fs gs k := by
  unfold AgreeOn
  cases hf : Fields.get? fs k with
  | some x =>
    obtain ⟨y, hy, hsame⟩ := hfs (k, x) (Fields.mem_of_get? hf)
    rw [hy]
    exact .some hsame
  | none =>
    cases hg : Fields.get? gs k with
    | none => exact .none
    | some y =>
      obtain ⟨x, hx, -⟩ := hgs (k, y) (Fields.mem_of_get? hg)
      rw [hf] at hx
      cases hx

/-- **Two objects** are equal just if they agree on every key -/
theorem strictEq_object_iff {fs gs : Fields} (hfs : (Value.object .record fs).OfRecord)
    (hgs : (Value.object .record gs).OfRecord) :
    strictEq (.object .record fs) (.object .record gs) = true ↔ ∀ k, AgreeOn fs gs k := by
  have hsame : strictEq (.object .record fs) (.object .record gs) =
      same (.object .record fs) (.object .record gs) := by
    rw [strictEq_eq hfs]
    exact Bool.and_true _
  rw [hsame]
  constructor
  · intro h
    exact agree_of_covered (same_object_iff.1 h).2 (same_object_iff.1 (same_symm hfs hgs h)).2
  · intro h
    cases hfs with
    | object hfkeys hfields =>
      cases hgs with
      | object hgkeys hothers =>
        have hkeys : (fs.map Prod.fst).Perm (gs.map Prod.fst) :=
          (List.perm_ext_iff_of_nodup hfkeys hgkeys).2 fun k => (h k).mem_iff
        refine same_object_iff.2 ⟨?_, covered_of_agree hfkeys h⟩
        simpa using hkeys.length_eq

/-- the same value, but for the order of the keys in objects of it -/
inductive Reordered : Value → Value → Prop
  | refl (v : Value) : Reordered v v
  | trans {u v w : Value} (huv : Reordered u v) (hvw : Reordered v w) : Reordered u w
  | keys (owner : Owner) {fs gs : Fields} (h : fs.Perm gs) : Reordered (.object owner fs) (.object owner gs)
  | item (owner : Owner) (before : List Value) {v w : Value} (h : Reordered v w) (after : List Value) :
      Reordered (.list owner (before ++ v :: after)) (.list owner (before ++ w :: after))
  | field (owner : Owner) (before : Fields) (k : String) {v w : Value} (h : Reordered v w) (after : Fields) :
      Reordered (.object owner (before ++ (k, v) :: after)) (.object owner (before ++ (k, w) :: after))

theorem Reordered.isTruth_eq {v w : Value} (h : Reordered v w) : v.isTruth = w.isTruth := by
  induction h with
  | trans huv hvw ihuv ihvw => exact ihuv.trans ihvw
  | _ => rfl

/-- **The order of keys** makes no difference to the contents -/
theorem Reordered.same {v w : Value} (h : Reordered v w) (hv : v.OfRecord) : w.OfRecord ∧ same v w = true := by
  induction h with
  | refl v => exact ⟨hv, same_self hv⟩
  | trans huv hvw ihuv ihvw =>
    obtain ⟨hmiddle, hfirst⟩ := ihuv hv
    obtain ⟨hlast, hsecond⟩ := ihvw hmiddle
    exact ⟨hlast, same_trans hv hfirst hsecond⟩
  | @keys owner fs gs hperm =>
    cases hv with
    | object hkeys hfields =>
      have hothers : (gs.map Prod.fst).Nodup := (hperm.map Prod.fst).nodup_iff.1 hkeys
      refine ⟨.object hothers fun g hg => hfields g (hperm.mem_iff.2 hg), same_iff.2 (.object _ hperm.length_eq ?_)⟩
      intro f hf
      exact ⟨f.2, Fields.get?_of_mem hothers (hperm.mem_iff.1 hf), same_self (hfields f hf)⟩
  | @item owner before v w hvw after ih =>
    cases hv with
    | list hitems =>
      obtain ⟨hbefore, hrest⟩ := List.forall_mem_append.1 hitems
      obtain ⟨hv, hafter⟩ := List.forall_mem_cons.1 hrest
      obtain ⟨hw, hsame⟩ := ih hv
      refine ⟨.list (List.forall_mem_append.2 ⟨hbefore, List.forall_mem_cons.2 ⟨hw, hafter⟩⟩), same_iff.2 (.list _ ?_)⟩
      exact List.rel_append (List.forall₂_same.2 fun x hx => same_self (hbefore x hx))
        (.cons hsame (List.forall₂_same.2 fun x hx => same_self (hafter x hx)))
  | @field owner before k v w hvw after ih =>
    cases hv with
    | object hkeys hfields =>
      obtain ⟨hbefore, hrest⟩ := List.forall_mem_append.1 hfields
      obtain ⟨hv, hafter⟩ := List.forall_mem_cons.1 hrest
      obtain ⟨hw, hsame⟩ := ih hv
      have hothers : ((before ++ (k, w) :: after).map Prod.fst).Nodup := by simpa using hkeys
      refine ⟨.object hothers (List.forall_mem_append.2 ⟨hbefore, List.forall_mem_cons.2 ⟨hw, hafter⟩⟩),
        same_iff.2 (.object _ (by simp) ?_)⟩
      refine List.forall_mem_append.2 ⟨fun f hf => ?_, List.forall_mem_cons.2 ⟨?_, fun f hf => ?_⟩⟩
      · exact ⟨f.2, Fields.get?_of_mem hothers (List.mem_append_left _ hf), same_self (hbefore f hf)⟩
      · have hmem : (k, w) ∈ before ++ (k, w) :: after := List.mem_append_right _ List.mem_cons_self
        exact ⟨w, Fields.get?_of_mem hothers hmem, hsame⟩
      · have hmem : f ∈ before ++ (k, w) :: after := List.mem_append_right _ (List.mem_cons_of_mem _ hf)
        exact ⟨f.2, Fields.get?_of_mem hothers hmem, same_self (hafter f hf)⟩

/-- **Objects** are equal regardless of the order of their keys -/
theorem Reordered.strictEq {v w : Value} (h : Reordered v w) (hv : v.OfRecord) : strictEq v w = true := by
  rw [strictEq_eq hv, (h.same hv).2, h.isTruth_eq, beq_self_eq_true, Bool.and_true]

end ReportPress.Value
