import ReportPress.Proofs.Effect
import ReportPress.Proofs.Number.Ratio
import ReportPress.Proofs.Template.Reader
/-!
Payloads that are no templates. Nearly all that can be wrong with a payload is a fault of a field, and is told as one.
The exception are integers beyond the doubles: a field that is read as a number cannot take one, and that failure is
not about a field.

- `HasInteger`: an integer stands somewhere in a value, however deep.
- `Refuses`: what a reading may fail with: a fault of a field, or an integer beyond the doubles, which is one of the
  payload's.
- `read_refuses`: this is so for every payload.
-/

namespace ReportPress

/-! ## Integers of a payload -/

/-- an integer stands in a value, at any depth -/
inductive Value.HasInteger (n : Int) : Value → Prop where
  | here : HasInteger n (.int n)
  | item {owner : Owner} {items : List Value} {v : Value} (hv : v ∈ items) (h : HasInteger n v) :
      HasInteger n (.list owner items)
  | field {owner : Owner} {fields : Fields} {f : String × Value} (hf : f ∈ fields) (h : HasInteger n f.2) :
      HasInteger n (.object owner fields)

/-- all integers of a value are of a kind -/
def Value.IntegersIn (P : Int → Prop) (v : Value) : Prop := ∀ n, v.HasInteger n → P n

namespace Value.IntegersIn

variable {P : Int → Prop} {v : Value} {fs : Fields}

theorem null : Value.null.IntegersIn P := by
  intro n h
  cases h

theorem items (h : v.IntegersIn P) : ∀ w ∈ v.items, w.IntegersIn P := by
  cases v with
  | list owner items =>
    intro w hw n hn
    exact h n (.item hw hn)
  | _ => simp [Value.items, items?]

theorem fields (h : v.IntegersIn P) : ∀ f ∈ v.fields, f.2.IntegersIn P := by
  cases v with
  | object owner fields =>
    intro f hf n hn
    exact h n (.field hf hn)
  | _ => simp [Value.fields]

theorem getD (h : ∀ f ∈ fs, f.2.IntegersIn P) (key : String) : (Fields.getD fs key).IntegersIn P :=
  Fields.forall_getD h null key

/-- the fields of an object under a key -/
theorem section? (h : ∀ f ∈ fs, f.2.IntegersIn P) (key : String) : ∀ f ∈ Value.section? fs key, f.2.IntegersIn P :=
  fields (getD h key)

end Value.IntegersIn

namespace Template

variable {α β : Type} {P : Int → Prop}

/-! ## Readings and what they fail with -/

/-- a reading fails with a fault of a field, or for an integer beyond the doubles, one of the kind `P` -/
def Refuses (P : Int → Prop) (r : Except Failure α) : Prop :=
  ∀ f, r = .error f → (∃ fault, f = .template fault) ∨ f = .integerTooLarge ∧ ∃ n, P n ∧ Binary64.beyondAll ≤ n.natAbs

namespace Refuses

theorem ok (a : α) : Refuses P (.ok a : Except Failure α) := nofun

theorem fault (fault : Template.Fault) : Refuses P (.error (.template fault) : Except Failure α) := by
  intro f h
  cases h
  exact .inl ⟨fault, rfl⟩

/-- what comes next may rely on what was read -/
theorem bind_eq {x : Except Failure α} {g : α → Except Failure β} (hx : Refuses P x)
    (hg : ∀ a, x = .ok a → Refuses P (g a)) : Refuses P (x >>= g) := by
  intro f h
  cases x with
  | error f' =>
    cases h
    exact hx f rfl
  | ok a => exact hg a rfl f h

theorem bind {x : Except Failure α} {g : α → Except Failure β} (hx : Refuses P x) (hg : ∀ a, Refuses P (g a)) :
    Refuses P (x >>= g) := hx.bind_eq fun a _ => hg a

theorem mapFields {g : String → Value → Except Failure α} {fs : Fields} (h : ∀ f ∈ fs, Refuses P (g f.1 f.2)) :
    Refuses P (mapFields g fs) := by
  induction fs with
  | nil => exact ok []
  | cons f rest ih =>
    obtain ⟨hf, hrest⟩ := List.forall_mem_cons.1 h
    exact hf.bind fun a => (ih hrest).bind fun as => ok _

theorem mapItems {g : Nat → Value → Except Failure α} {xs : List Value} (h : ∀ v ∈ xs, ∀ i, Refuses P (g i v))
    (i : Nat) : Refuses P (mapItems g i xs) := by
  induction xs generalizing i with
  | nil => exact ok []
  | cons v rest ih =>
    obtain ⟨hv, hrest⟩ := List.forall_mem_cons.1 h
    exact (hv i).bind fun a => (ih hrest (i + 1)).bind fun as => ok _

end Refuses

/-! ## Fields -/

theorem requiredText_refuses (v : Value) (field : String) : Refuses P (requiredText v field) := by
  unfold requiredText
  split
  · dsimp only
    split
    · exact .fault _
    · exact .ok _
  · exact .fault _

theorem choice?_refuses (all : List α) (name : α → String) (v : Value) (field : String) :
    Refuses P (choice? all name v field) := by
  unfold choice?
  split
  · exact .ok _
  · split
    · exact .ok _
    · dsimp only
      split
      · exact .ok _
      · exact .fault _
  · exact .fault _

theorem unlessFinite_eq_error {f g : Failure} {x : Float} (h : g.unlessFinite x = .error f) :
    f = g ∧ ∀ b, Binary64.read x ≠ .finite b := by
  unfold Failure.unlessFinite at h
  split at h
  · cases h
  · next hread =>
    cases h
    exact ⟨rfl, hread⟩

theorem ofInteger_refuses {n : Int} (hn : P n) : Refuses P (ofInteger n) := by
  intro f h
  obtain ⟨rfl, hread⟩ := unlessFinite_eq_error h
  refine .inr ⟨rfl, n, hn, Nat.le_of_not_lt fun hwithin => ?_⟩
  obtain ⟨b, hb⟩ := Binary64.read_ofInt hwithin
  exact hread b hb

theorem number_refuses {v : Value} (hv : v.IntegersIn P) (field : String) (default : Float) :
    Refuses P (number v field default) := by
  unfold number
  split
  · exact .ok _
  · next n => exact ofInteger_refuses (hv n .here)
  · exact .ok _
  · split
    · exact .ok _
    · exact .fault _
  · exact .fault _

theorem boolean_refuses (v : Value) (field : String) (default : Bool) : Refuses P (boolean v field default) := by
  unfold boolean
  split
  · exact .ok _
  · exact .ok _
  · split
    · exact .ok _
    · exact .fault _
  · exact .fault _

theorem items_refuses (v : Value) (field : String) : Refuses P (items v field) := by
  unfold items
  split
  · exact .ok _
  · split
    · exact .ok _
    · exact .fault _

/-! ## Page and styles -/

section Parts

variable {fields : Fields} (hfields : ∀ f ∈ fields, f.2.IntegersIn P)

include hfields

theorem number_getD_refuses (key field : String) (default : Float) :
    Refuses P (number (Fields.getD fields key) field default) :=
  number_refuses (.getD hfields key) field default

theorem readMargins_refuses : Refuses P (readMargins fields) :=
  (number_getD_refuses hfields _ _ _).bind fun _ => (number_getD_refuses hfields _ _ _).bind fun _ =>
    (number_getD_refuses hfields _ _ _).bind fun _ => (number_getD_refuses hfields _ _ _).bind fun _ => .ok _

theorem readFontConfig_refuses : Refuses P (readFontConfig fields) := by
  refine Refuses.bind (.mapFields ?_) fun sizes => .ok _
  intro f hf
  exact number_refuses (Value.IntegersIn.section? hfields "sizes" f hf) _ _

end Parts

theorem readLogo_refuses {v : Value} (hv : v.IntegersIn P) : Refuses P (readLogo v) := by
  unfold readLogo
  split
  · exact (number_getD_refuses hv.fields _ _ _).bind fun _ => (number_getD_refuses hv.fields _ _ _).bind fun _ => .ok _
  · exact .ok _

theorem readPageConfig_refuses {c : Fields} (hc : ∀ f ∈ c, f.2.IntegersIn P) : Refuses P (readPageConfig c) := by
  refine (choice?_refuses _ _ _ _).bind fun pageSize => (choice?_refuses _ _ _ _).bind fun orientation => ?_
  refine (readMargins_refuses (.section? hc "margins")).bind fun margins => ?_
  refine (readFontConfig_refuses (.section? hc "fonts")).bind fun fonts => ?_
  exact (readLogo_refuses (.getD hc "logo")).bind fun logo => .ok _

theorem readFontStyle_refuses {v : Value} (hv : v.IntegersIn P) (k : String) : Refuses P (readFontStyle k v) := by
  unfold readFontStyle
  split
  · exact (number_getD_refuses hv.fields _ _ _).bind fun size => .ok _
  · exact .fault _

theorem readBorderStyle_refuses {v : Value} (hv : v.IntegersIn P) (k : String) : Refuses P (readBorderStyle k v) := by
  unfold readBorderStyle
  split
  · exact (number_getD_refuses hv.fields _ _ _).bind fun width => .ok _
  · exact .fault _

theorem readStyles_refuses {c : Fields} (hc : ∀ f ∈ c, f.2.IntegersIn P) : Refuses P (readStyles c) := by
  have hsection := Value.IntegersIn.section? hc
  refine Refuses.bind (.mapFields fun f hf => readFontStyle_refuses (hsection "fonts" f hf) _) fun fonts => ?_
  refine Refuses.bind (.mapFields fun f hf => readBorderStyle_refuses (hsection "borders" f hf) _) fun borders => ?_
  exact Refuses.bind (.mapFields fun f hf => number_refuses (hsection "spacing" f hf) _ _) fun spacing => .ok _

/-! ## Sections -/

theorem readPoint_refuses {v : Value} (hv : v.IntegersIn P) (field : String) : Refuses P (readPoint v field) := by
  unfold readPoint
  split
  · exact .ok _
  · exact (number_getD_refuses hv.fields _ _ _).bind fun _ => (number_getD_refuses hv.fields _ _ _).bind fun _ => .ok _
  · exact .fault _

theorem readSize_refuses {v : Value} (hv : v.IntegersIn P) (field : String) : Refuses P (readSize v field) := by
  unfold readSize
  split
  · exact .ok _
  · exact (number_getD_refuses hv.fields _ _ _).bind fun _ => (number_getD_refuses hv.fields _ _ _).bind fun _ => .ok _
  · exact .fault _

theorem readConditions_refuses (v : Value) (field : String) : Refuses P (readConditions v field) := by
  unfold readConditions
  split
  · exact .ok _
  · refine .mapItems ?_ 0
    intro w hw i
    unfold readCondition
    split
    · exact (requiredText_refuses _ _).bind fun name => (requiredText_refuses _ _).bind fun test => .ok _
    · exact .fault _
  · exact .fault _

theorem readComponent_refuses {v : Value} (hv : v.IntegersIn P) (field : String) (i : Nat) :
    Refuses P (readComponent field i v) := by
  unfold readComponent
  split
  · next owner fields =>
    have hget := Value.IntegersIn.getD hv.fields
    refine (choice?_refuses _ _ _ _).bind fun kind => ?_
    cases kind with
    | none => exact .fault _
    | some kind =>
      refine (readPoint_refuses (hget "position") _).bind fun position => ?_
      refine (readSize_refuses (hget "dimensions") _).bind fun dimensions => ?_
      exact (readConditions_refuses _ _).bind fun conditions => .ok _
  · exact .fault _

theorem readSection_refuses {v : Value} (hv : v.IntegersIn P) (place : String) : Refuses P (readSection place v) := by
  unfold readSection
  split
  · next owner fields =>
    have hget := Value.IntegersIn.getD hv.fields
    refine (requiredText_refuses _ _).bind fun id => (choice?_refuses _ _ _ _).bind fun kind => ?_
    refine Refuses.bind_eq (items_refuses _ _) fun raw hraw => ?_
    obtain rfl := items_eq_ok hraw
    refine Refuses.bind (.mapItems ?_ 0) fun components => ?_
    · intro w hw i
      exact readComponent_refuses ((hget "components").items w hw) _ i
    · refine (readSize_refuses (hget "dimensions") _).bind fun dimensions => ?_
      refine (readPoint_refuses (hget "position") _).bind fun position => ?_
      exact (boolean_refuses _ _ _).bind fun isRepeatable => (readConditions_refuses _ _).bind fun conditions => .ok _
  · exact .fault _

/-- **Payloads that cannot be read**: a field is at fault, or an integer of theirs is beyond the doubles -/
theorem read_refuses (payload : Value) : Refuses payload.HasInteger (read payload) := by
  have hpayload : payload.IntegersIn payload.HasInteger := fun n h => h
  unfold read
  split
  · next owner fields =>
    have hsection := Value.IntegersIn.section? hpayload.fields
    have hget := Value.IntegersIn.getD hpayload.fields
    refine (requiredText_refuses _ _).bind fun id => ?_
    refine (readPageConfig_refuses (hsection "config")).bind fun config => ?_
    refine (readStyles_refuses (hsection "styles")).bind fun styles => ?_
    refine Refuses.bind_eq (items_refuses _ _) fun raw hraw => ?_
    obtain rfl := items_eq_ok hraw
    refine Refuses.bind (.mapItems ?_ 0) fun sections => ?_
    · intro w hw i
      exact readSection_refuses ((hget "sections").items w hw) _
    · exact (boolean_refuses _ _ _).bind fun isActive => .ok _
  · exact .fault _

end Template

end ReportPress
