import Mathlib.Data.List.TakeWhile
import Mathlib.Tactic.FieldSimp
import ReportPress.Number.Numeral
import ReportPress.Proofs.Number.Shortest
import ReportPress.Value.Equality
/-!
Numbers as texts. A decimal is laid out with a point, perhaps after more zeros, or with an exponent, and each of these
layouts has the value of the decimal. So a double can be told from its text, and no integer is written as a double is.

- `Layout`: what a layout stands for. `write_layout`: that is the value of the decimal.
- `Layout.decimalOf_eq`: the value of a layout can be read from it.
- `isPlainChar`: the characters of layouts. `isPlain_intText`, `isPlain_floatText`: numbers have no others.
- `intText_inj`, `ofFloat_of_floatText`, `floatText_ne_intText`: integers and doubles told by their texts.
-/

namespace ReportPress

/-! ## Digits -/

/-- the number that digits write -/
def digitsOf (ds : List Char) : ℕ := Nat.ofDigitChars 10 ds 0

def IsDigits (ds : List Char) : Prop := ∀ c ∈ ds, c.isDigit = true

theorem isDigits_toDigits (n : ℕ) : IsDigits (Nat.toDigits 10 n) := fun _ hc =>
  Nat.isDigit_of_mem_toDigits (by decide) (by decide) hc

theorem isDigits_zeros (n : ℕ) : IsDigits (zerosText n) := by
  intro c hc
  rw [List.eq_of_mem_replicate hc]
  rfl

theorem IsDigits.append {ds es : List Char} (hds : IsDigits ds) (hes : IsDigits es) : IsDigits (ds ++ es) :=
  List.forall_mem_append.2 ⟨hds, hes⟩

theorem IsDigits.ne {ds : List Char} (h : IsDigits ds) {mark : Char} (hmark : mark.isDigit = false) :
    ∀ c ∈ ds, (c != mark) = true := by
  intro c hc
  refine bne_iff_ne.2 fun heq => ?_
  have hdigit := h c hc
  rw [heq, hmark] at hdigit
  cases hdigit

theorem digitsOf_toDigits (n : ℕ) : digitsOf (Nat.toDigits 10 n) = n := Nat.ofDigitChars_ten_toDigits

theorem digitsOf_zeros_append (n : ℕ) (ds : List Char) : digitsOf (zerosText n ++ ds) = digitsOf ds := by
  unfold digitsOf zerosText
  rw [Nat.ofDigitChars_append, Nat.ofDigitChars_replicate_zero, Nat.mul_zero]

theorem digitsOf_append_zeros (ds : List Char) (n : ℕ) : digitsOf (ds ++ zerosText n) = 10 ^ n * digitsOf ds := by
  unfold digitsOf zerosText
  rw [Nat.ofDigitChars_append, Nat.ofDigitChars_replicate_zero]

/-! ## Layouts -/

/-- digits with a point behind the first of them if there are more -/
def withPoint : List Char → List Char
  | [] => []
  | [c] => [c]
  | c :: rest => c :: '.' :: rest

/-- an exponent mark, a sign and digits -/
def exponentText (negative : Bool) (es : List Char) : List Char := 'e' :: (if negative then '-' else '+') :: es

def exponentValue (negative : Bool) (es : List Char) : ℤ := if negative then -(digitsOf es : ℤ) else digitsOf es

theorem exponentValue_lead (lead : ℤ) (n : ℕ) :
    exponentValue (lead < 0) (zerosText n ++ Nat.toDigits 10 lead.natAbs) = lead := by
  unfold exponentValue
  rw [digitsOf_zeros_append, digitsOf_toDigits]
  split
  · next h =>
    have := of_decide_eq_true h
    omega
  · next h =>
    have := mt decide_eq_true h
    omega

/-- how a decimal may be laid out, and what the layout stands for -/
inductive Layout : List Char → ℚ → Prop
  | positional {whole fraction : List Char} (hw : IsDigits whole) (hne : whole ≠ []) (hf : IsDigits fraction) :
      Layout (whole ++ '.' :: fraction) (digitsOf (whole ++ fraction) * 10 ^ (-fraction.length : ℤ))
  | scientific {ds es : List Char} (hds : IsDigits ds) (hne : ds ≠ []) (negative : Bool) (hes : IsDigits es) :
      Layout (withPoint ds ++ exponentText negative es)
        (digitsOf ds * 10 ^ (exponentValue negative es - (ds.length - 1 : ℤ)))

theorem Layout.of_eq {cs ds : List Char} {p q : ℚ} (h : Layout ds q) (hcs : cs = ds) (hq : p = q) : Layout cs p := by
  rwa [hcs, hq]

namespace Layout

variable {ds : List Char}

/-- a zero, the point, more zeros and the digits -/
theorem belowOne (hds : IsDigits ds) (n : ℕ) :
    Layout (['0', '.'] ++ zerosText n ++ ds) (digitsOf ds * 10 ^ (-(n + ds.length) : ℤ)) := by
  have hzero : zerosText 1 ≠ [] := List.cons_ne_nil _ _
  refine (positional (isDigits_zeros 1) hzero ((isDigits_zeros n).append hds)).of_eq rfl ?_
  rw [digitsOf_zeros_append, digitsOf_zeros_append]
  simp [zerosText]

/-- the digits, zeros, the point and one more zero -/
theorem whole (hds : IsDigits ds) (hne : ds ≠ []) (n : ℕ) :
    Layout (ds ++ zerosText n ++ ['.', '0']) (digitsOf ds * 10 ^ n) := by
  have hsome : ds ++ zerosText n ≠ [] := List.append_ne_nil_of_left_ne_nil hne _
  refine (positional (hds.append (isDigits_zeros n)) hsome (isDigits_zeros 1)).of_eq rfl ?_
  rw [digitsOf_append_zeros, digitsOf_append_zeros]
  simp [zerosText]
  field_simp

/-- the point among the digits -/
theorem among (hds : IsDigits ds) (hne : ds ≠ []) (n : ℕ) :
    Layout (ds.take (n + 1) ++ '.' :: ds.drop (n + 1)) (digitsOf ds * 10 ^ (-(ds.length - (n + 1) : ℕ) : ℤ)) := by
  have htake : IsDigits (ds.take (n + 1)) := fun c hc => hds c (List.mem_of_mem_take hc)
  have hdrop : IsDigits (ds.drop (n + 1)) := fun c hc => hds c (List.mem_of_mem_drop hc)
  have hsome : ds.take (n + 1) ≠ [] := by simpa using hne
  refine (positional htake hsome hdrop).of_eq rfl ?_
  rw [List.take_append_drop, List.length_drop]

/-- the digits, perhaps with a point among them, and an exponent -/
theorem raised (hds : IsDigits ds) (hne : ds ≠ []) (lead : ℤ) (n : ℕ) :
    Layout (withPoint ds ++ exponentText (lead < 0) (zerosText n ++ Nat.toDigits 10 lead.natAbs))
      (digitsOf ds * 10 ^ (lead - (ds.length - 1))) := by
  have hes := (isDigits_zeros n).append (isDigits_toDigits lead.natAbs)
  refine (scientific hds hne (lead < 0) hes).of_eq rfl ?_
  rw [exponentValue_lead]

end Layout

/-- **A decimal** is laid out as what it stands for -/
theorem write_layout (f : DecimalFormat) (d : Decimal) : Layout (f.write d) d.value := by
  have hds := isDigits_toDigits d.digits
  have hlength : 0 < (Nat.toDigits 10 d.digits).length := Nat.length_toDigits_pos
  have hvalue := digitsOf_toDigits d.digits
  unfold DecimalFormat.write Decimal.value
  dsimp only
  split
  · next hnone =>
    refine (Layout.belowOne (isDigits_zeros 1) 0).of_eq rfl ?_
    rw [hnone, Nat.cast_zero, zero_mul]
    exact (zero_mul _).symm
  · generalize Nat.toDigits 10 d.digits = ds at *
    have hne : ds ≠ [] := List.length_pos_iff.1 hlength
    rw [← hvalue]
    split
    · split
      · refine (Layout.belowOne hds _).of_eq rfl ?_
        congr 2
        omega
      · split
        · next hexp =>
          obtain ⟨n, hn⟩ := Int.eq_ofNat_of_zero_le hexp
          refine (Layout.whole hds hne _).of_eq rfl ?_
          rw [hn, Int.toNat_natCast, zpow_natCast]
        · refine (Layout.among hds hne _).of_eq rfl ?_
          congr 2
          omega
    · generalize hlead : d.exponent + ds.length - 1 = lead
      have hraised := Layout.raised hds hne lead (f.exponentPlaces - (Nat.toDigits 10 lead.natAbs).length)
      refine hraised.of_eq ?_ ?_
      · rw [exponentText]
        simp only [decide_eq_true_eq]
        exact List.append_assoc (withPoint ds) _ _
      · congr 2
        omega

/-! ## Layouts read -/

/-- the exponent at the end of a layout, or none -/
def exponentOf : List Char → ℤ
  | 'e' :: '-' :: es => exponentValue true es
  | 'e' :: '+' :: es => exponentValue false es
  | _ => 0

/-- the number that a layout writes: digits, perhaps with a point among them, and an exponent -/
def decimalOf (cs : List Char) : ℚ :=
  let mantissa := cs.takeWhile (· != 'e')
  let fraction := (mantissa.dropWhile (· != '.')).tail
  digitsOf (mantissa.filter (· != '.')) * 10 ^ (exponentOf (cs.dropWhile (· != 'e')) - fraction.length)

theorem exponentOf_exponentText (negative : Bool) (es : List Char) :
    exponentOf (exponentText negative es) = exponentValue negative es := by
  cases negative <;> rfl

theorem decimalOf_append {mantissa tail : List Char} (hm : ∀ c ∈ mantissa, (c != 'e') = true)
    (ht : ∀ c ∈ tail.head?, c = 'e') :
    decimalOf (mantissa ++ tail) = digitsOf (mantissa.filter (· != '.')) *
      10 ^ (exponentOf tail - (mantissa.dropWhile (· != '.')).tail.length) := by
  have hcut : tail.takeWhile (· != 'e') = [] ∧ tail.dropWhile (· != 'e') = tail := by
    cases tail with
    | nil => exact ⟨rfl, rfl⟩
    | cons c rest =>
      rw [ht c rfl]
      exact ⟨rfl, rfl⟩
  unfold decimalOf
  dsimp only
  rw [List.takeWhile_append_of_pos hm, List.dropWhile_append_of_pos hm, hcut.1, hcut.2, List.append_nil]

theorem IsDigits.filter_point {ds : List Char} (h : IsDigits ds) : ds.filter (· != '.') = ds :=
  List.filter_eq_self.2 (h.ne (by decide))

/-- the point among digits, and the digits behind it -/
theorem cut_point {whole fraction : List Char} (hw : IsDigits whole) (hf : IsDigits fraction) :
    (whole ++ '.' :: fraction).filter (· != '.') = whole ++ fraction ∧
      ((whole ++ '.' :: fraction).dropWhile (· != '.')).tail = fraction := by
  rw [List.filter_append, List.filter_cons, hw.filter_point, hf.filter_point,
    List.dropWhile_append_of_pos (hw.ne (by decide))]
  exact ⟨rfl, rfl⟩

theorem point_ne_mark {whole fraction : List Char} (hw : IsDigits whole) (hf : IsDigits fraction) :
    ∀ c ∈ whole ++ '.' :: fraction, (c != 'e') = true :=
  List.forall_mem_append.2 ⟨hw.ne (by decide), List.forall_mem_cons.2 ⟨by decide, hf.ne (by decide)⟩⟩

/-- **What a layout stands for** can be read from it -/
theorem Layout.decimalOf_eq {cs : List Char} {q : ℚ} (h : Layout cs q) : decimalOf cs = q := by
  cases h with
  | @positional whole fraction hw hne hf =>
    obtain ⟨hdigits, hfraction⟩ := cut_point hw hf
    have hnone : ∀ c ∈ ([] : List Char).head?, c = 'e' := nofun
    have hread := decimalOf_append (point_ne_mark hw hf) hnone
    rw [List.append_nil, hdigits, hfraction] at hread
    simpa [exponentOf] using hread
  | @scientific ds es hds hne negative hes =>
    have hmark : ∀ c ∈ (exponentText negative es).head?, c = 'e' := fun c hc => (Option.some.inj hc).symm
    obtain ⟨c, rest, rfl⟩ := List.exists_cons_of_ne_nil hne
    cases rest with
    | nil =>
      refine (decimalOf_append (hds.ne (by decide)) hmark).trans ?_
      rw [hds.filter_point, List.dropWhile_eq_nil_iff.2 (hds.ne (by decide)), exponentOf_exponentText]
      simp
    | cons c' rest =>
      obtain ⟨hc, hrest⟩ := List.forall_mem_cons.1 hds
      have hfirst : IsDigits [c] := List.forall_mem_singleton.2 hc
      obtain ⟨hdigits, hfraction⟩ := cut_point hfirst hrest
      refine (decimalOf_append (point_ne_mark hfirst hrest) hmark).trans ?_
      rw [hdigits, hfraction, exponentOf_exponentText]
      simp

/-! ## Characters of layouts -/

/-- letters, digits, points and signs -/
def isPlainChar (c : Char) : Bool := c.isAlphanum || c == '.' || c == '+' || c == '-'

theorem isPlainChar_of_isDigit {c : Char} (h : c.isDigit = true) : isPlainChar c = true := by
  simp [isPlainChar, Char.isAlphanum, h]

theorem IsDigits.isPlain {ds : List Char} (h : IsDigits ds) : ∀ c ∈ ds, isPlainChar c = true := fun c hc =>
  isPlainChar_of_isDigit (h c hc)

theorem withPoint_cons (c : Char) (rest : List Char) : ∃ more, withPoint (c :: rest) = c :: more ∧
    ∀ c' ∈ more, c' = '.' ∨ c' ∈ rest := by
  cases rest with
  | nil => exact ⟨[], rfl, nofun⟩
  | cons c' rest => exact ⟨'.' :: c' :: rest, rfl, fun _ h => List.mem_cons.1 h⟩

theorem Layout.isPlain {cs : List Char} {q : ℚ} (h : Layout cs q) : ∀ c ∈ cs, isPlainChar c = true := by
  cases h with
  | positional hw hne hf => exact List.forall_mem_append.2 ⟨hw.isPlain, List.forall_mem_cons.2 ⟨rfl, hf.isPlain⟩⟩
  | @scientific ds es hds hne negative hes =>
    obtain ⟨c, rest, rfl⟩ := List.exists_cons_of_ne_nil hne
    obtain ⟨more, hmore, hchars⟩ := withPoint_cons c rest
    rw [hmore]
    refine List.forall_mem_append.2 ⟨List.forall_mem_cons.2 ⟨hds.isPlain c List.mem_cons_self, ?_⟩, ?_⟩
    · intro c' hc'
      rcases hchars c' hc' with rfl | hmem
      · rfl
      · exact hds.isPlain c' (List.mem_cons_of_mem c hmem)
    · refine List.forall_mem_cons.2 ⟨rfl, List.forall_mem_cons.2 ⟨?_, hes.isPlain⟩⟩
      cases negative <;> rfl

/-- a layout starts with a digit -/
theorem Layout.head {cs : List Char} {q : ℚ} (h : Layout cs q) : ∃ c rest, cs = c :: rest ∧ c.isDigit = true := by
  cases h with
  | positional hw hne hf =>
    obtain ⟨c, rest, rfl⟩ := List.exists_cons_of_ne_nil hne
    exact ⟨c, _, rfl, hw c List.mem_cons_self⟩
  | scientific hds hne negative hes =>
    obtain ⟨c, rest, rfl⟩ := List.exists_cons_of_ne_nil hne
    obtain ⟨more, hmore, -⟩ := withPoint_cons c rest
    rw [hmore]
    exact ⟨c, _, rfl, hds c List.mem_cons_self⟩

/-- a layout is more than digits -/
theorem Layout.not_isDigits {cs : List Char} {q : ℚ} (h : Layout cs q) : ¬ IsDigits cs := by
  intro hdigits
  cases h with
  | positional hw hne hf =>
    exact absurd (hdigits '.' (List.mem_append_right _ List.mem_cons_self)) (by decide)
  | scientific hds hne negative hes =>
    exact absurd (hdigits 'e' (List.mem_append_right _ List.mem_cons_self)) (by decide)

/-! ## Signs -/

/-- a text that has no sign, behind a sign -/
def signed (negative : Bool) (body : List Char) : List Char := if negative then '-' :: body else body

theorem signed_inj {m n : Bool} {ds es : List Char} (hds : '-' ∉ ds.head?) (hes : '-' ∉ es.head?)
    (h : signed m ds = signed n es) : m = n ∧ ds = es := by
  cases m <;> cases n
  · exact ⟨rfl, h⟩
  · change ds = '-' :: es at h
    rw [h] at hds
    exact absurd rfl hds
  · change '-' :: ds = es at h
    rw [← h] at hes
    exact absurd rfl hes
  · exact ⟨rfl, (List.cons.inj h).2⟩

theorem isPlain_signed (negative : Bool) {body : List Char} (h : ∀ c ∈ body, isPlainChar c = true) :
    ∀ c ∈ signed negative body, isPlainChar c = true := by
  cases negative with
  | true => exact List.forall_mem_cons.2 ⟨rfl, h⟩
  | false => exact h

/-! ## Integers -/

theorem IsDigits.head_ne {ds : List Char} (h : IsDigits ds) : '-' ∉ ds.head? := fun hmem =>
  absurd (h _ (List.mem_of_head? hmem)) (by decide)

theorem toList_intText (n : ℤ) : (Numeral.intText n).toList = signed (n < 0) (Nat.toDigits 10 n.natAbs) := by
  unfold Numeral.intText signed
  by_cases hn : n < 0
  · rw [if_pos hn, if_pos (decide_eq_true hn), String.toList_append, Nat.toList_repr]
    rfl
  · rw [if_neg hn, if_neg (mt of_decide_eq_true hn), Nat.toList_repr]

theorem isPlain_intText (n : ℤ) : ∀ c ∈ (Numeral.intText n).toList, isPlainChar c = true := by
  rw [toList_intText]
  exact isPlain_signed _ (isDigits_toDigits _).isPlain

/-- **Integers** with the same text are the same -/
theorem intText_inj {m n : ℤ} (h : Numeral.intText m = Numeral.intText n) : m = n := by
  have hlist := congrArg String.toList h
  rw [toList_intText, toList_intText] at hlist
  obtain ⟨hsign, hdigits⟩ := signed_inj (isDigits_toDigits _).head_ne (isDigits_toDigits _).head_ne hlist
  have hsign' : m < 0 ↔ n < 0 := decide_eq_decide.1 hsign
  have hsize : m.natAbs = n.natAbs := by
    rw [← digitsOf_toDigits m.natAbs, hdigits, digitsOf_toDigits]
  omega

/-! ## Doubles -/

/-- what is written for a double, its sign aside -/
def bodyOf : Reading → List Char
  | .nan => ['n', 'a', 'n']
  | .infinite _ => ['i', 'n', 'f']
  | .finite b => plainDecimals.write b.shortest

def isNegative : Reading → Bool
  | .nan => false
  | .infinite negative => negative
  | .finite b => b.negative

theorem toList_floatText (x : Float) :
    (floatText x).toList = signed (isNegative (Binary64.read x)) (bodyOf (Binary64.read x)) := by
  unfold floatText
  cases Binary64.read x with
  | nan => rfl
  | infinite negative => cases negative <;> rfl
  | finite b => exact String.toList_ofList

theorem bodyOf_finite (b : Binary64) : ∃ c rest, bodyOf (.finite b) = c :: rest ∧ c.isDigit = true :=
  (write_layout plainDecimals b.shortest).head

theorem bodyOf_head_ne (r : Reading) : '-' ∉ (bodyOf r).head? := by
  cases r with
  | nan => decide
  | infinite negative => exact nofun
  | finite b =>
    obtain ⟨c, rest, hbody, hdigit⟩ := bodyOf_finite b
    rw [hbody]
    exact fun h => absurd (Option.some.inj h ▸ hdigit) (by decide)

theorem isPlain_floatText (x : Float) : ∀ c ∈ (floatText x).toList, isPlainChar c = true := by
  rw [toList_floatText]
  refine isPlain_signed _ ?_
  cases Binary64.read x with
  | nan => exact List.all_eq_true.1 (by decide : ['n', 'a', 'n'].all isPlainChar = true)
  | infinite negative => exact List.all_eq_true.1 (by decide : ['i', 'n', 'f'].all isPlainChar = true)
  | finite b => exact (write_layout plainDecimals b.shortest).isPlain

/-- no double is written as an integer is -/
theorem floatText_ne_intText (x : Float) (n : ℤ) : floatText x ≠ Numeral.intText n := by
  intro h
  have hlist := congrArg String.toList h
  rw [toList_floatText, toList_intText] at hlist
  have hdigits := isDigits_toDigits n.natAbs
  rw [← (signed_inj (bodyOf_head_ne _) hdigits.head_ne hlist).2] at hdigits
  cases hread : Binary64.read x with
  | nan =>
    rw [hread] at hdigits
    exact absurd (hdigits 'n' List.mem_cons_self) (by decide)
  | infinite negative =>
    rw [hread] at hdigits
    exact absurd (hdigits 'i' List.mem_cons_self) (by decide)
  | finite b =>
    rw [hread] at hdigits
    exact (write_layout plainDecimals b.shortest).not_isDigits hdigits

/-- a finite double is written as no word -/
theorem bodyOf_ne_word {b : Binary64} {c : Char} {rest : List Char} (hword : c.isDigit = false) :
    bodyOf (.finite b) ≠ c :: rest := by
  obtain ⟨d, more, hbody, hdigit⟩ := bodyOf_finite b
  rw [hbody]
  intro h
  rw [(List.cons.inj h).1, hword] at hdigit
  cases hdigit

/-- finite doubles that are written alike, their signs aside, have the same magnitude -/
theorem magnitude_of_write {a b : Binary64} (ha : a.Canonical) (hb : b.Canonical)
    (h : plainDecimals.write a.shortest = plainDecimals.write b.shortest) : a.magnitude = b.magnitude := by
  refine Binary64.magnitude_of_shortest ha hb ?_
  rw [← (write_layout plainDecimals a.shortest).decimalOf_eq, h, (write_layout _ _).decimalOf_eq]

/-- **Doubles** with the same text are worth the same -/
theorem ofFloat_of_floatText {x y : Float} (h : floatText x = floatText y) :
    Value.Worth.ofFloat x = Value.Worth.ofFloat y := by
  have hlist := congrArg String.toList h
  rw [toList_floatText, toList_floatText] at hlist
  obtain ⟨hsign, hbody⟩ := signed_inj (bodyOf_head_ne _) (bodyOf_head_ne _) hlist
  unfold Value.Worth.ofFloat
  cases hx : Binary64.read x with
  | nan =>
    cases hy : Binary64.read y with
    | nan => rfl
    | infinite n =>
      rw [hx, hy] at hbody
      exact absurd (List.cons.inj hbody).1 (by decide)
    | finite b =>
      rw [hx, hy] at hbody
      exact absurd hbody.symm (bodyOf_ne_word (by decide))
  | infinite m =>
    cases hy : Binary64.read y with
    | nan =>
      rw [hx, hy] at hbody
      exact absurd (List.cons.inj hbody).1 (by decide)
    | infinite n =>
      rw [hx, hy] at hsign
      exact congrArg Value.Worth.infinite hsign
    | finite b =>
      rw [hx, hy] at hbody
      exact absurd hbody.symm (bodyOf_ne_word (by decide))
  | finite a =>
    cases hy : Binary64.read y with
    | nan =>
      rw [hx, hy] at hbody
      exact absurd hbody (bodyOf_ne_word (by decide))
    | infinite n =>
      rw [hx, hy] at hbody
      exact absurd hbody (bodyOf_ne_word (by decide))
    | finite b =>
      rw [hx, hy] at hsign hbody
      have hsign : a.negative = b.negative := hsign
      have hmagnitude := magnitude_of_write (Binary64.ofBits_canonical hx) (Binary64.ofBits_canonical hy) hbody
      show Value.Worth.finite a.units = Value.Worth.finite b.units
      rw [Binary64.units, Binary64.units, hsign, hmagnitude]

end ReportPress
