import Mathlib.Data.List.TakeWhile
import ReportPress.Number.Numeral
/-!
Numbers read from text: what the readers make of texts that look like digits, and of numbers as expressions write them.
Characters that look like digits are neither blanks nor signs nor low lines; a digit of any script becomes an ASCII
digit, and one that merely looks like a digit stays as it is. So a text that looks like digits is read as an integer
just if all of it is digits, and not too many.

- `isPart_plain`: of the characters that look like digits, the digits are parts of a numeral.
- `readInt_isOk`: when a text that looks like digits is an integer.
- `readInt_digits`, `readFloat_signed`: digits behind a sign are an integer unless they are too many, and with a point
  and digits they are a decimal.
-/

namespace ReportPress.Numeral

open Text

/-- the ranges of the characters that look like digits -/
def digitLikeRanges : List (ℕ × ℕ) := zeros.map (fun z => (z, z + 9)) ++ digitLookalikes.ranges

theorem digitLike_range {c : Char} (h : isDigitLike c = true) :
    ∃ r ∈ digitLikeRanges, r.1 ≤ c.toNat ∧ c.toNat ≤ r.2 := by
  rcases Bool.or_eq_true_iff.1 h with hdigit | hlike
  · obtain ⟨d, hd⟩ := Option.isSome_iff_exists.1 hdigit
    obtain ⟨z, hz, -⟩ := Option.map_eq_some_iff.1 hd
    have hin := List.find?_some hz
    rw [Bool.and_eq_true, decide_eq_true_iff, decide_eq_true_iff] at hin
    refine ⟨(z, z + 9), List.mem_append_left _ (List.mem_map_of_mem (List.mem_of_find?_eq_some hz)), hin.1, ?_⟩
    exact Nat.le_of_lt_succ hin.2
  · obtain ⟨r, hr, hin⟩ := (CharSet.contains_iff _ _).1 hlike
    exact ⟨r, List.mem_append_right _ hr, hin⟩

/-- nothing that looks like a digit is a blank -/
theorem isBlank_of_digitLike {c : Char} (h : isDigitLike c = true) : isBlank c = false := by
  have hapart : ∀ r ∈ digitLikeRanges, ∀ b ∈ blanks.ranges, r.2 < b.1 ∨ b.2 < r.1 := by decide
  obtain ⟨r, hr, hlo, hhi⟩ := digitLike_range h
  refine Bool.eq_false_iff.2 fun hblank => ?_
  obtain ⟨b, hb, hlo', hhi'⟩ := (CharSet.contains_iff _ _).1 hblank
  rcases hapart r hr b hb with hlt | hlt
  · omega
  · omega

/-- what merely looks like a digit is far from the signs, the low line and the ASCII digits -/
theorem lt_of_lookalike {c : Char} (h : isDigitLike c = true) (hno : isDigit c = false) : 95 < c.toNat := by
  have hfar : ∀ r ∈ digitLookalikes.ranges, 95 < r.1 := by decide
  rcases Bool.or_eq_true_iff.1 h with hdigit | hlike
  · rw [hno] at hdigit; cases hdigit
  · obtain ⟨r, hr, hlo, -⟩ := (CharSet.contains_iff _ _).1 hlike
    exact (hfar r hr).trans_le hlo

/-- what a numeral consists of, its sign aside -/
def isPart (c : Char) : Bool := isAsciiDigit c || c == '_'

theorem plain_of_digit {c : Char} (h : isDigit c = true) : isAsciiDigit (plain c) = true := by
  obtain ⟨d, hd⟩ := Option.isSome_iff_exists.1 h
  have hall : ∀ d < 10, isAsciiDigit (Char.ofNat (48 + d)) = true := by decide
  unfold plain
  rw [hd]
  exact hall d (digitValue?_lt hd)

theorem plain_of_lookalike {c : Char} (h : isDigitLike c = true) (hno : isDigit c = false) : plain c = c := by
  unfold plain
  rw [Option.isSome_eq_false_iff.1 hno |> Option.isNone_iff_eq_none.1]
  dsimp only
  rw [if_neg (Bool.eq_false_iff.1 (isBlank_of_digitLike h))]

/-- of the characters that look like digits, the digits are parts of a numeral -/
theorem isPart_plain {c : Char} (h : isDigitLike c = true) : isPart (plain c) = isDigit c := by
  cases hc : isDigit c with
  | true => rw [isPart, plain_of_digit hc, Bool.true_or]
  | false =>
    have hfar := lt_of_lookalike h hc
    rw [plain_of_lookalike h hc]
    unfold isPart isAsciiDigit
    rw [Bool.or_eq_false_iff, Bool.and_eq_false_iff]
    refine ⟨.inr (decide_eq_false fun hle => ?_), beq_eq_false_iff_ne.2 fun heq => ?_⟩
    · have hbound : c.toNat ≤ '9'.toNat := hle
      have : '9'.toNat = 57 := rfl
      omega
    · rw [heq] at hfar
      exact absurd hfar (by decide)

/-- without low lines there is nothing to leave out -/
theorem joinDigits_of_no_low_line {last : Char} (hlast : last ≠ '_') {cs : List Char} (h : ∀ c ∈ cs, c ≠ '_') :
    joinDigits last cs = some cs := by
  induction cs generalizing last with
  | nil => simp [joinDigits, hlast]
  | cons c rest ih =>
    have hc : c ≠ '_' := h c List.mem_cons_self
    have hrest := ih hc fun x hx => h x (List.mem_cons_of_mem c hx)
    simp [joinDigits, hc, hlast, hrest]

theorem joinDigits_of_digits {last : Char} (hlast : last ≠ '_') {cs : List Char}
    (h : ∀ c ∈ cs, isAsciiDigit c = true) : joinDigits last cs = some cs :=
  joinDigits_of_no_low_line hlast fun c hc heq => absurd (heq ▸ h c hc) (by decide)

theorem plain_ne_sign {c : Char} (h : isDigitLike c = true) {sign : Char} (hsign : sign = '-' ∨ sign = '+') :
    plain c ≠ sign := by
  intro heq
  have hno : isAsciiDigit sign = false ∧ sign.toNat ≤ 95 := by rcases hsign with rfl | rfl <;> decide
  cases hc : isDigit c with
  | true =>
    have hdigit := plain_of_digit hc
    rw [heq, hno.1] at hdigit
    cases hdigit
  | false =>
    have hfar := lt_of_lookalike h hc
    rw [← plain_of_lookalike h hc, heq] at hfar
    omega

theorem takeSign_of_digitLike {cs : List Char} (h : ∀ c ∈ cs, isDigitLike c = true) :
    takeSign (cs.map plain) = (false, cs.map plain) := by
  cases cs with
  | nil => rfl
  | cons c rest =>
    have hc := h c List.mem_cons_self
    rw [List.map_cons]
    unfold takeSign
    split
    · next heq => exact absurd (List.cons.inj heq).1 (plain_ne_sign hc (.inl rfl))
    · next heq => exact absurd (List.cons.inj heq).1 (plain_ne_sign hc (.inr rfl))
    · rfl

/-- the parts of a numeral at the start of such a text are the digits at its start -/
theorem takeWhile_isPart {cs : List Char} (h : ∀ c ∈ cs, isDigitLike c = true) :
    (cs.map plain).takeWhile isPart = (cs.takeWhile isDigit).map plain ∧
      (cs.map plain).dropWhile isPart = (cs.dropWhile isDigit).map plain := by
  induction cs with
  | nil => exact ⟨rfl, rfl⟩
  | cons c rest ih =>
    have hc := isPart_plain (h c List.mem_cons_self)
    obtain ⟨htake, hdrop⟩ := ih fun x hx => h x (List.mem_cons_of_mem _ hx)
    rw [List.map_cons, List.takeWhile_cons, List.takeWhile_cons, List.dropWhile_cons, List.dropWhile_cons, hc]
    cases isDigit c with
    | true => exact ⟨congrArg (_ :: ·) htake, hdrop⟩
    | false => exact ⟨rfl, rfl⟩

/-- **Reading** a text that looks like digits: the digits at its start are counted, and nothing else may follow them -/
theorem readInt_of_digitLike {cs : List Char} (hne : cs ≠ []) (h : ∀ c ∈ cs, isDigitLike c = true) :
    readInt (String.ofList cs) =
      if digitLimit < (cs.takeWhile isDigit).length then .error (.tooLong (cs.takeWhile isDigit).length)
      else if cs.all isDigit then .ok (valueOf (cs.map plain)) else .error .malformed := by
  have hbare : bare cs = cs := bare_of_edges
    (fun c hc => isBlank_of_digitLike (h c (List.mem_of_head? hc)))
    fun c hc => isBlank_of_digitLike (h c (List.mem_of_getLast? hc))
  obtain ⟨htake, hdrop⟩ := takeWhile_isPart h
  have hjoin : joinDigits ' ' ((cs.takeWhile isDigit).map plain) = some ((cs.takeWhile isDigit).map plain) := by
    refine joinDigits_of_digits (by decide) fun x hx => ?_
    obtain ⟨c, hc, rfl⟩ := List.mem_map.1 hx
    exact plain_of_digit (List.all_eq_true.1 List.all_takeWhile c hc)
  unfold isPart at htake hdrop
  unfold readInt
  rw [String.toList_ofList, hbare, takeSign_of_digitLike h]
  dsimp only
  rw [htake, hdrop, hjoin]
  dsimp only
  rw [List.length_map]
  have hcut : cs.takeWhile isDigit ++ cs.dropWhile isDigit = cs := List.takeWhile_append_dropWhile
  cases hrest : cs.dropWhile isDigit with
  | nil =>
    rw [hrest, List.append_nil] at hcut
    have hall : cs.all isDigit = true := List.all_eq_true.2 fun c hc =>
      List.all_eq_true.1 List.all_takeWhile c (hcut.symm ▸ hc)
    obtain ⟨c, rest, rfl⟩ := List.exists_cons_of_ne_nil hne
    rw [hcut, hall]
    rfl
  | cons c rest =>
    have hno : cs.all isDigit = false := Bool.eq_false_iff.2 fun hall => by
      rw [List.dropWhile_eq_nil_iff.2 (List.all_eq_true.1 hall)] at hrest
      cases hrest
    rw [hno, show (!((c :: rest).map plain).isEmpty) = true from rfl, Bool.or_true]
    rfl

/-- **A text that looks like digits** is an integer just if it consists of digits, and of no more than the limit -/
theorem readInt_isOk {cs : List Char} (hne : cs ≠ []) (h : ∀ c ∈ cs, isDigitLike c = true) :
    (readInt (String.ofList cs)).isOk = true ↔ cs.all isDigit = true ∧ cs.length ≤ digitLimit := by
  rw [readInt_of_digitLike hne h]
  cases hall : cs.all isDigit with
  | true =>
    rw [List.takeWhile_eq_self_iff.2 (List.all_eq_true.1 hall)]
    split
    · next hlong => exact iff_of_false nofun fun hs => absurd hs.2 (Nat.not_le.2 hlong)
    · next hlong => exact iff_of_true rfl ⟨rfl, Nat.not_lt.1 hlong⟩
  | false =>
    refine iff_of_false ?_ nofun
    split
    · nofun
    · nofun

/-! ## Digits behind a sign -/

/-- no sign, or the minus sign -/
def IsSign (sign : List Char) : Prop := sign = [] ∨ sign = ['-']

theorem digitLike_of_digit {c : Char} (h : isDigit c = true) : isDigitLike c = true := by
  rw [isDigitLike, h, Bool.true_or]

/-- the digits of a text as ASCII digits -/
theorem isAsciiDigit_of_mem_map {ds : List Char} (h : ∀ c ∈ ds, isDigit c = true) :
    ∀ c ∈ ds.map plain, isAsciiDigit c = true := by
  intro c hc
  obtain ⟨d, hd, rfl⟩ := List.mem_map.1 hc
  exact plain_of_digit (h d hd)

theorem takeSign_append {sign cs : List Char} (hsign : IsSign sign) (hcs : ∀ c ∈ cs.head?, isAsciiDigit c = true) :
    ∃ negative, takeSign (sign ++ cs) = (negative, cs) := by
  rcases hsign with rfl | rfl
  · cases cs with
    | nil => exact ⟨false, rfl⟩
    | cons c rest =>
      have hdigit : isAsciiDigit c = true := hcs c rfl
      refine ⟨false, ?_⟩
      rw [List.nil_append]
      unfold takeSign
      split
      · next heq => rw [(List.cons.inj heq).1] at hdigit; exact absurd hdigit (by decide)
      · next heq => rw [(List.cons.inj heq).1] at hdigit; exact absurd hdigit (by decide)
      · rfl
  · exact ⟨true, rfl⟩

theorem head_map_plain {ds : List Char} (hne : ds ≠ []) (hds : ∀ c ∈ ds, isDigit c = true) (rest : List Char) :
    ∀ c ∈ (ds.map plain ++ rest).head?, isAsciiDigit c = true := by
  obtain ⟨d, ds, rfl⟩ := List.exists_cons_of_ne_nil hne
  intro c hc
  rw [← Option.some.inj hc]
  exact plain_of_digit (hds d List.mem_cons_self)

theorem map_plain_sign {sign : List Char} (hsign : IsSign sign) : sign.map plain = sign := by
  rcases hsign with rfl | rfl
  · rfl
  · decide

/-- the characters of a number as it is written in an expression -/
def isNumeral (c : Char) : Bool := c == '-' || c == '.' || isDigit c

theorem isBlank_of_numeral {c : Char} (h : isNumeral c = true) : isBlank c = false := by
  rw [isNumeral, Bool.or_eq_true, Bool.or_eq_true, beq_iff_eq, beq_iff_eq] at h
  rcases h with (rfl | rfl) | hdigit
  · decide
  · decide
  · exact isBlank_of_digitLike (digitLike_of_digit hdigit)

/-- no blanks are around a number, so none are skipped -/
theorem bare_numeral {cs : List Char} (h : ∀ c ∈ cs, isNumeral c = true) : bare cs = cs :=
  bare_of_edges (fun c hc => isBlank_of_numeral (h c (List.mem_of_head? hc)))
    fun c hc => isBlank_of_numeral (h c (List.mem_of_getLast? hc))

theorem plain_ne_low_line {c : Char} (h : isNumeral c = true) : plain c ≠ '_' := by
  rw [isNumeral, Bool.or_eq_true, Bool.or_eq_true, beq_iff_eq, beq_iff_eq] at h
  rcases h with (rfl | rfl) | hdigit
  · decide
  · decide
  · intro heq
    have hplain := plain_of_digit hdigit
    rw [heq] at hplain
    exact absurd hplain (by decide)

theorem isNumeral_of_sign {sign : List Char} (hsign : IsSign sign) : ∀ c ∈ sign, isNumeral c = true := by
  intro c hc
  rcases hsign with rfl | rfl
  · cases hc
  · rw [List.mem_singleton.1 hc]
    rfl

theorem isNumeral_of_digit {c : Char} (h : isDigit c = true) : isNumeral c = true := by
  rw [isNumeral, h, Bool.or_true]

/-- **Digits behind a sign** are an integer, unless they are too many -/
theorem readInt_digits {sign ds : List Char} (hsign : IsSign sign) (hne : ds ≠ []) (hds : ∀ c ∈ ds, isDigit c = true) :
    ∃ n, readInt (String.ofList (sign ++ ds)) =
      if digitLimit < ds.length then .error (.tooLong ds.length) else .ok n := by
  have hnumeral : ∀ c ∈ sign ++ ds, isNumeral c = true := by
    intro c hc
    rcases List.mem_append.1 hc with hc | hc
    · exact isNumeral_of_sign hsign c hc
    · exact isNumeral_of_digit (hds c hc)
  have hhead := head_map_plain hne hds []
  rw [List.append_nil] at hhead
  obtain ⟨negative, hsplit⟩ := takeSign_append hsign hhead
  have hascii := isAsciiDigit_of_mem_map hds
  have hpart : ∀ c ∈ ds.map plain, (isAsciiDigit c || c == '_') = true := fun c hc => by
    rw [hascii c hc, Bool.true_or]
  have hjoin : joinDigits ' ' (ds.map plain) = some (ds.map plain) := joinDigits_of_digits (by decide) hascii
  refine ⟨if negative then -(valueOf (ds.map plain) : ℤ) else valueOf (ds.map plain), ?_⟩
  unfold readInt
  rw [String.toList_ofList, bare_numeral hnumeral, List.map_append, map_plain_sign hsign, hsplit]
  dsimp only
  rw [List.takeWhile_eq_self_iff.2 hpart, List.dropWhile_eq_nil_iff.2 hpart, hjoin]
  have hempty : (ds.map plain).isEmpty = false := by simp [hne]
  simp [hempty]

theorem readInt_signed {sign ds : List Char} (hsign : IsSign sign) (hne : ds ≠ []) (hds : ∀ c ∈ ds, isDigit c = true)
    (hlen : ds.length ≤ digitLimit) : ∃ n, readInt (String.ofList (sign ++ ds)) = .ok n := by
  obtain ⟨n, hn⟩ := readInt_digits hsign hne hds
  exact ⟨n, by rw [hn, if_neg (Nat.not_lt.2 hlen)]⟩

theorem readInt_overlong {sign ds : List Char} (hsign : IsSign sign) (hds : ∀ c ∈ ds, isDigit c = true)
    (hlen : digitLimit < ds.length) : readInt (String.ofList (sign ++ ds)) = .error (.tooLong ds.length) := by
  obtain ⟨n, hn⟩ := readInt_digits hsign (List.length_pos_iff.1 (Nat.zero_lt_of_lt hlen)) hds
  rw [hn, if_pos hlen]

theorem takeDigits_of_digits {cs : List Char} (h : ∀ c ∈ cs, isAsciiDigit c = true) : takeDigits cs = (cs, []) := by
  unfold takeDigits
  rw [List.takeWhile_eq_self_iff.2 h, List.dropWhile_eq_nil_iff.2 h]

/-- digits end before a point -/
theorem takeDigits_point {cs : List Char} (h : ∀ c ∈ cs, isAsciiDigit c = true) (rest : List Char) :
    takeDigits (cs ++ '.' :: rest) = (cs, '.' :: rest) := by
  unfold takeDigits
  rw [List.takeWhile_append_of_pos h, List.dropWhile_append_of_pos h]
  simp [isAsciiDigit]

/-- the digits before the point, then those behind it, and nothing is left -/
theorem readUnsigned_point {ds fs : List Char} (hne : ds ≠ []) (hds : ∀ c ∈ ds, isAsciiDigit c = true)
    (hfs : ∀ c ∈ fs, isAsciiDigit c = true) (negative : Bool) :
    ∃ x, readUnsigned negative (ds ++ '.' :: fs) = some x := by
  have hempty : ds.isEmpty = false := List.isEmpty_eq_false_iff.2 hne
  simp [readUnsigned, takeDigits_point hds, takeDigits_of_digits hfs, hempty, takeExponent]

/-- **Digits, a point and digits**, behind a sign, are a decimal -/
theorem readFloat_signed {sign ds fs : List Char} (hsign : IsSign sign) (hne : ds ≠ [])
    (hds : ∀ c ∈ ds, isDigit c = true) (hfs : ∀ c ∈ fs, isDigit c = true) :
    ∃ x, readFloat (String.ofList (sign ++ (ds ++ '.' :: fs))) = some x := by
  have hnumeral : ∀ c ∈ sign ++ (ds ++ '.' :: fs), isNumeral c = true := by
    intro c hc
    simp only [List.mem_append, List.mem_cons] at hc
    rcases hc with hc | hc | rfl | hc
    · exact isNumeral_of_sign hsign c hc
    · exact isNumeral_of_digit (hds c hc)
    · decide
    · exact isNumeral_of_digit (hfs c hc)
  have hmap : (sign ++ (ds ++ '.' :: fs)).map plain = sign ++ (ds.map plain ++ '.' :: fs.map plain) := by
    rw [List.map_append, List.map_append, List.map_cons, map_plain_sign hsign]
    rfl
  have hjoin : joinDigits ' ' ((sign ++ (ds ++ '.' :: fs)).map plain) =
      some ((sign ++ (ds ++ '.' :: fs)).map plain) := by
    refine joinDigits_of_no_low_line (by decide) fun c hc => ?_
    obtain ⟨d, hd, rfl⟩ := List.mem_map.1 hc
    exact plain_ne_low_line (hnumeral d hd)
  obtain ⟨negative, hsplit⟩ := takeSign_append hsign (head_map_plain hne hds ('.' :: fs.map plain))
  unfold readFloat
  rw [String.toList_ofList, bare_numeral hnumeral, hjoin, Option.bind_some, hmap, hsplit]
  dsimp only
  split
  · exact ⟨_, rfl⟩
  · split
    · exact ⟨_, rfl⟩
    · exact readUnsigned_point (mt List.map_eq_nil_iff.1 hne) (isAsciiDigit_of_mem_map hds)
        (isAsciiDigit_of_mem_map hfs) negative

end ReportPress.Numeral
