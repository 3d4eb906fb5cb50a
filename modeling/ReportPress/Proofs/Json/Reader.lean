import ReportPress.Json.Reader
import ReportPress.Proofs.Value.Settled
/-!
What reading a JSON text comes to. A reader uses up a beginning of the text and leaves the rest; what it gives holds the
containers of a record only. Apart from faults in the text there is one way to stop: an integer with more digits than
are converted, and its digits stand in the text in a row.

- `Reads`: how reading from some place on ends; one lemma for each reader, by induction on the fuel.
- `parseChars_cases`: the ends that reading a document comes to. `parseChars_ofJson`: what a document is read as.
-/

namespace ReportPress.Json

variable {α β : Type} {P : α → Prop} {cs r : List Char} {n : Nat}

/-- `n` digits in a row, more than are converted -/
def HasLongRun (n : Nat) (cs : List Char) : Prop :=
  Numeral.digitLimit < n ∧ ∃ ds, ds <:+: cs ∧ ds.length = n ∧ ∀ d ∈ ds, Text.isAsciiDigit d = true

theorem HasLongRun.of_suffix (h : HasLongRun n r) (hr : r <:+ cs) : HasLongRun n cs := by
  obtain ⟨hlimit, ds, hds, hlength, hdigits⟩ := h
  exact ⟨hlimit, ds, hds.trans hr.isInfix, hlength, hdigits⟩

/-- how reading from `cs` on ends: with something that `P` holds of and with what is left of the text, at an integer
that is too long, or at a fault -/
def Reads (P : α → Prop) (cs : List Char) : Read α → Prop
  | .ok (a, r) => P a ∧ r <:+ cs
  | .error (.tooLong n) => HasLongRun n cs
  | .error (.fault _ _) => True

theorem Reads.of_suffix {x : Read α} (h : Reads P r x) (hr : r <:+ cs) : Reads P cs x := by
  rcases x with (⟨f, rest⟩ | n) | ⟨a, r'⟩
  · exact True.intro
  · exact HasLongRun.of_suffix h hr
  · exact ⟨h.1, h.2.trans hr⟩

theorem skip_suffix (cs : List Char) : skip cs <:+ cs := List.dropWhile_suffix isSpace

/-! ## Strings -/

theorem codeUnit?_suffix (h : codeUnit? cs = some (n, r)) : r <:+ cs := by
  unfold codeUnit? at h
  split at h
  · next a b c d e rest =>
    split at h
    · cases h
      exact List.suffix_append [a, b, c, d] (e :: rest)
    · cases h
  · cases h

theorem finishUnit_suffix (n : Nat) (cs : List Char) : (finishUnit n cs).2 <:+ cs := by
  unfold finishUnit
  split
  · split
    · next r =>
      split
      · next m r' hunit =>
        split
        · exact (codeUnit?_suffix hunit).trans (List.suffix_append ['\\', 'u'] r)
        · exact List.suffix_rfl
      · exact List.suffix_rfl
    · exact List.suffix_rfl
  · exact List.suffix_rfl

theorem reads_string (start : List Char) (fuel : Nat) (acc cs : List Char) :
    Reads (fun _ => True) cs (readString start fuel acc cs) := by
  induction fuel generalizing acc cs with
  | zero => exact True.intro
  | succ fuel ih =>
    cases cs with
    | nil => exact True.intro
    | cons c rest =>
      have hrest : rest <:+ c :: rest := List.suffix_cons c rest
      unfold readString
      split
      · exact ⟨True.intro, hrest⟩
      · split
        · split
          · exact True.intro
          · next r =>
            split
            · next n r' hunit =>
              have hleft := (finishUnit_suffix n r').trans (codeUnit?_suffix hunit)
              exact (ih _ _).of_suffix ((hleft.trans (List.suffix_cons 'u' r)).trans hrest)
            · exact True.intro
          · next e r hother =>
            split
            · exact (ih _ _).of_suffix ((List.suffix_cons e r).trans hrest)
            · exact True.intro
        · split
          · exact True.intro
          · exact (ih _ _).of_suffix hrest

/-! ## Numbers -/

theorem takeDigits_suffix (cs : List Char) : (Numeral.takeDigits cs).2 <:+ cs := List.dropWhile_suffix _

theorem takeSign_suffix (cs : List Char) : (Numeral.takeSign cs).2 <:+ cs := by
  unfold Numeral.takeSign
  split
  · exact List.suffix_cons _ _
  · exact List.suffix_cons _ _
  · exact List.suffix_rfl

theorem takeExponent_suffix (cs : List Char) : (Numeral.takeExponent cs).2 <:+ cs := by
  cases cs with
  | nil => exact List.suffix_rfl
  | cons e r =>
    rw [Numeral.takeExponent]
    split
    · dsimp only
      split
      · exact List.suffix_rfl
      · exact ((takeDigits_suffix _).trans (takeSign_suffix r)).trans (List.suffix_cons e r)
    · exact List.suffix_rfl

/-- the whole part of a number is made of digits and stands in front of the rest -/
theorem wholePart_spec (cs : List Char) :
    cs = (wholePart cs).1 ++ (wholePart cs).2 ∧ ∀ d ∈ (wholePart cs).1, Text.isAsciiDigit d = true := by
  unfold wholePart
  split
  · refine ⟨rfl, ?_⟩
    intro d hd
    rw [List.mem_singleton.1 hd]
    decide
  · refine ⟨(List.takeWhile_append_dropWhile).symm, ?_⟩
    exact List.all_eq_true.1 List.all_takeWhile

/-- a number of which the whole part and the fraction are read -/
def finishNumber (negative : Bool) (whole fraction rest : List Char) : Read Value :=
  let (e, rest') := Numeral.takeExponent rest
  if fraction.isEmpty && rest'.length == rest.length then
    if Numeral.digitLimit < whole.length then .error (.tooLong whole.length)
    else
      let n := Numeral.valueOf whole
      .ok (.int (if negative then -(n : Int) else n), rest)
  else
    .ok (.float (Binary64.ofDecimal negative (Numeral.valueOf (whole ++ fraction)) (e - fraction.length)), rest')

theorem reads_finishNumber {negative : Bool} {whole fraction rest : List Char} (hwhole : whole <:+: cs)
    (hdigits : ∀ d ∈ whole, Text.isAsciiDigit d = true) (hrest : rest <:+ cs) :
    Reads Value.OfJson cs (finishNumber negative whole fraction rest) := by
  have hexponent := takeExponent_suffix rest
  unfold finishNumber
  generalize Numeral.takeExponent rest = taken at hexponent
  obtain ⟨e, rest'⟩ := taken
  dsimp only at hexponent ⊢
  split
  · split
    · next hlong => exact ⟨hlong, whole, hwhole, rfl, hdigits⟩
    · exact ⟨.int _, hrest⟩
  · exact ⟨.float _, hexponent.trans hrest⟩

/-- a number after its sign -/
theorem reads_unsigned (negative : Bool) {body : List Char} (hbody : body <:+ cs) :
    Reads Value.OfJson cs
      (let (whole, rest) := wholePart body
       if whole.isEmpty then .error (.fault .value cs)
       else
        let (fraction, rest) : List Char × List Char := match rest with
          | '.' :: r => match Numeral.takeDigits r with
            | ([], _) => ([], '.' :: r)
            | taken => taken
          | r => ([], r)
        finishNumber negative whole fraction rest) := by
  obtain ⟨hcut, hdigits⟩ := wholePart_spec body
  generalize wholePart body = taken at hcut hdigits
  obtain ⟨whole, rest⟩ := taken
  dsimp only at hcut hdigits ⊢
  have hwhole : whole <:+: cs := by
    rw [hcut] at hbody
    exact (List.prefix_append whole rest).isInfix.trans hbody.isInfix
  have hrest : rest <:+ cs := by
    rw [hcut] at hbody
    exact (List.suffix_append whole rest).trans hbody
  split
  · exact True.intro
  · split
    · next r =>
      split
      · exact reads_finishNumber hwhole hdigits hrest
      · exact reads_finishNumber hwhole hdigits ((takeDigits_suffix r).trans ((List.suffix_cons '.' r).trans hrest))
    · exact reads_finishNumber hwhole hdigits hrest

theorem reads_number (cs : List Char) : Reads Value.OfJson cs (readNumber cs) := by
  have hunsigned := fun negative {body} (h : body <:+ cs) => reads_unsigned negative h
  unfold finishNumber at hunsigned
  unfold readNumber
  split
  next negative body hsign =>
  apply hunsigned
  split at hsign
  · next r =>
    cases hsign
    exact List.suffix_cons '-' body
  · cases hsign
    exact List.suffix_rfl

/-! ## Values -/

theorem reads_word {v : Value} (h : readWord? cs = some (v, r)) : Reads Value.OfJson cs (.ok (v, r)) := by
  obtain ⟨w, hfind, hw⟩ := Option.map_eq_some_iff.1 h
  cases hw
  have hwords : ∀ w ∈ words, w.2.OfJson := by
    simp only [words, List.forall_mem_cons]
    exact ⟨.null, .bool true, .bool false, .float _, .float _, .float _, by simp⟩
  exact ⟨hwords w (List.mem_of_find?_eq_some hfind), List.drop_suffix _ _⟩

section Step

variable {fuel : Nat} (hvalue : ∀ cs, Reads Value.OfJson cs (readValue fuel cs))
  (hitems : ∀ acc cs, (∀ v ∈ acc, v.OfJson) → Reads Value.OfJson cs (readItems fuel acc cs))
  (hfields : ∀ acc cs, (∀ f ∈ acc, f.2.OfJson) → Reads Value.OfJson cs (readFields fuel acc cs))

include hitems hfields in
theorem reads_value (cs : List Char) : Reads Value.OfJson cs (readValue (fuel + 1) cs) := by
  unfold readValue
  split
  · next r =>
    have hstring := (reads_string ('"' :: r) (r.length + 1) [] r).of_suffix (List.suffix_cons '"' r)
    generalize readString ('"' :: r) (r.length + 1) [] r = x at hstring
    rcases x with (⟨f, rest⟩ | n) | ⟨t, r'⟩
    · exact True.intro
    · exact hstring
    · exact ⟨.string _, hstring.2⟩
  · next r =>
    have hskip := (skip_suffix r).trans (List.suffix_cons '\x7b' r)
    split
    · next r' hclose =>
      have hrest : r' <:+ skip r := hclose ▸ List.suffix_cons '\x7d' r'
      exact ⟨.object (by simp), hrest.trans hskip⟩
    · exact (hfields [] _ (by simp)).of_suffix hskip
  · next r =>
    have hskip := (skip_suffix r).trans (List.suffix_cons '[' r)
    split
    · next r' hclose =>
      have hrest : r' <:+ skip r := hclose ▸ List.suffix_cons ']' r'
      exact ⟨.list (by simp), hrest.trans hskip⟩
    · exact (hitems [] _ (by simp)).of_suffix hskip
  · split
    · next found hword => exact reads_word hword
    · exact reads_number cs

include hvalue hitems in
theorem reads_items {acc : List Value} (hacc : ∀ v ∈ acc, v.OfJson) (cs : List Char) :
    Reads Value.OfJson cs (readItems (fuel + 1) acc cs) := by
  have hfirst := hvalue cs
  unfold readItems
  generalize readValue fuel cs = x at hfirst
  rcases x with (⟨f, rest⟩ | n) | ⟨v, r⟩
  · exact True.intro
  · exact hfirst
  · have hskip := (skip_suffix r).trans hfirst.2
    have hall : ∀ w ∈ v :: acc, w.OfJson := List.forall_mem_cons.2 ⟨hfirst.1, hacc⟩
    dsimp only
    split
    · next r' hclose =>
      have hrest : r' <:+ skip r := hclose ▸ List.suffix_cons ']' r'
      exact ⟨.list (fun w hw => hall w (List.mem_reverse.1 hw)), hrest.trans hskip⟩
    · next r' hcomma =>
      have hrest : r' <:+ skip r := hcomma ▸ List.suffix_cons ',' r'
      exact (hitems _ _ hall).of_suffix ((skip_suffix r').trans (hrest.trans hskip))
    · exact True.intro

include hvalue hfields in
theorem reads_fields {acc : Fields} (hacc : ∀ f ∈ acc, f.2.OfJson) (cs : List Char) :
    Reads Value.OfJson cs (readFields (fuel + 1) acc cs) := by
  unfold readFields
  split
  · next r =>
    have hstring := (reads_string ('"' :: r) (r.length + 1) [] r).of_suffix (List.suffix_cons '"' r)
    generalize readString ('"' :: r) (r.length + 1) [] r = x at hstring
    rcases x with (⟨f, rest⟩ | n) | ⟨t, r₁⟩
    · exact True.intro
    · exact hstring
    · have hskip := (skip_suffix r₁).trans hstring.2
      dsimp only
      split
      · next r₂ hcolon =>
        have hafter : r₂ <:+ skip r₁ := hcolon ▸ List.suffix_cons ':' r₂
        have hfirst := (hvalue (skip r₂)).of_suffix ((skip_suffix r₂).trans (hafter.trans hskip))
        generalize readValue fuel (skip r₂) = x at hfirst
        rcases x with (⟨f, rest⟩ | n) | ⟨v, r₃⟩
        · exact True.intro
        · exact hfirst
        · have hskip₃ := (skip_suffix r₃).trans hfirst.2
          have hall : ∀ f ∈ (String.ofList t, v) :: acc, f.2.OfJson := List.forall_mem_cons.2 ⟨hfirst.1, hacc⟩
          dsimp only
          split
          · next r₄ hclose =>
            have hrest : r₄ <:+ skip r₃ := hclose ▸ List.suffix_cons '\x7d' r₄
            refine ⟨.object (Fields.forall_ofList ?_), hrest.trans hskip₃⟩
            intro f hf
            exact hall f (List.mem_reverse.1 hf)
          · next r₄ hcomma =>
            have hrest : r₄ <:+ skip r₃ := hcomma ▸ List.suffix_cons ',' r₄
            exact (hfields _ _ hall).of_suffix ((skip_suffix r₄).trans (hrest.trans hskip₃))
          · exact True.intro
      · exact True.intro
  · exact True.intro

end Step

/-- **Reading a value**, the items of a list, or the fields of an object -/
theorem reads_all (fuel : Nat) :
    (∀ cs, Reads Value.OfJson cs (readValue fuel cs)) ∧
      (∀ acc cs, (∀ v ∈ acc, v.OfJson) → Reads Value.OfJson cs (readItems fuel acc cs)) ∧
      ∀ acc cs, (∀ f ∈ acc, f.2.OfJson) → Reads Value.OfJson cs (readFields fuel acc cs) := by
  induction fuel with
  | zero =>
    refine ⟨fun cs => ?_, fun acc cs _ => ?_, fun acc cs _ => ?_⟩
    · rw [readValue]; exact True.intro
    · rw [readItems]; exact True.intro
    · rw [readFields]; exact True.intro
  | succ fuel ih =>
    obtain ⟨hvalue, hitems, hfields⟩ := ih
    exact ⟨reads_value hitems hfields, fun acc cs hacc => reads_items hvalue hitems hacc cs,
      fun acc cs hacc => reads_fields hvalue hfields hacc cs⟩

/-! ## Documents -/

/-- a document is a value with nothing after it but spaces -/
theorem parseChars_cases (cs : List Char) :
    (∃ v, parseChars cs = .ok v ∧ v.OfJson) ∨
      (∃ n, parseChars cs = .error (.tooLong n) ∧ HasLongRun n cs) ∨
      ∃ fault place, parseChars cs = .error (.malformed fault place) := by
  have hread := ((reads_all (2 * (skip cs).length + 2)).1 (skip cs)).of_suffix (skip_suffix cs)
  unfold parseChars
  dsimp only
  generalize readValue (2 * (skip cs).length + 2) (skip cs) = x at hread
  by_cases hmark : cs.head? = some '\ufeff'
  · rw [if_pos hmark]
    exact .inr (.inr ⟨_, _, rfl⟩)
  · rw [if_neg hmark]
    rcases x with (⟨f, rest⟩ | n) | ⟨v, r⟩
    · exact .inr (.inr ⟨_, _, rfl⟩)
    · exact .inr (.inl ⟨n, rfl, hread⟩)
    · cases hrest : skip r with
      | nil => exact .inl ⟨v, by simp [hrest], hread.1⟩
      | cons c rest => exact .inr (.inr ⟨.extra, placeOf cs (c :: rest), by simp [hrest]⟩)

theorem parseChars_ofJson {v : Value} (h : parseChars cs = .ok v) : v.OfJson := by
  rcases parseChars_cases cs with ⟨w, hw, hjson⟩ | ⟨n, hn, -⟩ | ⟨fault, place, hfault⟩
  · rw [hw] at h
    cases h
    exact hjson
  · rw [hn] at h
    cases h
  · rw [hfault] at h
    cases h

end ReportPress.Json
