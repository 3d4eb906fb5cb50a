import ReportPress.Paint.Job
import ReportPress.Proofs.Number.Ratio
import ReportPress.Proofs.Record.Fallback
import ReportPress.Proofs.Record.Substitution
/-!
Colours as they are read, as the surface takes them, and as style entries come to them. A text gives three components
from 0 to 255 or no colour at all; a list of three gives whatever integers its items can be taken for, and reading it
fails if the first item that cannot be taken is an infinity. The surface takes fractions of 255 from 0 to 1, but looks at
the red alone if the colour is black or its green is -1. So a colour that is read can be drawn with, but for the lists.

- `InRange`: components from 0 to 255. `Overflows`, `Exceeds`: the lists that fail to be read, and those that give
  something else.
- `ofText_inRange`: colours written in hexadecimal digits. `read_outcome`: what a value is read as.
- `ratio_cases`: a component as a fraction of 255. `checkColour_cases`: which colours the surface takes.
- `inRange_of_check`: these are the colours in range, but for the ones of which the surface looks at the red alone.
- `DrawnWith`: the default or a colour that the surface takes. `read_drawnWith`: which values are read as such a colour.
- `colour_cases`: a style entry is what it comes to, read as a colour, or the default if it is empty.
- `colour_drawnWith`: which style entries come to a colour that can be drawn with. `infinite_component_fails`,
  `component_not_checked`: a list of either kind.
-/

namespace ReportPress

namespace Rgb

/-! ## Reading -/

def IsByte (n : ℤ) : Prop := 0 ≤ n ∧ n ≤ 255

instance (n : ℤ) : Decidable (IsByte n) := inferInstanceAs (Decidable (0 ≤ n ∧ n ≤ 255))

/-- every component is from 0 to 255 -/
def InRange (c : Rgb) : Prop := IsByte c.red ∧ IsByte c.green ∧ IsByte c.blue

instance (c : Rgb) : Decidable c.InRange :=
  inferInstanceAs (Decidable (IsByte c.red ∧ IsByte c.green ∧ IsByte c.blue))

theorem inRange_black : black.InRange := by decide

/-- the item can be taken for an integer -/
def isTaken (v : Value) : Bool :=
  match component v with
  | .ok (some _) => true
  | _ => false

def IsInfinite (v : Value) : Prop := ∃ x negative, v = .float x ∧ Binary64.read x = .infinite negative

/-- a list of three, of which the first item that cannot be taken for an integer is an infinity -/
def Overflows (v : Value) : Prop :=
  ∃ owner r g b item, v = .list owner [r, g, b] ∧ [r, g, b].find? (!isTaken ·) = some item ∧ IsInfinite item

/-- a list of three items that are taken for these components -/
def Spells (v : Value) (c : Rgb) : Prop :=
  ∃ owner r g b, v = .list owner [r, g, b] ∧ component r = .ok (some c.red) ∧ component g = .ok (some c.green) ∧
    component b = .ok (some c.blue)

theorem Spells.unique {v : Value} {c d : Rgb} (hc : Spells v c) (hd : Spells v d) : c = d := by
  obtain ⟨owner, r, g, b, rfl, hr, hg, hb⟩ := hc
  obtain ⟨_, _, _, _, hlist, hr', hg', hb'⟩ := hd
  cases hlist
  have hred : c.red = d.red := by simpa [hr] using hr'
  have hgreen : c.green = d.green := by simpa [hg] using hg'
  have hblue : c.blue = d.blue := by simpa [hb] using hb'
  show (⟨c.red, c.green, c.blue⟩ : Rgb) = ⟨d.red, d.green, d.blue⟩
  rw [hred, hgreen, hblue]

/-- a list of three items that are taken for integers, not all of them from 0 to 255 -/
def Exceeds (v : Value) : Prop := ∃ c, Spells v c ∧ ¬ c.InRange

theorem component_cases (v : Value) :
    (∃ n, component v = .ok (some n)) ∨ (component v = .ok none ∧ ¬ IsInfinite v) ∨
      (component v = .error .infiniteInteger ∧ IsInfinite v) := by
  cases v with
  | float x =>
    have hinfinite : IsInfinite (.float x) ↔ ∃ negative, Binary64.read x = .infinite negative := by
      simp [IsInfinite]
    rw [hinfinite]
    unfold component truncate?
    dsimp only
    cases hx : Binary64.read x with
    | nan => exact .inr (.inl ⟨rfl, nofun⟩)
    | infinite negative => exact .inr (.inr ⟨rfl, negative, rfl⟩)
    | finite b => exact .inl ⟨_, rfl⟩
  | bool b => exact .inl ⟨_, rfl⟩
  | int n => exact .inl ⟨n, rfl⟩
  | string s =>
    unfold component
    dsimp only
    cases Numeral.readInt s with
    | ok n => exact .inl ⟨n, rfl⟩
    | error fault => exact .inr (.inl ⟨rfl, nofun⟩)
  | _ => exact .inr (.inl ⟨rfl, nofun⟩)

/-- three items in turn: the first that cannot be taken decides -/
theorem ofComponents_cases (r g b : Value) :
    (∃ c, ofComponents r g b = .ok (some c) ∧ component r = .ok (some c.red) ∧ component g = .ok (some c.green) ∧
        component b = .ok (some c.blue)) ∨
      ∃ item, [r, g, b].find? (!isTaken ·) = some item ∧
        ((ofComponents r g b = .ok none ∧ ¬ IsInfinite item) ∨
          (ofComponents r g b = .error .infiniteInteger ∧ IsInfinite item)) := by
  rcases component_cases r with ⟨n, hr⟩ | ⟨hr, hi⟩ | ⟨hr, hi⟩
  · rcases component_cases g with ⟨m, hg⟩ | ⟨hg, hi⟩ | ⟨hg, hi⟩
    · rcases component_cases b with ⟨k, hb⟩ | ⟨hb, hi⟩ | ⟨hb, hi⟩
      · exact .inl ⟨⟨n, m, k⟩, by rw [ofComponents, hr, hg, hb]; rfl, hr, hg, hb⟩
      · exact .inr ⟨b, by simp [isTaken, hr, hg, hb], .inl ⟨by rw [ofComponents, hr, hg, hb]; rfl, hi⟩⟩
      · exact .inr ⟨b, by simp [isTaken, hr, hg, hb], .inr ⟨by rw [ofComponents, hr, hg, hb]; rfl, hi⟩⟩
    · exact .inr ⟨g, by simp [isTaken, hr, hg], .inl ⟨by rw [ofComponents, hr, hg]; rfl, hi⟩⟩
    · exact .inr ⟨g, by simp [isTaken, hr, hg], .inr ⟨by rw [ofComponents, hr, hg]; rfl, hi⟩⟩
  · exact .inr ⟨r, by simp [isTaken, hr], .inl ⟨by rw [ofComponents, hr]; rfl, hi⟩⟩
  · exact .inr ⟨r, by simp [isTaken, hr], .inr ⟨by rw [ofComponents, hr]; rfl, hi⟩⟩

theorem hexValue?_lt {c : Char} {n : ℕ} (h : Json.hexValue? c = some n) : n < 16 := by
  have hwithin : ∀ {first last : Char}, (decide (first ≤ c) && decide (c ≤ last)) = true → c.toNat ≤ last.toNat := by
    intro first last hboth
    exact of_decide_eq_true (Bool.and_eq_true_iff.1 hboth).2
  have hnine : '9'.toNat = 57 := rfl
  have hsmall : 'f'.toNat = 102 := rfl
  have hlarge : 'F'.toNat = 70 := rfl
  unfold Json.hexValue? at h
  split at h
  · next hdigit => cases h; have := hwithin hdigit; omega
  · split at h
    · next hletter => cases h; have := hwithin hletter; omega
    · split at h
      · next hletter => cases h; have := hwithin hletter; omega
      · cases h

theorem mapM_hexValue?_lt {cs : List Char} {ds : List ℕ} (h : cs.mapM Json.hexValue? = some ds) : ∀ d ∈ ds, d < 16 := by
  induction cs generalizing ds with
  | nil =>
    cases h
    simp
  | cons c rest ih =>
    simp only [List.mapM_cons, Option.bind_eq_bind, Option.bind_eq_some_iff] at h
    obtain ⟨d, hd, later, hlater, hcons⟩ := h
    cases hcons
    exact List.forall_mem_cons.2 ⟨hexValue?_lt hd, ih hlater⟩

theorem ofHexDigits_inRange {ds : List ℕ} {c : Rgb} (hds : ∀ d ∈ ds, d < 16) (h : ofHexDigits ds = some c) :
    c.InRange := by
  unfold ofHexDigits at h
  split at h
  · cases h
    simp only [List.forall_mem_cons] at hds
    simp only [InRange, IsByte]
    omega
  · cases h
    simp only [List.forall_mem_cons] at hds
    simp only [InRange, IsByte]
    omega
  · cases h

/-- **A colour in hexadecimal digits** is in range -/
theorem ofText_inRange {s : String} {c : Rgb} (h : ofText s = some c) : c.InRange := by
  unfold ofText at h
  obtain ⟨ds, hds, hc⟩ := Option.bind_eq_some_iff.1 h
  exact ofHexDigits_inRange (mapM_hexValue?_lt hds) hc

/-- **Reading a colour.** It fails just for a list that overflows; otherwise it gives the default, or a colour in range,
or the components that a list spells -/
theorem read_outcome (v : Value) (default : Option Rgb) :
    (read v default = .error .infiniteInteger ∧ Overflows v ∧ ∀ c, ¬ Spells v c) ∨
      (¬ Overflows v ∧ ∃ c, read v default = .ok (some c) ∧ Spells v c) ∨
      (¬ Overflows v ∧ (∀ c, ¬ Spells v c) ∧ ∃ c, read v default = .ok c ∧ (c = default ∨ ∃ rgb ∈ c, rgb.InRange)) := by
  by_cases hthree : ∃ owner r g b, v = .list owner [r, g, b]
  · obtain ⟨owner, r, g, b, rfl⟩ := hthree
    have hread : read (.list owner [r, g, b]) default = (ofComponents r g b).map (·.orElse fun _ => default) := rfl
    have hoverflows : ∀ {item}, [r, g, b].find? (!isTaken ·) = some item →
        (Overflows (.list owner [r, g, b]) ↔ IsInfinite item) := by
      intro item hitem
      constructor
      · rintro ⟨_, _, _, _, _, hlist, hfound, hinfinite⟩
        cases hlist
        cases hitem.symm.trans hfound
        exact hinfinite
      · exact fun hinfinite => ⟨owner, r, g, b, item, rfl, hitem, hinfinite⟩
    have hspells : ∀ {item}, [r, g, b].find? (!isTaken ·) = some item → ∀ c, ¬ Spells (.list owner [r, g, b]) c := by
      rintro item hitem c ⟨_, _, _, _, hlist, hr, hg, hb⟩
      cases hlist
      simp [isTaken, hr, hg, hb] at hitem
    rw [hread]
    rcases ofComponents_cases r g b with ⟨c, hc, hr, hg, hb⟩ | ⟨item, hitem, ⟨hc, hi⟩ | ⟨hc, hi⟩⟩
    · refine .inr (.inl ⟨?_, c, by rw [hc]; rfl, owner, r, g, b, rfl, hr, hg, hb⟩)
      rintro ⟨_, _, _, _, _, hlist, hfound, -⟩
      cases hlist
      simp [isTaken, hr, hg, hb] at hfound
    · exact .inr (.inr ⟨mt (hoverflows hitem).1 hi, hspells hitem, default, by rw [hc]; rfl, .inl rfl⟩)
    · exact .inl ⟨by rw [hc]; rfl, (hoverflows hitem).2 hi, hspells hitem⟩
  · refine .inr (.inr ⟨?_, ?_, ?_⟩)
    · rintro ⟨owner, r, g, b, _, hlist, -⟩
      exact hthree ⟨owner, r, g, b, hlist⟩
    · rintro c ⟨owner, r, g, b, hlist, -⟩
      exact hthree ⟨owner, r, g, b, hlist⟩
    · unfold read
      split
      · next owner r g b => exact absurd ⟨owner, r, g, b, rfl⟩ hthree
      · next s =>
        cases hs : ofText s with
        | none => exact ⟨default, rfl, .inl rfl⟩
        | some c => exact ⟨some c, rfl, .inr ⟨c, rfl, ofText_inRange hs⟩⟩
      · exact ⟨default, rfl, .inl rfl⟩

/-- reading fails just for a list that overflows -/
theorem read_error {v : Value} {default : Option Rgb} {f : Failure} :
    read v default = .error f ↔ Overflows v ∧ f = .infiniteInteger := by
  rcases read_outcome v default with ⟨hread, hover, -⟩ | ⟨hover, c, hread, -⟩ | ⟨hover, -, c, hread, -⟩
  · rw [hread, and_iff_right hover]
    exact ⟨fun h => by cases h; rfl, fun h => by rw [h]⟩
  · rw [hread]
    exact iff_of_false nofun fun h => hover h.1
  · rw [hread]
    exact iff_of_false nofun fun h => hover h.1

end Rgb

theorem Failure.unlessFinite_of_finite {f : Failure} {x : Float} {b : Binary64} (h : Binary64.read x = .finite b) :
    f.unlessFinite x = .ok x := by
  rw [unlessFinite, h]

theorem Failure.unlessFinite_of_infinite {f : Failure} {x : Float} {negative : Bool}
    (h : Binary64.read x = .infinite negative) : f.unlessFinite x = .error f := by
  rw [unlessFinite, h]

namespace Canvas

open Binary64 Rgb

/-! ## What the surface takes -/

/-- a 255th of it is beyond the doubles -/
def IsVast (n : ℤ) : Prop := 255 * beyondAll ≤ n.natAbs

/-- zero and one as doubles -/
def zero : Binary64 := ⟨false, 0, 0⟩

def one : Binary64 := ⟨false, 2 ^ 52, 1022⟩

theorem canonical_zero : zero.Canonical := ⟨by decide, fun h => absurd h (by decide)⟩

theorem canonical_one : one.Canonical := ⟨by decide, fun _ => le_rfl⟩

theorem read_one : read 1.0 = .finite one := by decide

/-- the bits of 255ths where they pass zero, one and the largest double -/
theorem bits_of_255ths :
    zero.place < nearestBits 1 255 ∧ one.place = nearestBits 255 255 ∧ one.place < nearestBits 256 255 ∧
      nearestBits (255 * beyondAll - 1) 255 < 2047 * 2 ^ 52 ∧ nearestBits (255 * beyondAll) 255 = 2047 * 2 ^ 52 := by
  decide +kernel

theorem nearestBits_of_not_vast {n : ℤ} (h : ¬ IsVast n) : nearestBits n.natAbs 255 < 2047 * 2 ^ 52 := by
  obtain ⟨-, -, -, hlargest, -⟩ := bits_of_255ths
  exact (nearestBits_mono (by decide) (Nat.le_sub_one_of_lt (Nat.not_le.1 h))).trans_lt hlargest

theorem nearestBits_of_vast {n : ℤ} (h : IsVast n) : nearestBits n.natAbs 255 = 2047 * 2 ^ 52 := by
  obtain ⟨-, -, -, -, hleast⟩ := bits_of_255ths
  have hmono : nearestBits (255 * beyondAll) 255 ≤ nearestBits n.natAbs 255 := nearestBits_mono (by decide) h
  rw [hleast] at hmono
  exact le_antisymm (nearestBits_le _ _) hmono

theorem units_one : one.units = one.magnitude := if_neg Bool.false_ne_true

/-- a 255th of a number that is not zero is above zero -/
theorem magnitude_pos_of_place {b : Binary64} {n : ℕ} (hb : b.Canonical) (hplace : b.place = nearestBits n 255)
    (hn : 0 < n) : 0 < b.magnitude := by
  have hleast := bits_of_255ths.1
  have hmono : nearestBits 1 255 ≤ nearestBits n 255 := nearestBits_mono (by decide) hn
  have hzero : zero.magnitude = 0 := Nat.zero_mul _
  rw [← hzero]
  apply (magnitude_lt_iff_place canonical_zero hb).2
  omega

/-- a 255th is above one just for numbers above 255 -/
theorem one_lt_iff {b : Binary64} {n : ℕ} (hb : b.Canonical) (hplace : b.place = nearestBits n 255) :
    one.magnitude < b.magnitude ↔ 255 < n := by
  obtain ⟨-, hone, hnext, -⟩ := bits_of_255ths
  rw [magnitude_lt_iff_place canonical_one hb, hplace]
  constructor
  · intro hlt
    by_contra hle
    have hmono : nearestBits n 255 ≤ nearestBits 255 255 := nearestBits_mono (by decide) (Nat.not_lt.1 hle)
    omega
  · intro hlt
    exact hnext.trans_le (nearestBits_mono (by decide) hlt)

/-- the double of a 255th is from zero to one just for numbers from 0 to 255 -/
theorem within_iff {x : Float} {b : Binary64} {n : ℤ} (hread : read x = .finite b) (hb : b.Canonical)
    (hnegative : b.negative = decide (n < 0)) (hplace : b.place = nearestBits n.natAbs 255) :
    (0.0 ≤ x ∧ x ≤ 1.0) ↔ IsByte n := by
  have hzero : 0.0 ≤ x ↔ ¬ b.units < 0 := by
    rw [le_iff_not_lt (isNaN_of_finite read_zero) (isNaN_of_finite hread), lt_iff_units hread read_zero]
    rfl
  have hone : x ≤ 1.0 ↔ ¬ one.units < b.units := by
    rw [le_iff_not_lt (isNaN_of_finite hread) (isNaN_of_finite read_one), lt_iff_units read_one hread]
  have hunits : b.units = if n < 0 then -(b.magnitude : ℤ) else b.magnitude := by
    simp only [units, hnegative, decide_eq_true_eq]
  rw [hzero, hone, units_one, IsByte]
  by_cases hn : n < 0
  · have hpos := magnitude_pos_of_place hb hplace (by omega)
    rw [if_pos hn] at hunits
    omega
  · have hlt := one_lt_iff hb hplace
    rw [if_neg hn] at hunits
    omega

/-- **A component as a fraction of 255**: too large to be one, or in the range that is taken, or not -/
theorem ratio_cases (n : ℤ) :
    (IsVast n ∧ ratio n = .error .quotientTooLarge) ∨
      (¬ IsVast n ∧ ∃ x, ratio n = .ok x ∧
        ((IsByte n ∧ checkRatio x = .ok ()) ∨ (¬ IsByte n ∧ checkRatio x = .error (.colourRange x)))) := by
  by_cases hvast : IsVast n
  · exact .inl ⟨hvast, Failure.unlessFinite_of_infinite (read_nearest_of_top (nearestBits_of_vast hvast) _)⟩
  · obtain ⟨b, hread, hb, hnegative, hplace⟩ :=
      read_nearest_of_lt (nearestBits_of_not_vast hvast) (decide (n < 0))
    have hwithin := within_iff hread hb hnegative hplace
    refine .inr ⟨hvast, _, Failure.unlessFinite_of_finite hread, ?_⟩
    generalize nearest (decide (n < 0)) n.natAbs 255 = x at hwithin
    have hcheck : checkRatio x = if 0.0 ≤ x ∧ x ≤ 1.0 then .ok () else .error (.colourRange x) := by
      simp [checkRatio]
    rw [hcheck]
    by_cases hbyte : IsByte n
    · exact .inl ⟨hbyte, if_pos (hwithin.2 hbyte)⟩
    · exact .inr ⟨hbyte, if_neg (mt hwithin.1 hbyte)⟩

/-- the components that the surface looks at -/
def looked (c : Rgb) : List ℤ := if c = .black ∨ c.green = -1 then [c.red] else [c.red, c.green, c.blue]

/-- all fractions are worked out before the first of them is checked -/
theorem checkColour_eq (c : Rgb) : checkColour c = (looked c).mapM ratio >>= fun xs => xs.forM checkRatio := by
  by_cases hred : c = .black ∨ c.green = -1
  · simp [checkColour, looked, hred]
  · simp [checkColour, looked, hred]

/-- the induction is on the components: a vast one decides at once, one out of range unless a vast one follows -/
theorem mapM_ratio_cases (ns : List ℤ) :
    ((∃ n ∈ ns, IsVast n) ∧ ns.mapM ratio = .error .quotientTooLarge) ∨
      ((∀ n ∈ ns, ¬ IsVast n) ∧ ∃ xs, ns.mapM ratio = .ok xs ∧
        (((∀ n ∈ ns, IsByte n) ∧ xs.forM checkRatio = .ok ()) ∨
          ((∃ n ∈ ns, ¬ IsByte n) ∧ ∃ x, xs.forM checkRatio = .error (.colourRange x)))) := by
  induction ns with
  | nil => exact .inr ⟨nofun, [], rfl, .inl ⟨nofun, rfl⟩⟩
  | cons n rest ih =>
    simp only [List.mapM_cons, List.mem_cons, forall_eq_or_imp, exists_eq_or_imp]
    rcases ratio_cases n with ⟨hvast, hratio⟩ | ⟨hvast, x, hratio, hx⟩
    · exact .inl ⟨.inl hvast, by rw [hratio]; rfl⟩
    rcases ih with ⟨hlater, hrest⟩ | ⟨hlater, xs, hrest, hxs⟩
    · exact .inl ⟨.inr hlater, by rw [hratio, hrest]; rfl⟩
    refine .inr ⟨⟨hvast, hlater⟩, x :: xs, by rw [hratio, hrest]; rfl, ?_⟩
    have hcons : (x :: xs).forM checkRatio = checkRatio x >>= fun _ => xs.forM checkRatio := rfl
    rw [hcons]
    rcases hx with ⟨hbyte, hcheck⟩ | ⟨hbyte, hcheck⟩
    · rw [hcheck]
      exact hxs.imp (fun h => ⟨⟨hbyte, h.1⟩, h.2⟩) fun h => ⟨.inr h.1, h.2⟩
    · exact .inr ⟨.inl hbyte, x, by rw [hcheck]; rfl⟩

/-- **Which colours the surface takes**: those whose components, as far as they are looked at, are from 0 to 255 -/
theorem checkColour_cases (c : Rgb) :
    ((∃ n ∈ looked c, IsVast n) ∧ checkColour c = .error .quotientTooLarge) ∨
      ((∀ n ∈ looked c, ¬ IsVast n) ∧
        (((∀ n ∈ looked c, IsByte n) ∧ checkColour c = .ok ()) ∨
          ((∃ n ∈ looked c, ¬ IsByte n) ∧ ∃ x, checkColour c = .error (.colourRange x)))) := by
  rw [checkColour_eq]
  rcases mapM_ratio_cases (looked c) with ⟨hvast, hc⟩ | ⟨hvast, xs, hc, hxs⟩
  · exact .inl ⟨hvast, by rw [hc]; rfl⟩
  · refine .inr ⟨hvast, ?_⟩
    rw [hc]
    exact hxs

theorem checkColour_eq_ok (c : Rgb) : checkColour c = .ok () ↔ ∀ n ∈ looked c, IsByte n := by
  rcases checkColour_cases c with ⟨⟨n, hn, hvast⟩, hc⟩ | ⟨-, ⟨hbyte, hc⟩ | ⟨⟨n, hn, hno⟩, x, hc⟩⟩
  · rw [hc]
    refine iff_of_false nofun fun hall => ?_
    have hbyte := hall n hn
    have hlimit := bits_at_beyondAll.1
    unfold IsVast IsByte at *
    omega
  · rw [hc]
    exact iff_of_true rfl hbyte
  · rw [hc]
    exact iff_of_false nofun fun hall => hno (hall n hn)

/-- **A colour in range** is taken -/
theorem checkColour_of_inRange {c : Rgb} (h : c.InRange) : checkColour c = .ok () := by
  rw [checkColour_eq_ok, looked]
  by_cases hred : c = .black ∨ c.green = -1
  · rw [if_pos hred]
    simpa using h.1
  · rw [if_neg hred]
    simpa [InRange] using h

/-- a colour that is taken is in range, unless its green is -1 -/
theorem inRange_of_check {c : Rgb} (h : checkColour c = .ok ()) (hgreen : c.green ≠ -1) : c.InRange := by
  rw [checkColour_eq_ok, looked] at h
  by_cases hblack : c = .black
  · rw [hblack]
    exact inRange_black
  · rw [if_neg (not_or.2 ⟨hblack, hgreen⟩)] at h
    simpa [InRange] using h

theorem setTextColour_of_inRange {canvas : Canvas} {rgb : Rgb} (h : rgb.InRange) :
    canvas.setTextColour rgb = .ok (canvas.record (.textColour rgb)) := by
  rw [setTextColour, checkColour_of_inRange h]
  rfl

end Canvas

/-! ## What can be drawn with -/

/-- the default or a colour, with components from 0 to 255, that the surface takes for filling, drawing and writing -/
def DrawnWith (default : Option Rgb) (r : Except Failure (Option Rgb)) : Prop :=
  ∃ c, r = .ok c ∧ (c = default ∨ ∃ rgb, c = some rgb) ∧ ∀ rgb ∈ c, rgb.InRange ∧ ∀ canvas : Canvas,
    (canvas.setFillColour rgb).isOk = true ∧ (canvas.setDrawColour rgb).isOk = true ∧
      (canvas.setTextColour rgb).isOk = true

theorem Canvas.takes_of_inRange {rgb : Rgb} (h : rgb.InRange) (canvas : Canvas) :
    (canvas.setFillColour rgb).isOk = true ∧ (canvas.setDrawColour rgb).isOk = true ∧
      (canvas.setTextColour rgb).isOk = true := by
  unfold setFillColour setDrawColour setTextColour
  rw [checkColour_of_inRange h]
  exact ⟨rfl, rfl, rfl⟩

namespace DrawnWith

variable {default : Option Rgb}

theorem of_default (h : ∀ rgb ∈ default, rgb.InRange) : DrawnWith default (.ok default) :=
  ⟨default, rfl, .inl rfl, fun rgb hrgb => ⟨h rgb hrgb, Canvas.takes_of_inRange (h rgb hrgb)⟩⟩

theorem of_inRange {rgb : Rgb} (h : rgb.InRange) : DrawnWith default (.ok (some rgb)) := by
  refine ⟨some rgb, rfl, .inr ⟨rgb, rfl⟩, fun c hc => ?_⟩
  cases hc
  exact ⟨h, Canvas.takes_of_inRange h⟩

theorem not_error (f : Failure) : ¬ DrawnWith default (.error f) := by
  rintro ⟨c, hc, -⟩
  cases hc

theorem inRange {rgb : Rgb} (h : DrawnWith default (.ok (some rgb))) : rgb.InRange := by
  obtain ⟨c, hc, -, hall⟩ := h
  cases hc
  exact (hall rgb rfl).1

end DrawnWith

variable {default : Option Rgb}

/-- **A value that is read as a colour** can be drawn with unless it is a list that overflows or exceeds the range -/
theorem Rgb.read_drawnWith (v : Value) (hdefault : ∀ rgb ∈ default, rgb.InRange) :
    DrawnWith default (read v default) ↔ ¬ Overflows v ∧ ¬ Exceeds v := by
  rcases read_outcome v default with ⟨hread, hover, -⟩ | ⟨hover, c, hread, hspells⟩ | ⟨hover, hspells, c, hread, hc⟩
  · rw [hread]
    exact iff_of_false (DrawnWith.not_error _) fun h => h.1 hover
  · have hexceeds : Exceeds v ↔ ¬ c.InRange := by
      constructor
      · rintro ⟨d, hd, hno⟩
        rwa [hspells.unique hd]
      · exact fun hno => ⟨c, hspells, hno⟩
    rw [hread, hexceeds, not_not, and_iff_right hover]
    exact ⟨DrawnWith.inRange, DrawnWith.of_inRange⟩
  · rw [hread]
    refine iff_of_true ?_ ⟨hover, fun ⟨d, hd, _⟩ => hspells d hd⟩
    rcases hc with rfl | ⟨rgb, hrgb, hin⟩
    · exact .of_default hdefault
    · cases hrgb
      exact .of_inRange hin

namespace Job

variable (j : Job) (v : Value) (s : Spot)

/-- an empty entry is the default; any other is what it comes to, read as a colour -/
theorem colour_cases (default : Option Rgb) :
    (j.colour v s default = .ok default ∧
        ∃ w, Record.styleValue j.palette v s.scope s.index = .ok w ∧ ¬ Rgb.Overflows w ∧ ¬ Rgb.Exceeds w) ∨
      j.colour v s default = (Record.styleValue j.palette v s.scope s.index).bind (Rgb.read · default) := by
  have hother : ∀ w : Value, (∀ owner items, w ≠ .list owner items) → ¬ Rgb.Overflows w ∧ ¬ Rgb.Exceeds w := by
    intro w hw
    constructor
    · rintro ⟨owner, r, g, b, _, rfl, -⟩
      exact hw _ _ rfl
    · rintro ⟨c, ⟨owner, r, g, b, rfl, -⟩, -⟩
      exact hw _ _ rfl
  unfold colour
  split
  · exact .inl ⟨rfl, .null, rfl, hother _ nofun⟩
  · have hplain : Record.hasTokensIn (.string "") = false := Record.hasTokens_of_no_brace (by decide)
    exact .inl ⟨rfl, _, Record.styleValue_of_no_tokens hplain _, hother _ nofun⟩
  · exact .inr rfl

/-- a style entry comes to a colour that can be drawn with just if its tokens do not fail, and give no list that
overflows or exceeds the range -/
theorem colour_drawnWith_iff (hdefault : ∀ rgb ∈ default, rgb.InRange) :
    DrawnWith default (j.colour v s default) ↔
      ∃ w, Record.styleValue j.palette v s.scope s.index = .ok w ∧ ¬ Rgb.Overflows w ∧ ¬ Rgb.Exceeds w := by
  rcases j.colour_cases v s default with ⟨hcolour, hw⟩ | hcolour
  · rw [hcolour]
    exact iff_of_true (.of_default hdefault) hw
  · rw [hcolour]
    cases hw : Record.styleValue j.palette v s.scope s.index with
    | error f => exact iff_of_false (DrawnWith.not_error f) nofun
    | ok w =>
      have hread : (Except.ok w : Except Failure Value).bind (Rgb.read · default) = Rgb.read w default := rfl
      rw [hread, Rgb.read_drawnWith w hdefault]
      simp

/-- a style entry fails just if its tokens do, or if what it comes to overflows -/
theorem colour_error {f : Failure} :
    j.colour v s default = .error f ↔
      (Record.styleValue j.palette v s.scope s.index = .error f ∧ f.IsOfToken) ∨
        ∃ w, Record.styleValue j.palette v s.scope s.index = .ok w ∧ Rgb.Overflows w ∧ f = .infiniteInteger := by
  rcases j.colour_cases v s default with ⟨hcolour, w, hw, hno⟩ | hcolour
  · rw [hcolour, hw]
    refine iff_of_false nofun ?_
    rintro (⟨h, -⟩ | ⟨w', hw', hover, -⟩)
    · cases h
    · cases hw'
      exact hno.1 hover
  · rw [hcolour]
    cases hw : Record.styleValue j.palette v s.scope s.index with
    | error g =>
      have htoken := Record.styleValue_error hw
      constructor
      · intro h
        cases h
        exact .inl ⟨rfl, htoken⟩
      · rintro (⟨h, -⟩ | ⟨w, h, -⟩)
        · cases h
          rfl
        · cases h
    | ok w =>
      have hread : (Except.ok w : Except Failure Value).bind (Rgb.read · default) = Rgb.read w default := rfl
      rw [hread, Rgb.read_error]
      simp

/-- **Colours of style entries.** Read from a value, or from what an entry comes to, a colour is the default or has
components from 0 to 255, and the surface takes it, unless the value is a list that overflows or exceeds the range. An
entry fails just if its tokens do, or if what it comes to overflows -/
theorem colour_drawnWith (hdefault : ∀ rgb ∈ default, rgb.InRange) :
    (DrawnWith default (Rgb.read v default) ↔ ¬ Rgb.Overflows v ∧ ¬ Rgb.Exceeds v) ∧
      (DrawnWith default (j.colour v s default) ↔
        ∃ w, Record.styleValue j.palette v s.scope s.index = .ok w ∧ ¬ Rgb.Overflows w ∧ ¬ Rgb.Exceeds w) ∧
      ∀ f, j.colour v s default = .error f ↔
        (Record.styleValue j.palette v s.scope s.index = .error f ∧ f.IsOfToken) ∨
          ∃ w, Record.styleValue j.palette v s.scope s.index = .ok w ∧ Rgb.Overflows w ∧ f = .infiniteInteger :=
  ⟨Rgb.read_drawnWith v hdefault, j.colour_drawnWith_iff v s hdefault, fun _ => j.colour_error v s⟩

namespace Sample

/-- a job with a colour by name -/
def branded : Job :=
  { template := { id := "t", displayName := "T", config := {}, sections := [], styles := { colours := [("brand", "#336699")] } }
    settings := {}, assets := { fetchers := { web := fun _ => .silence } } }

def spot : Spot := ⟨⟨10.0, 20.0⟩, .object .record [], none⟩

end Sample

/-- a colour by name -/
theorem colour_drawnWith_sample :
    (∀ rgb ∈ some Rgb.black, rgb.InRange) ∧
      DrawnWith (some .black) (Sample.branded.colour (.string "brand") Sample.spot (some .black)) := by
  have hdefault : ∀ rgb ∈ some Rgb.black, rgb.InRange := by simp [Rgb.inRange_black]
  have hplain : Record.hasTokensIn (.string "brand") = false := Record.hasTokens_of_no_brace (by decide)
  refine ⟨hdefault, ?_⟩
  refine (Sample.branded.colour_drawnWith (.string "brand") Sample.spot hdefault).2.1.2
    ⟨_, Record.styleValue_of_no_tokens hplain _, ?_, ?_⟩
  · rintro ⟨owner, r, g, b, item, hlist, -⟩
    cases hlist
  · rintro ⟨c, ⟨owner, r, g, b, hlist, -⟩, -⟩
    cases hlist

/-- A list with an infinity in it is no colour, but reading it fails, whatever the default -/
theorem infinite_component_fails :
    Rgb.read (.list .record [.float (Numeral.infinity false), .int 0, .int 0]) (some .black) = .error .infiniteInteger ∧
      Rgb.read (.list .record [.int 0, .string "a", .float (Numeral.infinity false)]) (some .black) = .ok (some .black) := by
  have hread : Binary64.read (Numeral.infinity false) = .infinite false := by decide +kernel
  have hfirst : Rgb.isTaken (.float (Numeral.infinity false)) = false := by decide +kernel
  refine ⟨Rgb.read_error.2 ⟨⟨.record, _, _, _, .float (Numeral.infinity false), rfl, ?_, _, _, rfl, hread⟩, rfl⟩, rfl⟩
  simp [hfirst]

/-- A list with a component above 255 is read as it stands, and the surface does not take it -/
theorem component_not_checked :
    Rgb.read (.list .record [.int 300, .int 0, .int 0]) (some .black) = .ok (some ⟨300, 0, 0⟩) ∧
      Canvas.checkColour ⟨300, 0, 0⟩ ≠ .ok () := by
  refine ⟨rfl, fun h => ?_⟩
  exact absurd (Canvas.inRange_of_check h (by decide)) (by decide)

end Job

end ReportPress
