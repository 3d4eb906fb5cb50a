import Mathlib.Data.List.Infix
import ReportPress.Proofs.Text.Wrap
/-!
Texts cut to fit, by any measure. What is tried is the whole text with three dots behind it, then its beginnings, the
longest first; so what is shown is the first of them that fits, and they are tried whether or not a longer text is wider
than a shorter one. Three dots alone are never shown.

- `Shortening`: a beginning that fits with three dots behind it. `shortening_concat`: if the whole text does not fit so,
  the last character does not matter.
- `Fitting`: what is to be shown of a text. `Fitting.fits`: it fits, if an empty text does.
- `trimToFit_longest`: by induction on what is cut away. `fit_fitting`: any text.
- `fit_not_above`: with nothing known of the comparisons but that a text that fits is not too wide.
-/

namespace ReportPress.Text

variable {α : Type} [Length α] (width : List Char → α) (limit : α)

/-! ## Beginnings that fit -/

/-- a beginning of the text, not empty, that fits with three dots behind it -/
structure Shortening (text kept : List Char) : Prop where
  start : kept <+: text
  ne : kept ≠ []
  fits : Length.atMost (width (kept ++ ellipsis)) limit = true

/-- what is to be shown of a text: the text itself if it fits, else its longest shortening, else nothing -/
inductive Fitting (text : List Char) : List Char → Prop
  | whole (hfits : Length.atMost (width text) limit = true) : Fitting text text
  | shortened {kept : List Char} (hwide : Length.atMost (width text) limit = false)
      (hkept : Shortening width limit text kept)
      (hlongest : ∀ other, Shortening width limit text other → other <+: kept) : Fitting text (kept ++ ellipsis)
  | nothing (hwide : Length.atMost (width text) limit = false) (hnone : ∀ kept, ¬ Shortening width limit text kept) :
      Fitting text []

variable {width limit}

/-- what is shown fits, if an empty text does -/
theorem Fitting.fits {text shown : List Char} (h : Fitting width limit text shown)
    (hempty : Length.atMost (width []) limit = true) : Length.atMost (width shown) limit = true := by
  cases h with
  | whole hfits => exact hfits
  | shortened _ hkept _ => exact hkept.fits
  | nothing => exact hempty

theorem not_shortening_nil (kept : List Char) : ¬ Shortening width limit [] kept := fun h =>
  h.ne (List.prefix_nil.1 h.start)

/-- if a text does not fit with three dots behind it, it has the shortenings that it has without its last character -/
theorem shortening_concat {text : List Char} {c : Char} (kept : List Char)
    (hwide : Length.atMost (width (text ++ [c] ++ ellipsis)) limit = false) :
    Shortening width limit (text ++ [c]) kept ↔ Shortening width limit text kept := by
  constructor
  · intro h
    rcases List.prefix_concat_iff.1 h.start with rfl | hstart
    · exact absurd (hwide.symm.trans h.fits) Bool.false_ne_true
    · exact ⟨hstart, h.ne, h.fits⟩
  · exact fun h => ⟨h.start.trans (List.prefix_append text [c]), h.ne, h.fits⟩

/-! ## Cutting -/

variable (width limit)

theorem trimToFit_cons (c : Char) (rest : List Char) :
    trimToFit (m := Id) width limit (c :: rest) =
      if Length.below limit (width ((c :: rest).reverse ++ ellipsis)) then trimToFit (m := Id) width limit rest
      else (c :: rest).reverse ++ ellipsis := rfl

theorem fit_eq (text : List Char) :
    fit (m := Id) width limit text =
      if Length.atMost (width text) limit then text else trimToFit (m := Id) width limit text.reverse := rfl

variable {width limit}

/-- **What is left** of a text that is cut from its end is its longest shortening, or nothing if it has none -/
theorem trimToFit_longest (hcompare : Comparable width limit) (reversed : List Char) :
    (∃ kept, Shortening width limit reversed.reverse kept ∧
        (∀ other, Shortening width limit reversed.reverse other → other <+: kept) ∧
        trimToFit (m := Id) width limit reversed = kept ++ ellipsis) ∨
      (∀ kept, ¬ Shortening width limit reversed.reverse kept) ∧ trimToFit (m := Id) width limit reversed = [] := by
  induction reversed with
  | nil => exact .inr ⟨not_shortening_nil, rfl⟩
  | cons c rest ih =>
    rw [trimToFit_cons]
    split
    · next hbelow =>
      have hwide : Length.atMost (width (rest.reverse ++ [c] ++ ellipsis)) limit = false := by
        rw [← List.reverse_cons, hcompare, hbelow, Bool.not_true]
      simp only [List.reverse_cons, shortening_concat _ hwide]
      exact ih
    · next hbelow =>
      have hfits : Length.atMost (width ((c :: rest).reverse ++ ellipsis)) limit = true := by
        rw [hcompare, Bool.eq_false_iff.2 hbelow, Bool.not_false]
      have hne : (c :: rest).reverse ≠ [] := by simp
      exact .inl ⟨_, ⟨List.prefix_rfl, hne, hfits⟩, fun other hother => hother.start, rfl⟩

/-- **Cutting to fit** shows what is to be shown, for any text -/
theorem fit_fitting (hcompare : Comparable width limit) (text : List Char) :
    Fitting width limit text (Id.run (fit width limit text)) := by
  show Fitting width limit text (fit (m := Id) width limit text)
  rw [fit_eq]
  split
  · next hfits => exact .whole hfits
  · next hfits =>
    have hwide := Bool.eq_false_iff.2 hfits
    have hcut := trimToFit_longest hcompare text.reverse
    rw [List.reverse_reverse] at hcut
    rcases hcut with ⟨kept, hkept, hlongest, hshown⟩ | ⟨hnone, hshown⟩
    · rw [hshown]
      exact .shortened hwide hkept hlongest
    · rw [hshown]
      exact .nothing hwide hnone

/-- what is shown is not too wide, if a text that fits is not and an empty one is not either -/
theorem fit_not_above (hsound : ∀ t, Length.atMost (width t) limit = true → Length.below limit (width t) = false)
    (hempty : Length.below limit (width []) = false) (text : List Char) :
    Length.below limit (width (Id.run (fit width limit text))) = false := by
  have htrim : ∀ reversed, Length.below limit (width (Id.run (trimToFit width limit reversed))) = false := by
    intro reversed
    induction reversed with
    | nil => exact hempty
    | cons c rest ih =>
      rw [trimToFit_cons]
      split
      · exact ih
      · next hbelow => exact Bool.eq_false_iff.2 hbelow
  rw [fit_eq]
  split
  · next hfits => exact hsound text hfits
  · exact htrim text.reverse

end ReportPress.Text
