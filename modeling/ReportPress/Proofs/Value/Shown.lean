import ReportPress.Proofs.Number.Written
import ReportPress.Proofs.Text.Quoted
import ReportPress.Proofs.Value.Equality
import ReportPress.Proofs.Value.Text
/-!
Values told by their texts. Words and numbers consist of plain characters, and what follows them in a container is none;
a quoted text, a list and an object each tell where they end. So of two texts that start with values, the values are
equal if the texts are, and a value that is no text itself is loosely equal to another just if it is equal to it.

- `Form`: what a written value looks like at its start. `head_shown`: that is told by its first character.
- `shown_inj_of_word`: words and numbers with the same text are equal.
- `sequence_inj`: texts between commas, up to the end of a container, are told one by one.
- `Tells`, `told`: a value is told from others by what is written for it, whatever follows.
- `looseEq_eq`: loose equality of values that are no texts.
-/

namespace ReportPress.Value

/-! ## Forms -/

/-- what a written value looks like at its start -/
inductive Form where
  | word
  | quoted
  | list
  | object
deriving DecidableEq

def form : Value → Form
  | .string _ => .quoted
  | .list _ _ => .list
  | .object _ _ => .object
  | _ => .word

def charForm (c : Char) : Option Form :=
  if isPlainChar c then some .word
  else if c = '\'' ∨ c = '"' then some .quoted
  else if c = '[' then some .list
  else if c = '\x7b' then some .object
  else none

/-- nothing follows, or a character that ends a word -/
def IsEnd (rest : List Char) : Prop := ∀ c ∈ rest.head?, isPlainChar c = false

theorem isEnd_nil : IsEnd [] := fun c hc => absurd hc (Option.not_mem_none c)

theorem isEnd_cons {c : Char} (hc : isPlainChar c = false) (rest : List Char) : IsEnd (c :: rest) := by
  intro c' hc'
  rw [← Option.some.inj hc']
  exact hc

theorem isPlain_shown {v : Value} (h : v.form = .word) : ∀ c ∈ v.shown.toList, isPlainChar c = true := by
  cases v with
  | null => exact List.all_eq_true.1 (by decide)
  | bool b => cases b <;> exact List.all_eq_true.1 (by decide)
  | int n => exact isPlain_intText n
  | float x => exact isPlain_floatText x
  | _ => cases h

theorem shown_ne_nil {v : Value} (h : v.form = .word) : v.shown.toList ≠ [] := by
  refine String.toList_eq_nil_iff.not.2 ?_
  cases v with
  | null => decide
  | bool b => cases b <;> decide
  | int n => exact intText_ne_empty n
  | float x => exact floatText_ne_empty x
  | _ => cases h

theorem toList_quoted (s : String) : (Text.quoted s).toList = Text.quotedChars s.toList := String.toList_ofList

/-- texts with commas between them -/
def sequence (texts : List (List Char)) : List Char := [',', ' '].intercalate texts

theorem toList_shown_list (items : List Value) :
    (shown (.list .record items)).toList = '[' :: (sequence (items.map fun v => v.shown.toList) ++ [']']) := by
  have hall : shownAll items = items.map shown := by
    induction items with
    | nil => rfl
    | cons v rest ih => rw [shownAll, ih, List.map_cons]
  have hlist : shown (.list .record items) = "[" ++ ", ".intercalate (items.map shown) ++ "]" := by
    rw [shown, hall]
    rfl
  rw [hlist, String.toList_append, String.toList_append, String.toList_intercalate, List.map_map]
  rfl

/-- a field as it is written -/
def fieldText (f : String × Value) : List Char := Text.quotedChars f.1.toList ++ ':' :: ' ' :: f.2.shown.toList

theorem toList_shown_object (fields : Fields) :
    (shown (.object .record fields)).toList = '\x7b' :: (sequence (fields.map fieldText) ++ ['\x7d']) := by
  have hall : (shownFields fields).map String.toList = fields.map fieldText := by
    induction fields with
    | nil => rfl
    | cons f rest ih =>
      obtain ⟨k, v⟩ := f
      rw [shownFields, List.map_cons, ih, List.map_cons, String.toList_append, String.toList_append, toList_quoted]
      simp [fieldText]
  have hobject : shown (.object .record fields) = "\x7b" ++ ", ".intercalate (shownFields fields) ++ "\x7d" := by
    rw [shown]
    rfl
  rw [hobject, String.toList_append, String.toList_append, String.toList_intercalate, hall]
  rfl

/-- **The first character** of a value tells its form -/
theorem head_shown {v : Value} (h : v.OfRecord) : ∃ c rest, v.shown.toList = c :: rest ∧ charForm c = some v.form := by
  have hword : v.form = .word → ∃ c rest, v.shown.toList = c :: rest ∧ charForm c = some v.form := by
    intro hform
    obtain ⟨c, rest, hcons⟩ := List.exists_cons_of_ne_nil (shown_ne_nil hform)
    have hplain := isPlain_shown hform c (hcons ▸ List.mem_cons_self)
    exact ⟨c, rest, hcons, by rw [charForm, if_pos hplain, hform]⟩
  cases h with
  | string s =>
    refine ⟨_, _, toList_quoted s, ?_⟩
    rcases Text.isQuote_quoteFor s.toList with hq | hq <;> rw [hq] <;> rfl
  | list hitems => exact ⟨'[', _, toList_shown_list _, rfl⟩
  | object hkeys hfields => exact ⟨'\x7b', _, toList_shown_object _, rfl⟩
  | _ => exact hword rfl

/-! ## Words and numbers -/

/-- the first characters of the words that are no numbers -/
def capitals : List Char := ['N', 'T', 'F']

theorem head_signed {negative : Bool} {body : List Char} (h : ∀ c ∈ body.head?, c ∉ capitals) :
    ∀ c ∈ (signed negative body).head?, c ∉ capitals := by
  cases negative with
  | true =>
    intro c hc
    rw [← Option.some.inj hc]
    decide
  | false => exact h

theorem not_capital_of_isDigit {c : Char} (h : c.isDigit = true) : c ∉ capitals := by
  intro hmem
  simp only [capitals, List.mem_cons, List.not_mem_nil, or_false] at hmem
  rcases hmem with rfl | rfl | rfl <;> exact absurd h (by decide)

theorem head_number {v : Value} {a : Worth} (h : v.number? = some a) :
    ∀ c ∈ v.shown.toList.head?, c ∉ capitals := by
  cases v with
  | int n =>
    show ∀ c ∈ (Numeral.intText n).toList.head?, c ∉ capitals
    rw [toList_intText]
    exact head_signed fun c hc => not_capital_of_isDigit (isDigits_toDigits _ c (List.mem_of_head? hc))
  | float x =>
    show ∀ c ∈ (floatText x).toList.head?, c ∉ capitals
    rw [toList_floatText]
    refine head_signed ?_
    cases Binary64.read x with
    | nan =>
      intro c hc
      rw [← Option.some.inj hc]
      decide
    | infinite negative =>
      intro c hc
      rw [← Option.some.inj hc]
      decide
    | finite b =>
      obtain ⟨c, rest, hbody, hdigit⟩ := bodyOf_finite b
      rw [hbody]
      intro c' hc'
      rw [← Option.some.inj hc']
      exact not_capital_of_isDigit hdigit
  | _ => cases h

/-- a word that is no number is written as no number is -/
theorem shown_ne_number {v w : Value} {a : Worth} (hv : ∃ c ∈ capitals, c ∈ v.shown.toList.head?)
    (hw : w.number? = some a) : v.shown ≠ w.shown := by
  obtain ⟨c, hc, hhead⟩ := hv
  intro h
  rw [h] at hhead
  exact head_number hw c hhead hc

/-- **Words and numbers** with the same text are equal -/
theorem shown_inj_of_word {v w : Value} (hv : v.OfRecord) (hvw : v.form = .word) (hww : w.form = .word)
    (h : v.shown = w.shown) : strictEq v w = true := by
  have hnull : ∃ c ∈ capitals, c ∈ null.shown.toList.head? := ⟨'N', by decide, rfl⟩
  have hbool : ∀ b, ∃ c ∈ capitals, c ∈ (bool b).shown.toList.head? := by
    intro b
    cases b
    · exact ⟨'F', by decide, rfl⟩
    · exact ⟨'T', by decide, rfl⟩
  cases v with
  | null =>
    cases w with
    | null => rfl
    | bool c => exact absurd h (by cases c <;> decide)
    | int n => exact absurd h (shown_ne_number hnull rfl)
    | float y => exact absurd h (shown_ne_number hnull rfl)
    | _ => cases hww
  | bool b =>
    cases w with
    | null => exact absurd h (by cases b <;> decide)
    | bool c => cases b <;> cases c <;> first | rfl | exact absurd h (by decide)
    | int n => exact absurd h (shown_ne_number (hbool b) rfl)
    | float y => exact absurd h (shown_ne_number (hbool b) rfl)
    | _ => cases hww
  | int m =>
    cases w with
    | null => exact absurd h.symm (shown_ne_number hnull rfl)
    | bool c => exact absurd h.symm (shown_ne_number (hbool c) rfl)
    | int n =>
      rw [intText_inj h]
      exact strictEq_self (.int n)
    | float y => exact absurd h.symm (floatText_ne_intText y m)
    | _ => cases hww
  | float x =>
    cases w with
    | null => exact absurd h.symm (shown_ne_number hnull rfl)
    | bool c => exact absurd h.symm (shown_ne_number (hbool c) rfl)
    | int n => exact absurd h (floatText_ne_intText x n)
    | float y =>
      show (Worth.ofFloat x).equal (Worth.ofFloat y) = true
      rw [← ofFloat_of_floatText h]
      exact strictEq_self hv
    | _ => cases hww
  | _ => cases hvw

/-! ## Containers -/

/-- how a text tells a value: whatever follows, what is written for another value is told from it -/
def Tells {α : Type} (text : α → List Char) (R : α → α → Prop) (x y : α) : Prop :=
  ∀ ⦃rest more : List Char⦄, IsEnd rest → IsEnd more → text x ++ rest = text y ++ more → R x y ∧ rest = more

/-- a value is told from another by what is written for it, unless the two are equal -/
abbrev Told (v w : Value) : Prop := Tells (fun v => v.shown.toList) (fun v w => strictEq v w = true) v w

section Sequences

variable {α : Type} {text : α → List Char} {R : α → α → Prop} {close : Char} {rest more : List Char}

/-- what follows the first of several texts with commas between them, up to the end of the container -/
def following (text : α → List Char) (close : Char) (rest : List Char) : List α → List Char
  | [] => close :: rest
  | x :: xs => ',' :: ' ' :: (text x ++ following text close rest xs)

theorem sequence_cons (x : α) (xs : List α) :
    sequence ((x :: xs).map text) ++ close :: rest = text x ++ following text close rest xs := by
  induction xs generalizing x with
  | nil => simp [sequence, following]
  | cons y ys ih =>
    have hsplit : sequence ((x :: y :: ys).map text) = text x ++ ',' :: ' ' :: sequence ((y :: ys).map text) := by
      simp [sequence, List.intercalate]
    rw [hsplit, following, ← ih, List.append_assoc]
    rfl

theorem isEnd_following (hclose : isPlainChar close = false) (xs : List α) :
    IsEnd (following text close rest xs) := by
  cases xs with
  | nil => exact isEnd_cons hclose rest
  | cons x xs => exact isEnd_cons (by decide) _

theorem following_inj (hclose : isPlainChar close = false) (hcomma : close ≠ ',') {xs ys : List α}
    (hitem : ∀ x ∈ xs, ∀ y ∈ ys, Tells text R x y)
    (h : following text close rest xs = following text close more ys) : List.Forall₂ R xs ys ∧ rest = more := by
  induction xs generalizing ys with
  | nil =>
    cases ys with
    | nil => exact ⟨.nil, (List.cons.inj h).2⟩
    | cons y ys => exact absurd (List.cons.inj h).1 hcomma
  | cons x xs ih =>
    cases ys with
    | nil => exact absurd (List.cons.inj h).1.symm hcomma
    | cons y ys =>
      have htexts := (List.cons.inj (List.cons.inj h).2).2
      obtain ⟨hxy, htail⟩ := hitem x List.mem_cons_self y List.mem_cons_self (isEnd_following hclose xs)
        (isEnd_following hclose ys) htexts
      obtain ⟨hall, hrest⟩ := ih (fun x' hx' y' hy' => hitem x' (List.mem_cons_of_mem x hx') y'
        (List.mem_cons_of_mem y hy')) htail
      exact ⟨.cons hxy hall, hrest⟩

/-- **Texts between commas**, up to the end of a container, are told one by one -/
theorem sequence_inj (hclose : isPlainChar close = false) (hcomma : close ≠ ',') {xs ys : List α}
    (hitem : ∀ x ∈ xs, ∀ y ∈ ys, Tells text R x y)
    (hxs : ∀ x ∈ xs, ∃ c cs, text x = c :: cs ∧ c ≠ close) (hys : ∀ y ∈ ys, ∃ c cs, text y = c :: cs ∧ c ≠ close)
    (h : sequence (xs.map text) ++ close :: rest = sequence (ys.map text) ++ close :: more) :
    List.Forall₂ R xs ys ∧ rest = more := by
  cases xs with
  | nil =>
    cases ys with
    | nil => exact ⟨.nil, (List.cons.inj h).2⟩
    | cons y ys =>
      obtain ⟨c, cs, htext, hne⟩ := hys y List.mem_cons_self
      rw [sequence_cons, htext] at h
      exact absurd (List.cons.inj h).1.symm hne
  | cons x xs =>
    cases ys with
    | nil =>
      obtain ⟨c, cs, htext, hne⟩ := hxs x List.mem_cons_self
      rw [sequence_cons, htext] at h
      exact absurd (List.cons.inj h).1 hne
    | cons y ys =>
      rw [sequence_cons, sequence_cons] at h
      obtain ⟨hxy, htail⟩ := hitem x List.mem_cons_self y List.mem_cons_self (isEnd_following hclose xs)
        (isEnd_following hclose ys) h
      obtain ⟨hall, hrest⟩ := following_inj hclose hcomma (fun x' hx' y' hy' =>
        hitem x' (List.mem_cons_of_mem x hx') y' (List.mem_cons_of_mem y hy')) htail
      exact ⟨.cons hxy hall, hrest⟩

end Sequences

/-- a word ends where its plain characters do -/
theorem told_of_word {v w : Value} (hv : v.OfRecord) (hvw : v.form = .word) (hww : w.form = .word) : Told v w := by
  intro rest more hrest hmore h
  have hcut : ∀ {x : Value} {tail : List Char}, x.form = .word → IsEnd tail →
      (x.shown.toList ++ tail).takeWhile isPlainChar = x.shown.toList ∧
        (x.shown.toList ++ tail).dropWhile isPlainChar = tail := by
    intro x tail hx htail
    rw [List.takeWhile_append_of_pos (isPlain_shown hx), List.dropWhile_append_of_pos (isPlain_shown hx)]
    cases tail with
    | nil => exact ⟨List.append_nil _, rfl⟩
    | cons c cs =>
      have hc := htail c rfl
      simp [hc]
  obtain ⟨htext, htail⟩ := hcut hvw hrest
  rw [h, (hcut hww hmore).1] at htext
  rw [h, (hcut hww hmore).2] at htail
  exact ⟨shown_inj_of_word hv hvw hww (String.toList_inj.1 htext.symm), htail.symm⟩

theorem told_of_string (s t : String) : Told (.string s) (.string t) := by
  intro rest more hrest hmore h
  change (Text.quoted s).toList ++ rest = (Text.quoted t).toList ++ more at h
  rw [toList_quoted, toList_quoted] at h
  obtain ⟨hst, htail⟩ := Text.quotedChars_append_inj h
  rw [String.toList_inj.1 hst]
  exact ⟨strictEq_self (.string t), htail⟩

/-- what starts a value ends no container -/
theorem head_ne_close {v : Value} (hv : v.OfRecord) {close : Char} (hclose : charForm close = none) :
    ∃ c cs, v.shown.toList = c :: cs ∧ c ≠ close := by
  obtain ⟨c, cs, htext, hform⟩ := head_shown hv
  refine ⟨c, cs, htext, ?_⟩
  rintro rfl
  rw [hclose] at hform
  cases hform

theorem same_of_strictEq {v w : Value} (hv : v.OfRecord) (h : strictEq v w = true) : same v w = true := by
  rw [strictEq_eq hv, Bool.and_eq_true] at h
  exact h.1

theorem strictEq_list {xs ys : List Value} (hxs : ∀ x ∈ xs, x.OfRecord)
    (h : List.Forall₂ (fun x y => strictEq x y = true) xs ys) :
    strictEq (.list .record xs) (.list .record ys) = true := by
  have hsame := ((List.forall₂_and_left _ _).2 ⟨hxs, h⟩).imp fun x y hxy => same_of_strictEq hxy.1 hxy.2
  rw [strictEq_eq (.list hxs), same_iff.2 (.list _ hsame)]
  rfl

/-- the fields of two objects agree, one by one -/
def FieldsAgree (f g : String × Value) : Prop := f.1 = g.1 ∧ strictEq f.2 g.2 = true

theorem exists_of_forall₂ {α β : Type} {R : α → β → Prop} {xs : List α} {ys : List β} (h : List.Forall₂ R xs ys) :
    ∀ x ∈ xs, ∃ y ∈ ys, R x y := by
  induction h with
  | nil => exact nofun
  | cons hxy hall ih =>
    refine List.forall_mem_cons.2 ⟨⟨_, List.mem_cons_self, hxy⟩, fun x hx => ?_⟩
    obtain ⟨y, hy, hxy⟩ := ih x hx
    exact ⟨y, List.mem_cons_of_mem _ hy, hxy⟩

theorem strictEq_object {fs gs : Fields} (hfs : (Value.object .record fs).OfRecord)
    (hgs : (gs.map Prod.fst).Nodup) (h : List.Forall₂ FieldsAgree fs gs) :
    strictEq (.object .record fs) (.object .record gs) = true := by
  rw [strictEq_eq hfs, same_iff.2 (.object _ h.length_eq ?_)]
  · rfl
  · intro f hf
    cases hfs with
    | object hkeys hfields =>
      obtain ⟨g, hg, hkey, hvalue⟩ := exists_of_forall₂ h f hf
      refine ⟨g.2, ?_, same_of_strictEq (hfields f hf) hvalue⟩
      rw [hkey]
      exact Fields.get?_of_mem hgs hg

theorem tells_fieldText {f g : String × Value} (h : Told f.2 g.2) : Tells fieldText FieldsAgree f g := by
  intro rest more hrest hmore htext
  unfold fieldText at htext
  rw [List.append_assoc, List.append_assoc] at htext
  obtain ⟨hkey, hvalues⟩ := Text.quotedChars_append_inj htext
  obtain ⟨hequal, htail⟩ := h hrest hmore (List.cons.inj (List.cons.inj hvalues).2).2
  exact ⟨⟨String.toList_inj.1 hkey, hequal⟩, htail⟩

theorem head_fieldText (f : String × Value) {close : Char} (hclose : charForm close = none) :
    ∃ c cs, fieldText f = c :: cs ∧ c ≠ close := by
  refine ⟨_, _, rfl, ?_⟩
  rintro rfl
  rcases Text.isQuote_quoteFor f.1.toList with hq | hq <;> rw [hq] at hclose <;> cases hclose

/-- values that are written alike at the start have the same form -/
theorem form_eq {v w : Value} (hv : v.OfRecord) (hw : w.OfRecord) {rest more : List Char}
    (h : v.shown.toList ++ rest = w.shown.toList ++ more) : w.form = v.form := by
  obtain ⟨c, cs, hvtext, hvform⟩ := head_shown hv
  obtain ⟨d, ds, hwtext, hwform⟩ := head_shown hw
  rw [hvtext, hwtext] at h
  rw [(List.cons.inj h).1, hwform] at hvform
  exact Option.some.inj hvform

/-- **A value of a record** is told by what is written for it, whatever follows -/
theorem told {v : Value} (hv : v.OfRecord) : ∀ {w : Value}, w.OfRecord → Told v w := by
  induction hv with
  | string s =>
    intro w hw rest more hrest hmore h
    have hform := form_eq (.string s) hw h
    cases hw with
    | string t => exact told_of_string s t hrest hmore h
    | _ => cases hform
  | @list xs hitems ih =>
    intro w hw rest more hrest hmore h
    have hform := form_eq (.list hitems) hw h
    cases hw with
    | @list ys hothers =>
      change (shown (.list .record xs)).toList ++ rest = (shown (.list .record ys)).toList ++ more at h
      rw [toList_shown_list, toList_shown_list, List.cons_append, List.cons_append, List.append_assoc,
        List.append_assoc] at h
      obtain ⟨hall, htail⟩ := sequence_inj (by decide) (by decide) (fun x hx y hy => ih x hx (hothers y hy))
        (fun x hx => head_ne_close (hitems x hx) (by decide)) (fun y hy => head_ne_close (hothers y hy) (by decide))
        (List.cons.inj h).2
      exact ⟨strictEq_list hitems hall, htail⟩
    | _ => cases hform
  | @object fs hkeys hfields ih =>
    intro w hw rest more hrest hmore h
    have hform := form_eq (.object hkeys hfields) hw h
    cases hw with
    | @object gs hothers hvalues =>
      change (shown (.object .record fs)).toList ++ rest = (shown (.object .record gs)).toList ++ more at h
      rw [toList_shown_object, toList_shown_object, List.cons_append, List.cons_append, List.append_assoc,
        List.append_assoc] at h
      obtain ⟨hall, htail⟩ := sequence_inj (by decide) (by decide)
        (fun f hf g hg => tells_fieldText (ih f hf (hvalues g hg)))
        (fun f _ => head_fieldText f (by decide)) (fun g _ => head_fieldText g (by decide))
        (List.cons.inj h).2
      exact ⟨strictEq_object (.object hkeys hfields) hothers hall, htail⟩
    | _ => cases hform
  | null =>
    intro w hw rest more hrest hmore h
    exact told_of_word .null rfl (form_eq .null hw h) hrest hmore h
  | bool b =>
    intro w hw rest more hrest hmore h
    exact told_of_word (.bool b) rfl (form_eq (.bool b) hw h) hrest hmore h
  | int n =>
    intro w hw rest more hrest hmore h
    exact told_of_word (.int n) rfl (form_eq (.int n) hw h) hrest hmore h
  | float hnum =>
    intro w hw rest more hrest hmore h
    exact told_of_word (.float hnum) rfl (form_eq (.float hnum) hw h) hrest hmore h

/-! ## Loose equality -/

def isText : Value → Bool
  | .string _ => true
  | _ => false

theorem bare_eq_shown {v : Value} (hv : v.OfRecord) (h : v.isText = false) : v.bare = v.shown := by
  cases hv with
  | string s => cases h
  | _ => rfl

/-- **Loose equality** of values that are no texts is equality -/
theorem looseEq_eq {v w : Value} (hv : v.OfRecord) (hw : w.OfRecord) (hvt : v.isText = false) (hwt : w.isText = false) :
    looseEq v w = strictEq v w := by
  refine Bool.eq_iff_iff.2 ⟨fun h => ?_, looseEq_of_strictEq⟩
  rw [looseEq, Bool.or_eq_true, Bool.and_eq_true, beq_iff_eq] at h
  rcases h with h | ⟨-, h⟩
  · exact h
  · rw [bare_eq_shown hv hvt, bare_eq_shown hw hwt] at h
    exact (told hv hw isEnd_nil isEnd_nil (congrArg (fun s : String => s.toList ++ []) h)).1

theorem isText_of_amount {v : Value} {p : Amount} (h : v.amount? = some p) : v.isText = false := by
  cases v with
  | string s => cases h
  | _ => rfl

theorem Reordered.isText_eq {v w : Value} (h : Reordered v w) : v.isText = w.isText := by
  induction h with
  | trans huv hvw ihuv ihvw => exact ihuv.trans ihvw
  | _ => rfl

/-! ## Equality of values of records -/

/-- **Equality** of values of records is reflexive, symmetric and transitive; **loose equality** is reflexive, symmetric
and holds of values that are equal. Both compare numbers by their exact values. Neither looks at the order of keys: an
object is equal to another by what is found under each key, and reordered values are equal, and equal to the same
values; loosely equal to the same values, too, texts aside. -/
theorem equality_laws {u v w : Value} (hu : u.OfRecord) (hv : v.OfRecord) (hw : w.OfRecord) :
    (strictEq v v = true ∧ (strictEq v w = true → strictEq w v = true) ∧
      (strictEq u v = true → strictEq v w = true → strictEq u w = true)) ∧
    (looseEq v v = true ∧ (looseEq v w = true → looseEq w v = true) ∧
      (strictEq v w = true → looseEq v w = true)) ∧
    (∀ p q, v.amount? = some p → w.amount? = some q →
      (strictEq v w = true ↔ p = q) ∧ (looseEq v w = true ↔ p = q)) ∧
    (∀ fs gs, v = .object .record fs → w = .object .record gs →
      (strictEq v w = true ↔ ∀ k, AgreeOn fs gs k)) ∧
    (Reordered v w → strictEq v w = true ∧ strictEq u v = strictEq u w ∧
      (u.isText = false → v.isText = false → looseEq u v = looseEq u w)) := by
  refine ⟨⟨strictEq_self hv, fun h => strictEq_comm hv hw ▸ h, strictEq_trans hu hv⟩,
    ⟨looseEq_of_strictEq (strictEq_self hv), fun h => looseEq_comm hv hw ▸ h, looseEq_of_strictEq⟩, ?_, ?_, ?_⟩
  · intro p q hp hq
    rw [looseEq_eq hv hw (isText_of_amount hp) (isText_of_amount hq)]
    exact ⟨strictEq_iff_amount hp hq, strictEq_iff_amount hp hq⟩
  · rintro fs gs rfl rfl
    exact strictEq_object_iff hv hw
  · intro h
    have hequal := h.strictEq hv
    have hcongr := strictEq_congr hu hv hw hequal
    refine ⟨hequal, hcongr, fun hut hvt => ?_⟩
    rw [looseEq_eq hu hv hut hvt, looseEq_eq hu hw hut (h.isText_eq ▸ hvt), hcongr]

namespace Sample

/-- an object, and the same with its keys the other way round -/
def ranked : Value := .object .record [("rank", .int 2), ("tags", .list .record [.string "north"])]

def swapped : Value := .object .record [("tags", .list .record [.string "north"]), ("rank", .int 2)]

theorem ofRecord_ranked : ranked.OfRecord := by
  refine .object (by decide) (List.forall_mem_cons.2 ⟨.int 2, List.forall_mem_singleton.2 (.list ?_)⟩)
  exact List.forall_mem_singleton.2 (.string "north")

theorem ofRecord_swapped : swapped.OfRecord := by
  refine .object (by decide) (List.forall_mem_cons.2 ⟨.list ?_, List.forall_mem_singleton.2 (.int 2)⟩)
  exact List.forall_mem_singleton.2 (.string "north")

theorem reordered : Reordered ranked swapped := .keys .record (List.Perm.swap _ _ [])

theorem read_two : Binary64.read 2.0 = .finite ⟨false, 2 ^ 52, 1023⟩ := by decide +kernel

end Sample

/-- an integer and a double of the same value, and an object with its keys the other way round -/
theorem equality_laws_sample :
    (Value.int 2).amount? = (Value.float 2.0).amount? ∧ looseEq (.float 2.0) (.int 2) = true ∧
      strictEq Sample.ranked Sample.swapped = true ∧ looseEq Sample.swapped Sample.ranked = true := by
  have htwo : (Value.float 2.0).OfRecord := .float (by rw [Sample.read_two]; nofun)
  obtain ⟨-, ⟨-, hback, hloose⟩, hnumbers, -, -⟩ := equality_laws (.int 2) (.int 2) htwo
  obtain ⟨-, ⟨-, hback', hloose'⟩, -, -, hobjects⟩ :=
    equality_laws Sample.ofRecord_ranked Sample.ofRecord_ranked Sample.ofRecord_swapped
  have hequal : strictEq (.int 2) (.float 2.0) = true := by decide +kernel
  have hvalue : (Value.float 2.0).amount? = some (.fraction (Binary64.units ⟨false, 2 ^ 52, 1023⟩ /
      Binary64.unitsPerOne)) := by
    rw [amount?, Sample.read_two]
  refine ⟨?_, hback (hloose hequal), (hobjects Sample.reordered).1, hback' (hloose' (hobjects Sample.reordered).1)⟩
  rw [hvalue, ← ((hnumbers _ _ rfl hvalue).1.1 hequal)]
  rfl

end ReportPress.Value
