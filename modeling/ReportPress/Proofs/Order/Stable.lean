import Mathlib.Data.List.Chain
import Mathlib.Data.List.Perm.Basic
import ReportPress.Order.Stable
/-!
What sorting does. On items among which "comes before" is a strict weak order, sorting moves the items so that none
comes before one ahead of it, and keeps tied items in the order in which they stood.

- `exists_insert`: halving finds the place behind all items that the new one does not come before.
- `Sorted.insert`: inserting the next item keeps what is sorted sorted.
- `sort_sorted`: the whole list is sorted.
- `sort_perm`, `sort_map`: by whatever relation, the items stay the same, and only what they are compared by plays a part.
- `Sorted.unique`: there is one way to be sorted. `Sorted.filter`, `Sorted.map`: leaving items out, and looking at a
  part of each that decides what comes before what, keep what is sorted sorted.
-/

namespace ReportPress.Order

variable {α : Type} {before : α → α → Bool} {p : α → Prop}

/-- "comes before" is a strict weak order on the items that `p` holds of -/
structure IsWeakOn (before : α → α → Bool) (p : α → Prop) : Prop where
  asymm : ∀ a b, p a → p b → before a b = true → before b a = false
  /-- "does not come after" may be chained -/
  trans : ∀ a b c, p a → p b → p c → before b a = false → before c b = false → before c a = false

/-- neither comes before the other -/
def tied (before : α → α → Bool) (a b : α) : Bool := !before a b && !before b a

/-- `ys` is `xs` in ascending order; of the items tied with an item that `p` holds of, the order is as in `xs` -/
structure Sorted (before : α → α → Bool) (p : α → Prop) (xs ys : List α) : Prop where
  perm : ys.Perm xs
  ascending : ys.Pairwise fun a b => before b a = false
  stable : ∀ a, p a → ys.filter (tied before a) = xs.filter (tied before a)

theorem IsWeakOn.mono {q : α → Prop} (h : IsWeakOn before p) (hqp : ∀ a, q a → p a) : IsWeakOn before q :=
  ⟨fun a b ha hb => h.asymm a b (hqp a ha) (hqp b hb),
    fun a b c ha hb hc => h.trans a b c (hqp a ha) (hqp b hb) (hqp c hc)⟩

/-- an item that does not come before another does not come before one tied with it -/
theorem IsWeakOn.not_before_of_tied (h : IsWeakOn before p) {a b c : α} (ha : p a) (hb : p b) (hc : p c)
    (hab : tied before a b = true) (hac : tied before a c = true) : before b c = false := by
  simp only [tied, Bool.and_eq_true, Bool.not_eq_true'] at hab hac
  exact h.trans c a b hc ha hb hac.1 hab.2

/-! ## The place of an item -/

theorem insertAt_eq (x : α) : ∀ (n : ℕ) (ys : List α), insertAt x n ys = ys.take n ++ x :: ys.drop n
  | 0, ys => rfl
  | _ + 1, [] => rfl
  | n + 1, y :: ys => by rw [insertAt, insertAt_eq x n ys]; rfl

/-- halving: all items up to the place found are not after `x`, all others are -/
theorem place_spec (x : α) (ys : List α)
    (hup : ∀ i j (hi : i < ys.length) (hj : j < ys.length), i ≤ j → before x ys[i] = true → before x ys[j] = true)
    (fuel lo hi : ℕ) (hlo : lo ≤ hi) (hhi : hi ≤ ys.length) (hfuel : hi - lo < fuel)
    (hbelow : ∀ i (h : i < ys.length), i < lo → before x ys[i] = false)
    (habove : ∀ i (h : i < ys.length), hi ≤ i → before x ys[i] = true) :
    (∀ i (h : i < ys.length), i < place before x ys.toArray fuel lo hi → before x ys[i] = false) ∧
      ∀ i (h : i < ys.length), place before x ys.toArray fuel lo hi ≤ i → before x ys[i] = true := by
  induction fuel generalizing lo hi with
  | zero => omega
  | succ fuel ih =>
    unfold place
    split
    · next hlt =>
      have hmid : lo + (hi - lo) / 2 < ys.length := by omega
      simp only [List.getElem?_toArray, List.getElem?_eq_getElem hmid]
      split
      · next hx =>
        refine ih lo _ (by omega) (by omega) (by omega) hbelow fun i h hi' => ?_
        exact hup _ i hmid h hi' hx
      · next hx =>
        refine ih _ hi (by omega) hhi (by omega) (fun i h hi' => ?_) habove
        cases hi'' : before x ys[i] with
        | false => rfl
        | true => exact absurd (hup i _ h hmid (by omega) hi'') hx
    · next hge =>
      refine ⟨hbelow, fun i h hi' => habove i h (by omega)⟩

/-- **Inserting** puts an item behind all those that it does not come before, ahead of all others -/
theorem exists_insert (hw : IsWeakOn before p) {x : α} {ys : List α} (hx : p x) (hp : ∀ y ∈ ys, p y)
    (hys : ys.Pairwise fun a b => before b a = false) :
    ∃ us vs, ys = us ++ vs ∧ insert before ys x = us ++ x :: vs ∧ (∀ u ∈ us, before x u = false) ∧
      ∀ v ∈ vs, before x v = true := by
  have hup : ∀ i j (hi : i < ys.length) (hj : j < ys.length), i ≤ j → before x ys[i] = true →
      before x ys[j] = true := by
    intro i j hi hj hij hxi
    rcases Nat.lt_or_eq_of_le hij with hlt | rfl
    · have hji : before ys[j] ys[i] = false := List.pairwise_iff_getElem.1 hys i j hi hj hlt
      cases hxj : before x ys[j] with
      | true => rfl
      | false =>
        have := hw.trans _ _ _ (hp _ (List.getElem_mem hi)) (hp _ (List.getElem_mem hj)) hx hji hxj
        rw [this] at hxi; exact hxi
    · exact hxi
  obtain ⟨hbelow, habove⟩ := place_spec x ys hup (ys.length + 1) 0 ys.length (Nat.zero_le _) (Nat.le_refl _) (by omega)
    (fun _ _ h => absurd h (Nat.not_lt_zero _)) (fun _ h h' => absurd h (by omega))
  set n := place before x ys.toArray (ys.length + 1) 0 ys.length with hn
  refine ⟨ys.take n, ys.drop n, (List.take_append_drop n ys).symm, ?_, fun u hu => ?_, fun v hv => ?_⟩
  · rw [Order.insert, insertAt_eq]
  · obtain ⟨i, hi, rfl⟩ := List.getElem_of_mem hu
    rw [List.length_take] at hi
    rw [List.getElem_take]
    exact hbelow i (by omega) (by omega)
  · obtain ⟨i, hi, rfl⟩ := List.getElem_of_mem hv
    rw [List.length_drop] at hi
    rw [List.getElem_drop]
    exact habove (n + i) (by omega) (by omega)

theorem Sorted.insert (hw : IsWeakOn before p) {xs ys : List α} {x : α} (hp : ∀ y ∈ xs ++ [x], p y)
    (h : Sorted before p xs ys) : Sorted before p (xs ++ [x]) (insert before ys x) := by
  have hx : p x := hp x (by simp)
  have hys : ∀ y ∈ ys, p y := fun y hy => hp y (by simp [h.perm.mem_iff.1 hy])
  obtain ⟨us, vs, hcut, hins, hus, hvs⟩ := exists_insert hw hx hys h.ascending
  have hmem : ∀ y ∈ vs, p y := fun y hy => hys y (by rw [hcut]; exact List.mem_append_right _ hy)
  rw [hins]
  refine ⟨?_, ?_, fun a ha => ?_⟩
  · have hmid : (us ++ x :: vs).Perm (x :: ys) := by rw [hcut]; exact List.perm_middle
    exact (hmid.trans (h.perm.cons x)).trans (List.perm_append_singleton x xs).symm
  · have hasc := h.ascending
    rw [hcut, List.pairwise_append] at hasc
    rw [List.pairwise_append, List.pairwise_cons]
    refine ⟨hasc.1, ⟨fun v hv => hw.asymm x v hx (hmem v hv) (hvs v hv), hasc.2.1⟩, fun u hu b hb => ?_⟩
    rcases List.mem_cons.1 hb with rfl | hb
    · exact hus u hu
    · exact hasc.2.2 u hu b hb
  · rw [List.filter_append, List.filter_append xs, ← h.stable a ha, hcut, List.filter_append]
    cases hax : tied before a x with
    | false => simp [hax]
    | true =>
      -- no item behind `x` is tied with `x`, so none of them is tied with `a`
      have hnone : vs.filter (tied before a) = [] := by
        rw [List.filter_eq_nil_iff]
        intro v hv hav
        have hxv := hw.not_before_of_tied ha hx (hmem v hv) hax hav
        rw [hvs v hv] at hxv; cases hxv
      simp [hax, hnone]

theorem Sorted.foldl_insert (hw : IsWeakOn before p) (rest : List α) {xs ys : List α} (hp : ∀ y ∈ xs ++ rest, p y)
    (h : Sorted before p xs ys) : Sorted before p (xs ++ rest) (rest.foldl (Order.insert before) ys) := by
  induction rest generalizing xs ys with
  | nil => rw [List.append_nil]; exact h
  | cons x rest ih =>
    have hx : ∀ y ∈ xs ++ [x], p y := fun y hy => hp y (by simp only [List.mem_append, List.mem_cons] at hy ⊢; tauto)
    have := ih (by rwa [List.append_assoc]) (h.insert hw hx)
    rwa [List.append_assoc] at this

/-! ## The leading run -/

theorem run_append (goesOn : α → α → Bool) (xs : List α) (last : α) :
    (run goesOn last xs).1 ++ (run goesOn last xs).2 = xs := by
  induction xs generalizing last with
  | nil => rfl
  | cons x xs ih =>
    unfold run
    split
    · exact congrArg (x :: ·) (ih x)
    · rfl

theorem run_isChain (goesOn : α → α → Bool) (xs : List α) (last : α) :
    (last :: (run goesOn last xs).1).IsChain fun a b => goesOn a b = true := by
  induction xs generalizing last with
  | nil => exact List.isChain_singleton last
  | cons x xs ih =>
    unfold run
    split
    · next h => exact (ih x).cons_cons h
    · exact List.isChain_singleton last

/-- a chain of items that satisfy `p` is ordered throughout if its links may be joined -/
theorem pairwise_of_isChain {r : α → α → Prop} (htrans : ∀ a b c, p a → p b → p c → r a b → r b c → r a c)
    {xs : List α} (hp : ∀ x ∈ xs, p x) (h : xs.IsChain r) : xs.Pairwise r := by
  induction xs with
  | nil => exact List.Pairwise.nil
  | cons x xs ih =>
    have htail := ih (fun y hy => hp y (List.mem_cons_of_mem x hy)) h.tail
    refine List.pairwise_cons.2 ⟨fun y hy => ?_, htail⟩
    cases xs with
    | nil => cases hy
    | cons z xs =>
      have hxz : r x z := (List.isChain_cons_cons.1 h).1
      rcases List.mem_cons.1 hy with rfl | hy
      · exact hxz
      · exact htrans x z y (hp x (by simp)) (hp z (by simp)) (hp y (by simp [hy])) hxz
          ((List.pairwise_cons.1 htail).1 y hy)

/-- a rising run is sorted as it stands -/
theorem sorted_rising (hw : IsWeakOn before p) {xs : List α} (hp : ∀ x ∈ xs, p x)
    (h : xs.IsChain fun a b => (!before b a) = true) : Sorted before p xs xs := by
  refine ⟨List.Perm.refl xs, ?_, fun _ _ => rfl⟩
  have := pairwise_of_isChain (r := fun a b => (!before b a) = true) (p := p) (fun a b c ha hb hc hab hbc => by
    rw [Bool.not_eq_true'] at hab hbc ⊢
    exact hw.trans a b c ha hb hc hab hbc) hp h
  exact this.imp fun hab => by simpa using hab

/-- a falling run is sorted when it is turned round, since no two of its items are tied -/
theorem sorted_falling (hw : IsWeakOn before p) {xs : List α} (hp : ∀ x ∈ xs, p x)
    (h : xs.IsChain fun a b => before b a = true) : Sorted before p xs xs.reverse := by
  have hfall : xs.Pairwise fun a b => before b a = true := by
    refine pairwise_of_isChain (p := p) (fun a b c ha hb hc hba hcb => ?_) hp h
    cases hca : before c a with
    | true => rfl
    | false =>
      have hbc := hw.asymm c b hc hb hcb
      rw [hw.trans a c b ha hc hb hca hbc] at hba; exact hba
  refine ⟨List.reverse_perm xs, ?_, fun a ha => ?_⟩
  · rw [List.pairwise_reverse]
    exact hfall.imp_of_mem fun hb hc hcb => hw.asymm _ _ (hp _ hc) (hp _ hb) hcb
  · rw [List.filter_reverse]
    match hf : xs.filter (tied before a) with
    | [] => rfl
    | [b] => rfl
    | b :: c :: rest =>
      have hb := List.mem_filter.1 (hf ▸ List.mem_cons_self : b ∈ xs.filter (tied before a))
      have hc := List.mem_filter.1 (hf ▸ List.mem_cons_of_mem b List.mem_cons_self : c ∈ xs.filter (tied before a))
      have hcb : before c b = true := by
        have := hfall.filter (tied before a)
        rw [hf] at this
        exact (List.pairwise_cons.1 this).1 c List.mem_cons_self
      rw [hw.not_before_of_tied ha (hp c hc.1) (hp b hb.1) hc.2 hb.2] at hcb; cases hcb

theorem sort_of_falling {x y : α} {rest : List α} (h : before y x = true) :
    sort before (x :: y :: rest) = (run (fun a b => before b a) y rest).2.foldl (Order.insert before)
      (x :: y :: (run (fun a b => before b a) y rest).1).reverse := by
  rw [sort, if_pos h]

theorem sort_of_rising {x y : α} {rest : List α} (h : before y x = false) :
    sort before (x :: y :: rest) = (run (fun a b => !before b a) y rest).2.foldl (Order.insert before)
      (x :: y :: (run (fun a b => !before b a) y rest).1) := by
  rw [sort, if_neg (by rw [h]; exact Bool.false_ne_true)]

/-- **Sorting sorts**, and is stable -/
theorem sort_sorted (hw : IsWeakOn before p) (xs : List α) (hp : ∀ x ∈ xs, p x) :
    Sorted before p xs (sort before xs) := by
  match xs with
  | [] => exact ⟨List.Perm.refl _, List.Pairwise.nil, fun _ _ => rfl⟩
  | [x] => exact ⟨List.Perm.refl _, List.pairwise_singleton _ x, fun _ _ => rfl⟩
  | x :: y :: rest =>
    cases hyx : before y x with
    | true =>
      have hcut := run_append (fun a b => before b a) rest y
      have hchain : (x :: y :: (run (fun a b => before b a) y rest).1).IsChain fun a b => before b a = true :=
        (run_isChain (fun a b => before b a) rest y).cons_cons hyx
      rw [sort_of_falling hyx]
      generalize run (fun a b => before b a) y rest = r at hcut hchain
      subst hcut
      have hrun : Sorted before p (x :: y :: r.1) (x :: y :: r.1).reverse :=
        sorted_falling hw (fun z hz => hp z (by simp only [List.mem_cons, List.mem_append] at hz ⊢; tauto)) hchain
      exact hrun.foldl_insert hw r.2 hp
    | false =>
      have hcut := run_append (fun a b => !before b a) rest y
      have hchain : (x :: y :: (run (fun a b => !before b a) y rest).1).IsChain fun a b => (!before b a) = true :=
        (run_isChain (fun a b => !before b a) rest y).cons_cons (by rw [hyx]; rfl)
      rw [sort_of_rising hyx]
      generalize run (fun a b => !before b a) y rest = r at hcut hchain
      subst hcut
      have hrun : Sorted before p (x :: y :: r.1) (x :: y :: r.1) :=
        sorted_rising hw (fun z hz => hp z (by simp only [List.mem_cons, List.mem_append] at hz ⊢; tauto)) hchain
      exact hrun.foldl_insert hw r.2 hp

/-! ## Sorting by any relation -/

theorem insert_perm (before : α → α → Bool) (ys : List α) (x : α) : (Order.insert before ys x).Perm (x :: ys) := by
  unfold Order.insert
  rw [insertAt_eq]
  refine List.perm_middle.trans (List.Perm.cons x ?_)
  rw [List.take_append_drop]

theorem foldl_insert_perm (before : α → α → Bool) (xs ys : List α) :
    (xs.foldl (Order.insert before) ys).Perm (ys ++ xs) := by
  induction xs generalizing ys with
  | nil => rw [List.foldl_nil, List.append_nil]
  | cons x xs ih =>
    rw [List.foldl_cons]
    refine (ih _).trans (((insert_perm before ys x).append_right xs).trans ?_)
    exact List.perm_middle.symm

/-- whatever "comes before" is, sorting neither loses nor doubles items -/
theorem sort_perm (before : α → α → Bool) (xs : List α) : (sort before xs).Perm xs := by
  match xs with
  | [] => exact .refl _
  | [x] => exact .refl _
  | x :: y :: rest =>
    cases hyx : before y x with
    | true =>
      rw [sort_of_falling hyx]
      refine (foldl_insert_perm before _ _).trans (((List.reverse_perm _).append_right _).trans ?_)
      rw [List.cons_append, List.cons_append, run_append]
    | false =>
      rw [sort_of_rising hyx]
      refine (foldl_insert_perm before _ _).trans ?_
      rw [List.cons_append, List.cons_append, run_append]

/-! ## Sorting by a part of each item -/

section Key

variable {β : Type} {key : α → β} {before' : β → β → Bool}

theorem place_map (hkey : ∀ a b, before' (key a) (key b) = before a b) (x : α) (ys : List α) (fuel lo hi : ℕ) :
    place before' (key x) (ys.map key).toArray fuel lo hi = place before x ys.toArray fuel lo hi := by
  induction fuel generalizing lo hi with
  | zero => rfl
  | succ fuel ih =>
    unfold place
    split
    · simp only [List.getElem?_toArray, List.getElem?_map]
      cases ys[lo + (hi - lo) / 2]? with
      | none => rfl
      | some y => simp only [Option.map_some, hkey, ih]
    · rfl

theorem insert_map (hkey : ∀ a b, before' (key a) (key b) = before a b) (ys : List α) (x : α) :
    Order.insert before' (ys.map key) (key x) = (Order.insert before ys x).map key := by
  unfold Order.insert
  rw [place_map hkey, List.length_map, insertAt_eq, insertAt_eq, List.map_append, List.map_cons, List.map_take,
    List.map_drop]

theorem foldl_insert_map (hkey : ∀ a b, before' (key a) (key b) = before a b) (xs ys : List α) :
    (xs.map key).foldl (Order.insert before') (ys.map key) = (xs.foldl (Order.insert before) ys).map key := by
  induction xs generalizing ys with
  | nil => rfl
  | cons x xs ih => rw [List.map_cons, List.foldl_cons, List.foldl_cons, insert_map hkey, ih]

theorem run_map {goesOn : α → α → Bool} {goesOn' : β → β → Bool}
    (hkey : ∀ a b, goesOn' (key a) (key b) = goesOn a b) (xs : List α) (last : α) :
    run goesOn' (key last) (xs.map key) = ((run goesOn last xs).1.map key, (run goesOn last xs).2.map key) := by
  induction xs generalizing last with
  | nil => rfl
  | cons x xs ih =>
    rw [List.map_cons, run, run, hkey]
    split
    · rw [ih x]
      rfl
    · rfl

/-- **Sorting looks at nothing else**: by whatever relation, it moves the items as it moves the parts of them that decide
what comes before what -/
theorem sort_map (hkey : ∀ a b, before' (key a) (key b) = before a b) (xs : List α) :
    sort before' (xs.map key) = (sort before xs).map key := by
  match xs with
  | [] => rfl
  | [x] => rfl
  | x :: y :: rest =>
    rw [List.map_cons, List.map_cons]
    cases hyx : before y x with
    | true =>
      rw [sort_of_falling hyx, sort_of_falling ((hkey y x).trans hyx), run_map fun a b => hkey b a,
        ← foldl_insert_map hkey]
      simp only [List.map_reverse, List.map_cons]
    | false =>
      rw [sort_of_rising hyx, sort_of_rising ((hkey y x).trans hyx),
        run_map fun a b => congrArg (!·) (hkey b a), ← foldl_insert_map hkey]
      simp only [List.map_cons]

end Key

/-! ## One way to be sorted -/

theorem IsWeakOn.tied_self (h : IsWeakOn before p) {a : α} (ha : p a) : tied before a a = true := by
  cases haa : before a a with
  | false => simp [tied, haa]
  | true =>
    have hno := h.asymm a a ha ha haa
    rw [haa] at hno
    cases hno

/-- two ascending lists of the same items, tied ones in the same order, are the same list -/
theorem eq_of_tied_filters (hw : IsWeakOn before p) {ys zs : List α} (hperm : ys.Perm zs) (hp : ∀ y ∈ ys, p y)
    (hys : ys.Pairwise fun a b => before b a = false) (hzs : zs.Pairwise fun a b => before b a = false)
    (htied : ∀ a, p a → ys.filter (tied before a) = zs.filter (tied before a)) : ys = zs := by
  induction ys generalizing zs with
  | nil => exact hperm.nil_eq
  | cons y ys ih =>
    cases zs with
    | nil => exact hperm.eq_nil
    | cons z zs =>
      have hy : p y := hp y List.mem_cons_self
      have hz : p z := hp z (hperm.mem_iff.2 List.mem_cons_self)
      have hyz : tied before y z = true := by
        -- neither head comes before the other, since each is in the other list too
        have hzy : before z y = false := by
          rcases List.mem_cons.1 (hperm.mem_iff.2 (List.mem_cons_self : z ∈ z :: zs)) with rfl | hmem
          · simpa [tied] using hw.tied_self hz
          · exact (List.pairwise_cons.1 hys).1 z hmem
        have hyz : before y z = false := by
          rcases List.mem_cons.1 (hperm.mem_iff.1 (List.mem_cons_self : y ∈ y :: ys)) with rfl | hmem
          · exact hzy
          · exact (List.pairwise_cons.1 hzs).1 y hmem
        simp [tied, hyz, hzy]
      have hheads := htied y hy
      rw [List.filter_cons_of_pos (hw.tied_self hy), List.filter_cons_of_pos hyz] at hheads
      obtain rfl : y = z := (List.cons.inj hheads).1
      have hrest : ys = zs := by
        refine ih hperm.cons_inv (fun x hx => hp x (List.mem_cons_of_mem y hx)) (List.pairwise_cons.1 hys).2
          (List.pairwise_cons.1 hzs).2 fun a ha => ?_
        have hall := htied a ha
        by_cases hay : tied before a y = true
        · rw [List.filter_cons_of_pos hay, List.filter_cons_of_pos hay] at hall
          exact (List.cons.inj hall).2
        · rwa [List.filter_cons_of_neg hay, List.filter_cons_of_neg hay] at hall
      rw [hrest]

/-- **There is one way to be sorted** -/
theorem Sorted.unique (hw : IsWeakOn before p) {xs ys zs : List α} (hp : ∀ x ∈ xs, p x) (hys : Sorted before p xs ys)
    (hzs : Sorted before p xs zs) : ys = zs := by
  refine eq_of_tied_filters hw (hys.perm.trans hzs.perm.symm) (fun y hy => hp y (hys.perm.mem_iff.1 hy)) hys.ascending
    hzs.ascending fun a ha => ?_
  rw [hys.stable a ha, hzs.stable a ha]

/-- leaving items out of both lists -/
theorem Sorted.filter {xs ys : List α} (h : Sorted before p xs ys) (keep : α → Bool) :
    Sorted before p (xs.filter keep) (ys.filter keep) := by
  refine ⟨h.perm.filter keep, h.ascending.filter keep, fun a ha => ?_⟩
  have hswap : ∀ l : List α, (l.filter keep).filter (tied before a) = (l.filter (tied before a)).filter keep := by
    intro l
    simp only [List.filter_filter, Bool.and_comm]
  rw [hswap, hswap, h.stable a ha]

/-- looking at a part of each item that decides what comes before what -/
theorem Sorted.map {β : Type} {xs ys : List α} (h : Sorted before p xs ys) {key : α → β} {before' : β → β → Bool}
    (hkey : ∀ a b, before' (key a) (key b) = before a b) :
    Sorted before' (fun b => ∃ a, p a ∧ key a = b) (xs.map key) (ys.map key) := by
  refine ⟨h.perm.map key, ?_, ?_⟩
  · rw [List.pairwise_map]
    exact h.ascending.imp fun hab => (hkey _ _).trans hab
  · rintro b ⟨a, ha, rfl⟩
    have htied : tied before' (key a) ∘ key = tied before a := by
      funext x
      simp [tied, hkey]
    rw [List.filter_map, List.filter_map, htied, h.stable a ha]

end ReportPress.Order
