import Mathlib.Logic.Basic
import ReportPress.Files.Tree
/-!
Where a path leads when it is followed piece by piece, and what is found there. Steps up are undone in the names before
anything is looked up, so a look-up only ever goes down, and going down from a directory depends on nothing but the
directory. Paths are any texts that a record can hold.

- `climb_append`: the names of two paths, one after the other, lead where the second path leads from where the first one
  does.
- `follow_names`: what the names of a path lead to is what all its pieces lead to.
- `forall_names_isPath`: a path has nothing in it that no path can hold just if none of its names has.
- `descend_append`: what is found below a place is found by going down from what is found at the place.
- `readBelow_append`: a file is read there just if the names lead down to it.
-/

namespace ReportPress

namespace Path

variable {α β : Type} [DecidableEq α] [DecidableEq β] {back : α}

theorem climb_cons (done : List α) (name : α) (rest : List α) :
    climb back done (name :: rest) =
      if name = back then climb back done.tail rest else climb back (name :: done) rest := rfl

theorem climb_append (done first second : List α) :
    climb back done (first ++ second) = climb back (climb back done first).reverse second := by
  induction first generalizing done with
  | nil => simp [climb]
  | cons name rest ih =>
    rw [List.cons_append, climb_cons, climb_cons]
    split
    · exact ih _
    · exact ih _

/-- names that stand for others, one for one, are undone like them -/
theorem climb_map {f : α → β} (hf : Function.Injective f) (done names : List α) :
    climb (f back) (done.map f) (names.map f) = (climb back done names).map f := by
  induction names generalizing done with
  | nil => simp [climb]
  | cons name rest ih =>
    rw [List.map_cons, climb_cons, climb_cons]
    by_cases hback : name = back
    · rw [if_pos hback, if_pos (congrArg f hback), ← List.map_tail]
      exact ih _
    · rw [if_neg hback, if_neg (mt (@hf _ _) hback)]
      exact ih (name :: done)

end Path

namespace RawText

theorem ofString_injective : Function.Injective ofString := by
  intro s t h
  exact String.toList_inj.1 ((List.map_inj_right fun _ _ => CodePoint.char.inj).1 h)

/-! ## Pieces -/

/-- where one piece of a path leads: an empty one and a single point stay, two points go up, if there is a way up, and
any other piece is the name of what is below -/
def enter (place : List RawText) (piece : RawText) : List RawText :=
  if piece = [] ∨ piece = ofString "." then place else if piece = ofString ".." then place.dropLast
  else place ++ [piece]

def follow (place pieces : List RawText) : List RawText := pieces.foldl enter place

/-- the pieces of a path between its slashes -/
def pieces (path : RawText) : List RawText := Text.split (.char '/') path

theorem mem_names {path name : RawText} : name ∈ path.names ↔ name ∈ path.pieces ∧ name ≠ [] ∧ name ≠ ofString "." := by
  simp [names, pieces]

/-- the pieces that are no names lead nowhere -/
theorem follow_names (place : List RawText) (path : RawText) : follow place path.names = follow place path.pieces := by
  unfold names pieces
  induction Text.split (.char '/') path generalizing place with
  | nil => rfl
  | cons piece rest ih =>
    show _ = follow (enter place piece) rest
    rw [List.filter_cons]
    by_cases hstay : piece = [] ∨ piece = ofString "."
    · have hkept : (piece != [] && piece != ofString ".") = false := by
        rcases hstay with rfl | rfl
        · rfl
        · decide
      rw [hkept, if_neg Bool.false_ne_true, ih, enter, if_pos hstay]
    · have hname : (piece != [] && piece != ofString ".") = true := by simpa [not_or] using hstay
      rw [hname, if_pos rfl]
      exact ih _

/-- slashes at the start of a path add nothing but empty pieces -/
theorem names_dropSlashes (path : RawText) : names (path.dropWhile (· == .char '/')) = path.names := by
  induction path with
  | nil => rfl
  | cons p rest ih =>
    by_cases hslash : p = .char '/'
    · subst hslash
      rw [List.dropWhile_cons_of_pos rfl, ih]
      simp [names, Text.split]
    · rw [List.dropWhile_cons_of_neg (by simpa using hslash)]

/-- names are undone as they are followed -/
theorem climb_eq_follow (done : List RawText) {names : List RawText}
    (h : ∀ name ∈ names, name ≠ [] ∧ name ≠ ofString ".") :
    Path.climb (ofString "..") done names = follow done.reverse names := by
  induction names generalizing done with
  | nil => rfl
  | cons name rest ih =>
    obtain ⟨hname, hrest⟩ := List.forall_mem_cons.1 h
    show _ = follow (enter done.reverse name) rest
    rw [Path.climb_cons, enter, if_neg (not_or.2 hname)]
    by_cases hup : name = ofString ".."
    · rw [if_pos hup, if_pos hup, ih _ hrest, List.dropLast_reverse]
    · rw [if_neg hup, if_neg hup, ih _ hrest, List.reverse_cons]

/-! ## What no path can hold -/

/-- each part of the text stands for octets, and none is a null character -/
def IsPath (t : RawText) : Prop := ∀ p ∈ t, p.octets?.isSome = true ∧ p ≠ .char '\x00'

theorem isPath_ofString {s : String} : (ofString s).IsPath ↔ '\x00' ∉ s.toList := by
  simp only [IsPath, ofString, List.forall_mem_map, CodePoint.octets?, Option.isSome_some, true_and, ne_eq,
    CodePoint.char.injEq]
  exact ⟨fun h hnull => h _ hnull rfl, fun h c hc heq => h (heq ▸ hc)⟩

/-- the pieces hold what the whole holds, separators aside -/
theorem forall_mem_split {α : Type} [DecidableEq α] {sep : α} {p : α → Prop} (hsep : p sep) (cs : List α) :
    (∀ piece ∈ Text.split sep cs, ∀ x ∈ piece, p x) ↔ ∀ x ∈ cs, p x := by
  induction cs with
  | nil => simp [Text.split]
  | cons c rest ih =>
    obtain ⟨piece, pieces, hsplit⟩ := List.exists_cons_of_ne_nil (Text.split_ne_nil sep rest)
    unfold Text.split
    rw [hsplit] at ih ⊢
    by_cases hc : c = sep
    · rw [if_pos hc, List.forall_mem_cons, and_iff_right (List.forall_mem_nil _), ih, List.forall_mem_cons,
        and_iff_right (hc ▸ hsep)]
    · rw [if_neg hc, List.forall_mem_cons, List.forall_mem_cons, List.forall_mem_cons, and_assoc, ← ih,
        List.forall_mem_cons]

/-- **A path** has nothing in it that no path can hold just if none of its names has -/
theorem forall_names_isPath (path : RawText) : (∀ name ∈ path.names, name.IsPath) ↔ path.IsPath := by
  have hslash : (CodePoint.char '/').octets?.isSome = true ∧ CodePoint.char '/' ≠ .char '\x00' := by decide
  rw [IsPath, ← forall_mem_split (p := fun x => x.octets?.isSome = true ∧ x ≠ .char '\x00') hslash path]
  refine ⟨fun h piece hpiece => ?_, fun h name hname => h name (mem_names.1 hname).1⟩
  by_cases hname : piece ∈ path.names
  · exact h piece hname
  · -- a piece that is no name is empty or a single point
    rw [mem_names, not_and, ← not_or, not_not] at hname
    rcases hname hpiece with rfl | rfl
    · exact List.forall_mem_nil _
    · decide

end RawText

/-! ## Looking up -/

namespace Node

/-- the first entry of a directory whose name has just these octets -/
def entry? (es : List (String × Node)) (name : RawText) : Option (String × Node) :=
  es.find? fun e => (RawText.ofString e.1).octets == name.octets

/-- the names lead down from a node to a file with these octets; there are no longer names than the lookup takes -/
inductive Holds : Node → List RawText → ByteArray → Prop
  | file (octets : ByteArray) : Holds (.file octets) [] octets
  | entry {es : List (String × Node)} {name : RawText} {e : String × Node} {names : List RawText} {octets : ByteArray}
      (hentry : entry? es name = some e) (hlength : name.octets.length ≤ 255) (hbelow : Holds e.2 names octets) :
      Holds (.directory es) (name :: names) octets

/-- one step down -/
theorem descend_cons (es : List (String × Node)) (name : RawText) (rest : List RawText) :
    descend (.directory es) (name :: rest) =
      if 255 < name.octets.length then .error .nameTooLong
      else match entry? es name with
        | some e => e.2.descend rest
        | none => .error .missing := rfl

theorem descend_append (node : Node) (first second : List RawText) :
    node.descend (first ++ second) = node.descend first >>= (·.descend second) := by
  induction first generalizing node with
  | nil => rfl
  | cons name rest ih =>
    cases node with
    | file octets => rfl
    | directory es =>
      rw [List.cons_append, descend_cons, descend_cons]
      split
      · rfl
      · cases entry? es name with
        | none => rfl
        | some e => exact ih e.2

/-- going down ends at a file just if the names lead to it -/
theorem descend_eq_file {node : Node} {names : List RawText} {octets : ByteArray} :
    node.descend names = .ok (.file octets) ↔ node.Holds names octets := by
  induction names generalizing node with
  | nil =>
    constructor
    · intro hdescend
      cases hdescend
      exact .file octets
    · rintro ⟨⟩
      rfl
  | cons name rest ih =>
    cases node with
    | file other => exact iff_of_false nofun nofun
    | directory es =>
      rw [descend_cons]
      constructor
      · intro hdescend
        split at hdescend
        · cases hdescend
        · next hlength =>
          cases hentry : entry? es name with
          | none =>
            rw [hentry] at hdescend
            cases hdescend
          | some e =>
            rw [hentry] at hdescend
            exact .entry hentry (Nat.le_of_not_lt hlength) (ih.1 hdescend)
      · rintro (_ | ⟨hentry, hlength, hbelow⟩)
        rw [if_neg (Nat.not_lt.2 hlength), hentry]
        exact ih.2 hbelow

end Node

namespace Files

theorem readBelow_eq_ok {files : Files} {place : List RawText} {octets : ByteArray} :
    files.readBelow place = .ok octets ↔ files.top.descend place = .ok (.file octets) := by
  unfold readBelow
  rcases files.top.descend place with f | ⟨content⟩ | es
  · exact iff_of_false nofun nofun
  · simp
  · exact iff_of_false nofun nofun

/-- a file below a place is read just if the names lead to it from what is found at the place -/
theorem readBelow_append {files : Files} {place below : List RawText} {octets : ByteArray} :
    files.readBelow (place ++ below) = .ok octets ↔
      ∃ node, files.top.descend place = .ok node ∧ node.Holds below octets := by
  rw [readBelow_eq_ok, Node.descend_append]
  cases files.top.descend place with
  | error f => exact iff_of_false nofun nofun
  | ok node =>
    show node.descend below = .ok (.file octets) ↔ _
    rw [Node.descend_eq_file]
    simp

/-- nothing but what is found at a place makes a difference to what is read below it -/
theorem readBelow_congr {files others : Files} {place : List RawText}
    (hsame : others.top.descend place = files.top.descend place) (below : List RawText) :
    others.readBelow (place ++ below) = files.readBelow (place ++ below) := by
  unfold readBelow
  rw [Node.descend_append, Node.descend_append, hsame]

end Files

end ReportPress
