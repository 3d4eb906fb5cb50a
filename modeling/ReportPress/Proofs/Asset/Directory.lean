import ReportPress.Asset.Fetch
import ReportPress.Proofs.Files.Descent
/-!
A directory of files as a store keeps to itself. Whatever the path, a file is read only if it lies in the directory, and
a path is said to lead out of the directory just if it ends outside when its pieces are followed one after the other
from there; to leave on the way and come back is no offence. The one exception is a path that no file can have, with a
null character in it or with half of a pair that stands for no octet: it is turned away before it is asked where it
leads.

- `refusal_iff`: which paths are turned away.
- `fromDirectory_confined`: what is refused, what is read, and that nothing outside the directory makes a difference.
- `null_not_escaping`: the exception.
-/

namespace ReportPress.Fetchers

/-- the names of a directory, as parts of paths -/
def base (files : Files) (root : Path) : List RawText := (Path.resolve files.here root).parts.map RawText.ofString

/-- the path, put to the directory, can be the path of a file -/
def Fits (root : Path) (path : RawText) : Prop := (∀ name ∈ root.parts, '\x00' ∉ name.toList) ∧ path.IsPath

/-- a name is turned away just if no path can hold it, and the failure is none of the asset -/
theorem refusal?_cases (name : RawText) :
    (refusal? name = none ∧ name.IsPath) ∨
      (∃ f, refusal? name = some f ∧ ∀ fault, f ≠ .asset fault) ∧ ¬ name.IsPath := by
  unfold refusal?
  by_cases hhalf : name.any (·.octets?.isNone) = true
  · rw [if_pos hhalf]
    refine .inr ⟨⟨_, rfl, nofun⟩, fun h => ?_⟩
    obtain ⟨p, hp, hnone⟩ := List.any_eq_true.1 hhalf
    rw [Option.isNone_iff_eq_none] at hnone
    have hsome := (h p hp).1
    rw [hnone] at hsome
    cases hsome
  rw [if_neg hhalf]
  by_cases hnull : name.contains (.char '\x00') = true
  · rw [if_pos hnull]
    exact .inr ⟨⟨_, rfl, nofun⟩, fun h => (h _ (List.contains_iff_mem.1 hnull)).2 rfl⟩
  · rw [if_neg hnull]
    refine .inl ⟨rfl, fun p hp => ⟨?_, fun heq => hnull (List.contains_iff_mem.2 (heq ▸ hp))⟩⟩
    refine Option.isSome_iff_ne_none.2 fun hno => hhalf (List.any_eq_true.2 ⟨p, hp, ?_⟩)
    rw [hno]
    rfl

/-- **A path is turned away** just if it cannot be the path of a file -/
theorem refusal_iff (root : Path) (path : RawText) :
    ((root.parts.map RawText.ofString ++ path.names).findSome? refusal? = none ↔ Fits root path) ∧
      ∀ f, (root.parts.map RawText.ofString ++ path.names).findSome? refusal? = some f → ∀ fault, f ≠ .asset fault := by
  constructor
  · have hname : ∀ name, refusal? name = none ↔ name.IsPath := fun name => by
      rcases refusal?_cases name with ⟨hnone, hpath⟩ | ⟨⟨f, hsome, -⟩, hno⟩
      · exact iff_of_true hnone hpath
      · exact iff_of_false (by rw [hsome]; nofun) hno
    rw [List.findSome?_eq_none_iff, Fits, ← path.forall_names_isPath]
    simp only [List.forall_mem_append, List.forall_mem_map, hname, RawText.isPath_ofString]
  · intro f hf
    obtain ⟨name, -, hrefused⟩ := List.exists_of_findSome?_eq_some hf
    rcases refusal?_cases name with ⟨hnone, -⟩ | ⟨⟨g, hsome, hfault⟩, -⟩
    · rw [hnone] at hrefused
      cases hrefused
    · rw [hsome] at hrefused
      cases hrefused
      exact hfault

/-- the place that is looked at for a path is where its pieces lead from the directory -/
theorem climb_join (files : Files) (root : Path) (path : RawText) :
    Path.climb (RawText.ofString "..") [] ((Path.join files.here root).parts.map RawText.ofString ++ path.names) =
      RawText.follow (base files root) path.pieces := by
  have hnames : ∀ name ∈ path.names, name ≠ [] ∧ name ≠ RawText.ofString "." := fun name h => (RawText.mem_names.1 h).2
  have hbase : Path.climb (RawText.ofString "..") [] ((Path.join files.here root).parts.map RawText.ofString) =
      (Path.climb ".." [] (Path.join files.here root).parts).map RawText.ofString :=
    Path.climb_map RawText.ofString_injective [] _
  rw [Path.climb_append, RawText.climb_eq_follow _ hnames, List.reverse_reverse, hbase, RawText.follow_names]
  rfl

section

variable {files : Files} {root : Path} {path : RawText}

/-- what becomes of a path that fits is told by where its pieces lead -/
theorem fromDirectory_fits (h : Fits root path) :
    fromDirectory files root path =
      if base files root <+: RawText.follow (base files root) path.pieces then
        match files.readBelow (RawText.follow (base files root) path.pieces) with
        | .ok octets => .ok octets
        | .error f => .error (.file f (Path.mk (Path.resolve files.here root).slashes
            ((RawText.follow (base files root) path.pieces).map RawText.text)).text)
      else .error (.asset (.escapes root.text path.text)) := by
  unfold fromDirectory
  dsimp only
  rw [RawText.names_dropSlashes, (refusal_iff root path).1.2 h, climb_join]
  by_cases hinside : base files root <+: RawText.follow (base files root) path.pieces
  · rw [if_pos hinside]
    refine if_neg ?_
    rw [Bool.not_eq_true', Bool.not_eq_false]
    exact List.isPrefixOf_iff_prefix.2 hinside
  · rw [if_neg hinside]
    refine if_pos ?_
    rw [Bool.not_eq_true', ← Bool.not_eq_true]
    exact mt List.isPrefixOf_iff_prefix.1 hinside

theorem fromDirectory_refused (h : ¬ Fits root path) :
    ∃ f, (∀ fault, f ≠ .asset fault) ∧ ∀ files, fromDirectory files root path = .error f := by
  obtain ⟨hnone, hfault⟩ := refusal_iff root path
  obtain ⟨f, hf⟩ := Option.ne_none_iff_exists'.1 (mt hnone.1 h)
  refine ⟨f, hfault f hf, fun files => ?_⟩
  unfold fromDirectory
  dsimp only
  rw [RawText.names_dropSlashes, hf]

theorem fromDirectory_escapes (fault : AssetFault) :
    fromDirectory files root path = .error (.asset fault) ↔
      fault = .escapes root.text path.text ∧ Fits root path ∧
        ¬ base files root <+: RawText.follow (base files root) path.pieces := by
  by_cases hfits : Fits root path
  · rw [fromDirectory_fits hfits, and_iff_right hfits]
    split
    · next hinside =>
      refine iff_of_false ?_ fun h => h.2 hinside
      split <;> nofun
    · next houtside =>
      rw [and_iff_left houtside]
      constructor
      · rintro ⟨⟩
        rfl
      · rintro rfl
        rfl
  · obtain ⟨f, hfault, hrefused⟩ := fromDirectory_refused hfits
    rw [hrefused]
    exact iff_of_false (fun h => hfault fault (Except.error.inj h)) fun h => hfits h.2.1

theorem fromDirectory_ok (octets : ByteArray) :
    fromDirectory files root path = .ok octets ↔
      Fits root path ∧ base files root <+: RawText.follow (base files root) path.pieces ∧
        files.readBelow (RawText.follow (base files root) path.pieces) = .ok octets := by
  by_cases hfits : Fits root path
  · rw [fromDirectory_fits hfits, and_iff_right hfits]
    split
    · next hinside =>
      rw [and_iff_right hinside]
      cases files.readBelow (RawText.follow (base files root) path.pieces) with
      | error f => exact iff_of_false nofun nofun
      | ok content => simp
    · next houtside => exact iff_of_false nofun fun h => houtside h.1
  · obtain ⟨f, -, hrefused⟩ := fromDirectory_refused hfits
    rw [hrefused]
    exact iff_of_false nofun fun h => hfits h.1

end

/-- **A directory keeps to itself**, whatever a record holds for a path. A path is refused for leading outside just if it
can be the path of a file and its pieces, followed from the directory one after the other, lead to what does not lie in
the directory. A file is read just if its path can be one and leads to names below the directory that lead down to the
file. What is not found below the directory makes no difference. -/
theorem fromDirectory_confined (files : Files) (root : Path) (path : RawText) :
    let reached := RawText.follow (base files root) path.pieces
    (∀ fault, fromDirectory files root path = .error (.asset fault) ↔
      fault = .escapes root.text path.text ∧ Fits root path ∧ ¬ base files root <+: reached) ∧
    (∀ octets, fromDirectory files root path = .ok octets ↔
      Fits root path ∧ ∃ node below, files.top.descend (base files root) = .ok node ∧
        reached = base files root ++ below ∧ node.Holds below octets) ∧
    ∀ others : Files, others.here = files.here →
      others.top.descend (base files root) = files.top.descend (base files root) →
        fromDirectory others root path = fromDirectory files root path := by
  intro reached
  refine ⟨fromDirectory_escapes, fun octets => ?_, fun others hhere hsame => ?_⟩
  · rw [fromDirectory_ok, and_congr_right_iff]
    intro _
    constructor
    · rintro ⟨⟨below, hbelow⟩, hread⟩
      rw [← hbelow, Files.readBelow_append] at hread
      obtain ⟨node, hnode, hholds⟩ := hread
      exact ⟨node, below, hnode, hbelow.symm, hholds⟩
    · rintro ⟨node, below, hnode, hbelow, hholds⟩
      refine ⟨⟨below, hbelow.symm⟩, ?_⟩
      rw [show RawText.follow (base files root) path.pieces = base files root ++ below from hbelow,
        Files.readBelow_append]
      exact ⟨node, hnode, hholds⟩
  · by_cases hfits : Fits root path
    · have hbase : base others root = base files root := by rw [base, base, hhere]
      rw [fromDirectory_fits hfits, fromDirectory_fits hfits, hbase, hhere]
      split
      · next hinside =>
        obtain ⟨below, hbelow⟩ := hinside
        rw [← hbelow, Files.readBelow_congr hsame]
      · rfl
    · obtain ⟨f, -, hrefused⟩ := fromDirectory_refused hfits
      rw [hrefused, hrefused]

/-- the pieces of a path with a null character in it may lead outside, but it is not refused for that -/
theorem null_not_escaping :
    let files : Files := ⟨.directory [("store", .directory [("a.bin", .file ⟨#[7]⟩)])], ⟨1, []⟩⟩
    let root := Path.relative ["store"]
    let path := RawText.ofString "../\x00"
    ¬ (fromDirectory files root path = .error (.asset (.escapes root.text path.text)) ↔
      ¬ base files root <+: RawText.follow (base files root) path.pieces) := by
  intro files root path
  have hnull : ¬ Fits root path := fun h => RawText.isPath_ofString.1 h.2 (by decide)
  have houtside : ¬ base files root <+: RawText.follow (base files root) path.pieces := by decide
  obtain ⟨f, hfault, hrefused⟩ := fromDirectory_refused hnull
  rw [hrefused, iff_true_right houtside]
  exact fun h => hfault _ (Except.error.inj h)

end ReportPress.Fetchers
