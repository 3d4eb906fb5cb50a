import ReportPress.Proofs.Json.Reader
import ReportPress.Proofs.Template.Refusal
import ReportPress.Template.File
import ReportPress.Text.Utf8
/-!
Template files. What is wrong with a file is told together with its name: that it is missing or no text, that its text
is no JSON object, which field is at fault. Three failures are not told so; they come from where no file is known of.

- `Utf8.decode_eq`: decoding reads the octets off a byte array in a loop over its places; here it is on the list that the
  array is made of, which is what computes.
- `NamesFile`: a failure that names the file.
- `ofDocument_cases`: what a document comes to.
- `load_cases`: a template, a failure that names the file, or one of the three, each with what it takes.
  `load_beyond` is a file with a number that is too large.
-/

/-! ## Decoding, on the list of octets -/

namespace ReportPress.Text.Utf8

theorem toList_loop (octets : ByteArray) (i : Nat) (acc : List UInt8) :
    ByteArray.toList.loop octets i acc = acc.reverse ++ octets.data.toList.drop i := by
  fun_induction ByteArray.toList.loop octets i acc with
  | case1 i acc hlt ih =>
    have hi : i < octets.data.toList.length := by simpa using hlt
    have hget : octets.get! i = octets.data.toList[i] := getElem!_pos octets.data i hlt
    rw [ih, List.drop_eq_getElem_cons hi, hget]
    simp
  | case2 i acc hge =>
    have hi : octets.data.toList.length ≤ i := by simpa using hge
    simp [List.drop_eq_nil_of_le hi]

theorem decode_eq (octets : ByteArray) :
    decode octets = decodeFrom octets.size 0 [] (octets.data.toList.map (·.toNat)) := by
  rw [decode, ByteArray.toList, toList_loop]
  simp

end ReportPress.Text.Utf8

/-! ## Files -/

namespace ReportPress

theorem Files.text_eq (files : Files) (p : Path) : files.text p = (files.octets p).bind fun octets =>
    match Text.Utf8.decodeFrom octets.size 0 [] (octets.data.toList.map (·.toNat)) with
    | .ok cs => .ok (Text.plainLineFeeds cs)
    | .error fault => .error (.encoding fault) := by
  unfold Files.text
  simp only [Text.Utf8.decode_eq]
  rfl

/-- a null character in a path is found when the file is opened -/
theorem Files.text_eq_nullInPath {files : Files} {p : Path} (h : files.text p = .error .nullInPath) :
    ∃ name ∈ p.parts, '\x00' ∈ name.toList := by
  have hoctets : files.octets p = .error .nullInPath := by
    rw [Files.text_eq] at h
    cases hopen : files.octets p with
    | error f =>
      rw [hopen] at h
      cases h
      rfl
    | ok octets =>
      rw [hopen, Except.bind] at h
      split at h <;> cases h
  unfold Files.octets at hoctets
  split at hoctets
  · next hany => simpa using hany
  · split at hoctets <;> cases hoctets

namespace Template

/-- a failure that names a file -/
def NamesFile (p : Path) (f : Failure) : Prop :=
  ∃ cause, f = .template (.inFile p.name cause) ∧ f.message = p.name ++ ": " ++ cause

theorem refuseFile_namesFile {α : Type} (p : Path) (cause : String) :
    ∃ f, (refuseFile p cause : Except Failure α) = .error f ∧ NamesFile p f := ⟨_, rfl, cause, rfl, rfl⟩

theorem ofDocument_cases (p : Path) (payload : Value) :
    (∃ t, ofDocument p payload = .ok t) ∨ (∃ f, ofDocument p payload = .error f ∧ NamesFile p f) ∨
      ofDocument p payload = .error .integerTooLarge ∧
        ∃ n, payload.HasInteger n ∧ Binary64.beyondAll ≤ n.natAbs := by
  unfold ofDocument
  by_cases hobject : (!payload.isObject) = true
  · rw [if_pos hobject]
    exact .inr (.inl (refuseFile_namesFile p _))
  · rw [if_neg hobject]
    cases hread : read payload with
    | ok t => exact .inl ⟨t, rfl⟩
    | error f =>
      rcases read_refuses payload f hread with ⟨fault, rfl⟩ | ⟨rfl, hinteger⟩
      · exact .inr (.inl (refuseFile_namesFile p _))
      · exact .inr (.inr ⟨rfl, hinteger⟩)

/-- **Loading a file** gives a template or a failure that names the file; save for a null character in the path, an
integer of more digits than are converted, or one beyond the doubles -/
theorem load_cases (files : Files) (p : Path) :
    (∃ t, load files p = .ok t) ∨ (∃ f, load files p = .error f ∧ NamesFile p f) ∨
      (load files p = .error .nullInPath ∧ ∃ name ∈ p.parts, '\x00' ∈ name.toList) ∨
      ∃ cs, files.text p = .ok cs ∧
        ((∃ n, load files p = .error (.tooManyDigits n) ∧ Json.HasLongRun n cs) ∨
          load files p = .error .integerTooLarge ∧
            ∃ payload n, Json.parseChars cs = .ok payload ∧ payload.HasInteger n ∧ Binary64.beyondAll ≤ n.natAbs) := by
  unfold load
  cases htext : files.text p with
  | error f =>
    cases f with
    | nullInPath => exact .inr (.inr (.inl ⟨rfl, Files.text_eq_nullInPath htext⟩))
    | _ => exact .inr (.inl (refuseFile_namesFile p _))
  | ok cs =>
    rcases Json.parseChars_cases cs with ⟨payload, hparse, -⟩ | ⟨n, hparse, hrun⟩ | ⟨fault, place, hparse⟩
    · simp only [hparse]
      rcases ofDocument_cases p payload with hread | hnamed | ⟨hlarge, n, hinteger, hbeyond⟩
      · exact .inl hread
      · exact .inr (.inl hnamed)
      · exact .inr (.inr (.inr ⟨cs, rfl, .inr ⟨hlarge, payload, n, hparse, hinteger, hbeyond⟩⟩))
    · simp only [hparse]
      exact .inr (.inr (.inr ⟨cs, rfl, .inl ⟨n, rfl, hrun⟩⟩))
    · simp only [hparse]
      exact .inr (.inl (refuseFile_namesFile p _))

/-- a margin of one and 309 zeros -/
def Sample.wide : Files :=
  let start := "\x7b\"id\": \"t\", \"config\": \x7b\"margins\": \x7b\"top\": 1"
  let text := start ++ String.ofList (List.replicate 309 '0') ++ "\x7d\x7d\x7d"
  ⟨.directory [("wide.json", .file text.toUTF8)], ⟨1, []⟩⟩

def Sample.path : Path := .relative ["wide.json"]

theorem load_beyond : load Sample.wide Sample.path = .error .integerTooLarge ∧
    ¬ NamesFile Sample.path .integerTooLarge := by
  have hend : (match load Sample.wide Sample.path with
      | .error .integerTooLarge => true
      | _ => false) = true := by
    rw [load, Files.text_eq]
    decide +kernel
  generalize load Sample.wide Sample.path = r at hend ⊢
  split at hend
  · refine ⟨rfl, ?_⟩
    rintro ⟨cause, hfault, -⟩
    cases hfault
  · cases hend

end Template

end ReportPress
