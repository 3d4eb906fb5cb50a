import ReportPress.Proofs.Document.Prepare
/-!
Fonts from files. What becomes of a font is told by what is found at its path, and by whether there is a font of its
family already: built in, or from a file before it. A missing file, and one that cannot be opened, are left out with a
note. Two failures are not let off, and no document is begun: an ending that no font file has, and a file that is no
font.

- `Files.fontFile`: what is found at a path. `fontFates`: what becomes of the fonts, in the order of the settings.
- `addFont_fate`: the step, one font. `registerFonts_run`: all of them, by induction on the fonts.
- `render_fonts`: a rendering goes on with the fonts that are kept just if none of them stops it.
  `one_bad_font_refuses` is a rendering that is stopped.
-/

namespace ReportPress

/-! ## What becomes of a font -/

/-- what is found at the path of a font -/
inductive FontFile where
  /-- a name with an ending that font files do not have -/
  | alien (ending : String)
  | missing
  | unreadable (fault : FileFault)
  /-- a file that is no font -/
  | broken
  | sound (m : Font.Metrics)

def FontFile.isSound : FontFile → Bool
  | .sound _ => true
  | _ => false

def Files.fontFile (files : Files) (path : Path) : FontFile :=
  let ending := Text.lower (Path.extension path.text)
  if !Canvas.fontEndings.contains ending then .alien ending
  else if !files.exists? (Path.ofString path.text) then .missing
  else
    match files.read (Path.ofString path.text) with
    | .error fault => .unreadable fault
    | .ok octets =>
      match Font.TrueType.read? octets with
      | some m => .sound m
      | none => .broken

/-- what becomes of a font -/
inductive FontFate where
  | kept
  | leftOut (f : Failure)
  | stops (f : Failure)

namespace FontFate

/-- nothing is read from a file whose family there is a font of already -/
def ofFile (path : String) (known : Bool) : FontFile → FontFate
  | .alien ending => .stops (.fontExtension ending)
  | .missing => .leftOut (.fontMissing path)
  | .unreadable fault => if known then .kept else .leftOut (.file fault path)
  | .broken => if known then .kept else .stops .fontUnreadable
  | .sound _ => .kept

def stop? : FontFate → Option Failure
  | .stops f => some f
  | _ => none

def isKept : FontFate → Bool
  | .kept => true
  | _ => false

/-- what is told of a font that is left out -/
def note? (font : String × Path) : FontFate → Option Note
  | .leftOut f => some (Renderer.leftOutNote font f)
  | _ => none

end FontFate

/-- there is a font of the family, built in or from one of the files before -/
def isKnownFamily (files : Files) (before : List (String × Path)) (family : String) : Bool :=
  Canvas.isBuiltIn (Text.lower family, "") ||
    before.any fun font => Text.lower font.1 == Text.lower family && (files.fontFile font.2).isSound

/-- the fonts with what becomes of them; `before` are those that came earlier -/
def fontFates (files : Files) : (before fonts : List (String × Path)) → List ((String × Path) × FontFate)
  | _, [] => []
  | before, font :: rest =>
    (font, .ofFile font.2.text (isKnownFamily files before font.1) (files.fontFile font.2)) ::
      fontFates files (before ++ [font]) rest

/-- the families that are kept -/
def keptFamilies (fates : List ((String × Path) × FontFate)) : List String :=
  (fates.filter (·.2.isKept)).map (·.1.1)

/-- the failure of the first font that stops a rendering -/
def firstStop? (fates : List ((String × Path) × FontFate)) : Option Failure := fates.findSome? (·.2.stop?)

/-- what is told of the fonts left out, as far as they are come to -/
def fontNotes (fates : List ((String × Path) × FontFate)) : List Note :=
  (fates.takeWhile (·.2.stop?.isNone)).filterMap fun x => x.2.note? x.1

/-- what registering the fonts ends with -/
def fontOutcome (fates : List ((String × Path) × FontFate)) : Except Failure (List String) :=
  match firstStop? fates with
  | none => .ok (keptFamilies fates)
  | some f => .error f

section Cons

variable (font : String × Path) (f : Failure) (rest : List ((String × Path) × FontFate))

theorem fontOutcome_kept : fontOutcome ((font, .kept) :: rest) = (fontOutcome rest).map (font.1 :: ·) := by
  have hstop : firstStop? ((font, .kept) :: rest) = firstStop? rest := rfl
  unfold fontOutcome
  rw [hstop]
  cases firstStop? rest <;> rfl

theorem fontOutcome_leftOut : fontOutcome ((font, .leftOut f) :: rest) = fontOutcome rest := rfl

theorem fontOutcome_stops : fontOutcome ((font, .stops f) :: rest) = .error f := rfl

theorem fontNotes_kept : fontNotes ((font, .kept) :: rest) = fontNotes rest := rfl

theorem fontNotes_leftOut :
    fontNotes ((font, .leftOut f) :: rest) = Renderer.leftOutNote font f :: fontNotes rest := rfl

theorem fontNotes_stops : fontNotes ((font, .stops f) :: rest) = [] := rfl

end Cons

/-! ## One font -/

namespace Canvas

/-- the surface has a font of the family -/
def hasFamily (c : Canvas) (family : String) : Bool :=
  isBuiltIn (Text.lower family, "") || (c.fonts.lookup (Text.lower family)).isSome

theorem addFont_eq (c : Canvas) (files : Files) (family : String) (path : Path) :
    c.addFont files family path.text = match files.fontFile path with
      | .alien ending => .error (.fontExtension ending)
      | .missing => .error (.fontMissing path.text)
      | .unreadable fault =>
        if c.hasFamily family then .ok (c.record (.addFont family)) else .error (.file fault path.text)
      | .broken => if c.hasFamily family then .ok (c.record (.addFont family)) else .error .fontUnreadable
      | .sound m =>
        if c.hasFamily family then .ok (c.record (.addFont family))
        else .ok ({ c with fonts := c.fonts ++ [(Text.lower family, m)] }.record (.addFont family)) := by
  unfold addFont Files.fontFile hasFamily
  dsimp only
  split
  · rfl
  · split
    · rfl
    · cases files.read (Path.ofString path.text) with
      | error fault => rfl
      | ok octets =>
        dsimp only
        cases Font.TrueType.read? octets with
        | none => rfl
        | some m => rfl

/-- the families of a surface with one font more -/
theorem hasFamily_append (c : Canvas) (family : String) (m : Font.Metrics) (g : String) :
    ({ c with fonts := c.fonts ++ [(Text.lower family, m)] } : Canvas).hasFamily g =
      (c.hasFamily g || Text.lower family == Text.lower g) := by
  have hlast : ([(Text.lower family, m)].lookup (Text.lower g)).isSome = (Text.lower family == Text.lower g) := by
    rw [List.lookup_cons, List.lookup_nil, BEq.comm]
    split
    · next h => rw [h]; rfl
    · next h => rw [h]; rfl
  unfold hasFamily
  dsimp only
  rw [List.lookup_append, Option.isSome_or, hlast, Bool.or_assoc]

end Canvas

/-- the families of a surface are the built-in ones and those of the sound files among `before` -/
def Canvas.Holds (c : Canvas) (files : Files) (before : List (String × Path)) : Prop :=
  ∀ family, c.hasFamily family = isKnownFamily files before family

theorem isKnownFamily_concat (files : Files) (before : List (String × Path)) (font : String × Path) (family : String) :
    isKnownFamily files (before ++ [font]) family =
      (isKnownFamily files before family ||
        Text.lower font.1 == Text.lower family && (files.fontFile font.2).isSound) := by
  unfold isKnownFamily
  rw [List.any_append, List.any_cons, List.any_nil, Bool.or_false, Bool.or_assoc]

namespace Canvas.Holds

variable {c : Canvas} {files : Files} {before : List (String × Path)}

/-- a font that brings nothing new: its file is not sound, or its family is known -/
theorem concat_same (h : c.Holds files before) (font : String × Path)
    (hnew : (files.fontFile font.2).isSound = true → isKnownFamily files before font.1 = true) :
    c.Holds files (before ++ [font]) := by
  intro family
  rw [isKnownFamily_concat, h family]
  cases hsound : (files.fontFile font.2).isSound with
  | false => rw [Bool.and_false, Bool.or_false]
  | true =>
    cases hsame : Text.lower font.1 == Text.lower family with
    | false => rw [Bool.false_and, Bool.or_false]
    | true =>
      have hknown : isKnownFamily files before family = isKnownFamily files before font.1 := by
        unfold isKnownFamily
        rw [beq_iff_eq.1 hsame]
      rw [hknown, hnew hsound]
      rfl

theorem record (h : c.Holds files before) (call : Call) : (c.record call).Holds files before := h

end Canvas.Holds

/-- how registering a font ends on a surface, by what becomes of the font -/
inductive Canvas.AddsFont (c : Canvas) (files : Files) (before : List (String × Path)) (font : String × Path) :
    FontFate → Prop where
  | kept {d : Canvas} (hadd : c.addFont files font.1 font.2.text = .ok d) (h : d.Holds files (before ++ [font])) :
      AddsFont c files before font .kept
  | leftOut {f : Failure} (hadd : c.addFont files font.1 font.2.text = .error f) (hfault : f.isFileFault = true)
      (h : c.Holds files (before ++ [font])) : AddsFont c files before font (.leftOut f)
  | stops {f : Failure} (hadd : c.addFont files font.1 font.2.text = .error f)
      (hfault : (f.isFileFault || f.isDrawingFault) = false) : AddsFont c files before font (.stops f)

/-- **One font** ends as what is found at its path tells -/
theorem addFont_fate {c : Canvas} {files : Files} {before : List (String × Path)} (h : c.Holds files before)
    (font : String × Path) : c.AddsFont files before font
      (.ofFile font.2.text (isKnownFamily files before font.1) (files.fontFile font.2)) := by
  have hadd := c.addFont_eq files font.1 font.2
  rw [h font.1] at hadd
  cases hknown : isKnownFamily files before font.1 with
  | true =>
    have hsame := h.concat_same font fun _ => hknown
    rw [hknown] at hadd
    cases hfile : files.fontFile font.2 with
    | alien ending =>
      rw [hfile] at hadd
      exact .stops hadd rfl
    | missing =>
      rw [hfile] at hadd
      exact .leftOut hadd rfl hsame
    | _ =>
      -- a file that is found is not opened: there is a font of its family already
      rw [hfile] at hadd
      exact .kept hadd (hsame.record _)
  | false =>
    rw [hknown] at hadd
    cases hfile : files.fontFile font.2 with
    | alien ending =>
      rw [hfile] at hadd
      exact .stops hadd rfl
    | missing =>
      rw [hfile] at hadd
      exact .leftOut hadd rfl (h.concat_same font (hfile ▸ nofun))
    | unreadable fault =>
      rw [hfile] at hadd
      exact .leftOut hadd rfl (h.concat_same font (hfile ▸ nofun))
    | broken =>
      rw [hfile] at hadd
      exact .stops hadd rfl
    | sound m =>
      rw [hfile] at hadd
      refine .kept hadd (Canvas.Holds.record (fun family => ?_) (.addFont font.1))
      rw [Canvas.hasFamily_append, isKnownFamily_concat, h family, hfile, FontFile.isSound, Bool.and_true]

namespace Renderer

/-! ## All fonts -/

/-- **Registering fonts** ends with the families that are kept, or with the failure of the first font that is not let
off; what was left out on the way is told -/
theorem registerFonts_run {files : Files} {before : List (String × Path)} (fonts : List (String × Path)) {w : Work}
    (h : w.canvas.Holds files before) :
    ∃ v, (registerFonts files fonts).run.run w = (fontOutcome (fontFates files before fonts), v) ∧
      v.notes = w.notes ++ fontNotes (fontFates files before fonts) ∧
      (firstStop? (fontFates files before fonts) = none → v.canvas.Holds files (before ++ fonts)) := by
  -- a font that was come to counts among those before, whatever became of it
  induction fonts generalizing before w with
  | nil => exact ⟨w, rfl, (List.append_nil _).symm, fun _ => by rwa [List.append_nil]⟩
  | cons font rest ih =>
    have hstep := addFont_fate h font
    rw [fontFates, List.append_cons before font rest]
    generalize FontFate.ofFile font.2.text (isKnownFamily files before font.1) (files.fontFile font.2) = fate at hstep ⊢
    cases hstep with
    | kept hadd hholds =>
      rename_i d
      obtain ⟨v, hrun, hnotes, hafter⟩ := ih (w := { w with canvas := d }) hholds
      refine ⟨v, ?_, ?_, hafter⟩
      · rw [registerFonts_cons, hadd]
        dsimp only
        rw [hrun, fontOutcome_kept]
      · rw [hnotes, fontNotes_kept]
    | leftOut hadd hfault hholds =>
      rename_i f
      obtain ⟨v, hrun, hnotes, hafter⟩ := ih (w := { w with notes := w.notes ++ [leftOutNote font f] }) hholds
      refine ⟨v, ?_, ?_, hafter⟩
      · rw [registerFonts_cons, hadd]
        dsimp only
        rw [hfault, Bool.true_or, if_pos rfl, hrun, fontOutcome_leftOut]
      · rw [fontNotes_leftOut, List.append_cons]
        exact hnotes
    | stops hadd hfault =>
      refine ⟨w, ?_, ?_, nofun⟩
      · rw [registerFonts_cons, hadd]
        dsimp only
        rw [hfault, if_neg Bool.false_ne_true, fontOutcome_stops]
      · rw [fontNotes_stops, List.append_nil]

/-! ## A rendering -/

/-- choosing the default font takes back nothing that was told -/
theorem chooseFont_notes (t : Template) (w : Work) : w.notes <+: ((chooseFont t).run.run w).2.notes := by
  unfold chooseFont
  dsimp only
  rw [Painting.orElse, Effect.run_tryCatch, Effect.run_bind, Painting.run_draw]
  cases w.canvas.setFont (preferredFamily t) "" (t.config.fonts.size "body" defaultFontSize) with
  | ok c => exact List.prefix_rfl
  | error f =>
    dsimp only
    split
    · refine Effect.bind_rel (R := fun u v : Work => u.notes <+: v.notes) List.IsPrefix.trans
        (List.prefix_append ..) fun _ u => ?_
      refine Effect.bind_rel (R := fun u v : Work => u.notes <+: v.notes) List.IsPrefix.trans ?_
        fun _ v => List.prefix_rfl
      rw [Painting.run_draw]
      split
      · exact List.prefix_rfl
      · exact List.prefix_rfl
    · exact List.prefix_rfl

/-- a new surface has the built-in families -/
theorem newCanvas_holds (files : Files) (t : Template) : (newCanvas t).Holds files [] := by
  intro family
  unfold Canvas.hasFamily isKnownFamily
  rfl

/-- **Fonts and renderings.** If no font stops it, the document is prepared with just the families that are kept, each
of which the surface has, each font left out is told, and the rendering goes on to lay it out. If a font does stop it,
no document is begun. -/
theorem render_fonts (r : Renderer) (t : Template) (record : Value) :
    (firstStop? (fontFates r.files [] r.settings.fontFiles) = none ∧
      ∃ j w, (r.prepare t).run.run { canvas := newCanvas t } = (.ok j, w) ∧ r.render t record = layOut j w record ∧
        j.Ready w ∧ j.fileFamilies = keptFamilies (fontFates r.files [] r.settings.fontFiles) ∧
        (∀ family, w.canvas.hasFamily family = isKnownFamily r.files r.settings.fontFiles family) ∧
        fontNotes (fontFates r.files [] r.settings.fontFiles) <+: w.notes) ∨
      ∃ f, firstStop? (fontFates r.files [] r.settings.fontFiles) = some f ∧
        r.render t record = .refused f (fontNotes (fontFates r.files [] r.settings.fontFiles)) := by
  obtain ⟨u, hrun, hnotes, hholds⟩ := registerFonts_run r.settings.fontFiles
    (w := { canvas := newCanvas t }) (newCanvas_holds r.files t)
  have hregisters := registerFonts_registers r.files r.settings.fontFiles { canvas := newCanvas t }
  rw [hrun] at hregisters
  rw [fontOutcome] at hrun
  cases hstop : firstStop? (fontFates r.files [] r.settings.fontFiles) with
  | none =>
    rw [hstop] at hrun
    have hu : u.canvas.family = "" := congrArg Prod.fst hregisters.face
    obtain ⟨family, v, hchoose, hnamed, hface, hknows, hdraws⟩ := chooseFont_succeeds t hu
    have hprepare : (r.prepare t).run.run { canvas := newCanvas t } =
        (.ok ⟨t, r.settings, r.assets, family, keptFamilies (fontFates r.files [] r.settings.fontFiles), r.library⟩,
          v) := by
      unfold prepare
      rw [Effect.run_bind, hrun]
      dsimp only
      rw [Effect.run_bind, hchoose]
      rfl
    refine .inl ⟨rfl, _, v, hprepare, ?_, ⟨hface, hnamed, hknows⟩, rfl, fun g => ?_, ?_⟩
    · unfold render
      rw [hprepare]
    · unfold Canvas.hasFamily
      rw [hdraws.canvas.fonts]
      exact hholds hstop g
    · have hprefix := chooseFont_notes t u
      rw [hchoose, hnotes] at hprefix
      exact hprefix
  | some f =>
    rw [hstop] at hrun
    have hprepare : (r.prepare t).run.run { canvas := newCanvas t } = (.error f, u) := by
      unfold prepare
      rw [Effect.run_bind, hrun]
    refine .inr ⟨f, rfl, ?_⟩
    unfold render
    rw [hprepare]
    exact congrArg (Outcome.refused f) hnotes

namespace Fonts.Sample

def plain : Template := ⟨"t", "t", {}, [], {}, "", none, "", "1.0.0", true⟩

/-- a renderer with a font in an empty file -/
def emptyFile (name : String) : Renderer :=
  { settings := { fontFiles := [("x", .relative [name])] }
    files := ⟨.directory [(name, .file .empty)], ⟨1, []⟩⟩
    assets := { fetchers := { web := fun _ => .silence } } }

def isRefusedFor (test : Failure → Bool) : Outcome → Bool
  | .refused f _ => test f
  | _ => false

/-- an outcome that is told by a test of its failure -/
theorem refused_of_test {o : Outcome} {f : Failure} (test : Failure → Bool) (htest : ∀ g, test g = true → g = f)
    (h : isRefusedFor test o = true) : ∃ notes, o = .refused f notes := by
  cases o with
  | refused g notes => exact ⟨notes, by rw [htest g h]⟩
  | _ => cases h

end Fonts.Sample

/-- an empty file is no font, and a file of another kind is not even looked at: either stops the rendering -/
theorem one_bad_font_refuses :
    (∃ notes, (Fonts.Sample.emptyFile "font.ttf").render Fonts.Sample.plain .null = .refused .fontUnreadable notes) ∧
      ∃ notes, (Fonts.Sample.emptyFile "font.xyz").render Fonts.Sample.plain .null =
        .refused (.fontExtension ".xyz") notes := by
  constructor
  · refine Fonts.Sample.refused_of_test (fun | .fontUnreadable => true | _ => false) (fun g hg => ?_)
      (by decide +kernel)
    split at hg
    · rfl
    · cases hg
  · refine Fonts.Sample.refused_of_test (fun | .fontExtension ending => ending == ".xyz" | _ => false) (fun g hg => ?_)
      (by decide +kernel)
    split at hg
    · rw [beq_iff_eq.1 hg]
    · cases hg

end Renderer

end ReportPress
