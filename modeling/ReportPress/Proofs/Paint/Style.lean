import ReportPress.Proofs.Paint.BoundText
import ReportPress.Proofs.Paint.Colour
import ReportPress.Proofs.Paint.Legible
/-!
Styles of texts. Applying a style works out a font size and a colour, chooses the font and sets the colour, and may fail
at each of these steps. A style is let off for failures about a value and for fonts that are not known; the default style
is applied in its place, and the text is painted. What a style is not let off for is a number too large for a double: a
font size, a component of a colour that is an infinity, or one whose 255th is beyond the doubles. Then the text is lost.

- `Overrun`: the numbers that a style is not let off for.
- `applyStyle_ok`, `applyStyle_error`: how applying a style ends. `overrun_run`: an overrun ends it, with its failure.
- `styleText_succeeds`, `styleText_default`: any other style is applied, or else the default one.
- `writeText_succeeds`: a text whose style is seen to is painted, if it can be shown. `shows_latin`: without fonts from
  files that is so for every text, reduced to Latin-1.
- `render_text`: a text component has its entry, or overruns. `huge_size_loses_text`: one that overruns.
-/

namespace ReportPress

open Binary64 (beyondAll)

/-- a value is a number, or a style is let off for it, or it is an integer beyond the doubles -/
theorem Value.toNumber_cases (v : Value) :
    (∃ x, v.toNumber = .ok x) ∨ (∃ f, v.toNumber = .error f ∧ f.isStyleFault = true) ∨
      ∃ n, v = .int n ∧ beyondAll ≤ n.natAbs ∧ v.toNumber = .error .integerTooLarge := by
  cases v with
  | int n =>
    rcases Nat.lt_or_ge n.natAbs beyondAll with hwithin | hbeyond
    · obtain ⟨b, hb⟩ := Binary64.read_ofInt hwithin
      exact .inl ⟨_, Failure.unlessFinite_of_finite hb⟩
    · exact .inr (.inr ⟨n, rfl, hbeyond, Failure.unlessFinite_of_infinite (Binary64.read_ofInt_beyond hbeyond)⟩)
  | string s =>
    unfold toNumber
    dsimp only
    cases Numeral.readFloat s with
    | some x => exact .inl ⟨x, rfl⟩
    | none => exact .inr (.inl ⟨_, rfl, rfl⟩)
  | bool b => exact .inl ⟨_, rfl⟩
  | float x => exact .inl ⟨x, rfl⟩
  | _ => exact .inr (.inl ⟨_, rfl, rfl⟩)

namespace Paint

open Painting

variable {j : Job} {c : Component} {s : Spot} {w v : Work} {f : Failure}

/-! ## The steps of a style -/

/-- the size of the font of a text -/
def fontSize (j : Job) (c : Component) : Except Failure Float :=
  styleNumber (c.style.getD "fontSize") (((namedFont j c.style).map (·.size)).getD defaultFontSize)

/-- the entry for the colour of a text: its own, or else that of the font it names -/
def colourEntry (j : Job) (c : Component) : Value :=
  entryOr (c.style.getD "color") ((namedFont j c.style).bind (·.colour))

/-- the family and the style of the font of a text -/
def requestedFont (j : Job) (c : Component) : String × String :=
  (Text.lower (entryOr (c.style.getD "fontFamily") (some (((namedFont j c.style).map (·.family)).getD j.family))).bare,
    Font.styleOf (entryOr (c.style.getD "fontWeight") ((namedFont j c.style).bind (·.weight))))

/-- applying a style is working out a size and a colour, and then choosing the font and setting the colour -/
theorem applyStyle_eq (j : Job) (c : Component) (s : Spot) :
    applyStyle j c s = (do
      let size ← Painting.ofExcept (fontSize j c)
      let colour ← Painting.ofExcept (j.colour (colourEntry j c) s (some .black))
      draw (·.setFont (requestedFont j c).1 (requestedFont j c).2 size)
      draw (·.setTextColour (colour.getD .black))
      return size) := by
  dsimp only [applyStyle, fontSize, colourEntry, requestedFont]

/-- the numbers that a style is not let off for, with the failures that come of them: a font size or a component of the
colour that is beyond the doubles. A component is looked at when the font has been chosen -/
inductive Overrun (j : Job) (c : Component) (s : Spot) (canvas : Canvas) : Failure → Prop
  | size {n : ℤ} (hentry : c.style.getD "fontSize" = .int n) (hbeyond : beyondAll ≤ n.natAbs) :
      Overrun j c s canvas .integerTooLarge
  | infinite {size : Float} {v : Value} (hsize : fontSize j c = .ok size)
      (hcolour : Record.styleValue j.palette (colourEntry j c) s.scope s.index = .ok v) (hover : Rgb.Overflows v) :
      Overrun j c s canvas .infiniteInteger
  | component {size : Float} {colour : Option Rgb} {d : Canvas} {n : ℤ} (hsize : fontSize j c = .ok size)
      (hcolour : j.colour (colourEntry j c) s (some .black) = .ok colour)
      (hfont : canvas.setFont (requestedFont j c).1 (requestedFont j c).2 size = .ok d)
      (hn : n ∈ Canvas.looked (colour.getD .black)) (hvast : Canvas.IsVast n) : Overrun j c s canvas .quotientTooLarge

theorem Overrun.not_isStyleFault {canvas : Canvas} (h : Overrun j c s canvas f) : f.isStyleFault = false := by
  cases h <;> rfl

/-- an integer beyond the doubles fills its entry, and is no font size -/
theorem fontSize_beyond {n : ℤ} (hentry : c.style.getD "fontSize" = .int n) (hbeyond : beyondAll ≤ n.natAbs) :
    fontSize j c = .error .integerTooLarge := by
  have hpos := Binary64.bits_at_beyondAll.1
  have hfilled : (Value.int n).filled = true := bne_iff_ne.2 (by omega)
  unfold fontSize styleNumber
  rw [hentry, if_pos hfilled]
  exact Failure.unlessFinite_of_infinite (Binary64.read_ofInt_beyond hbeyond)

theorem fontSize_error (h : fontSize j c = .error f) :
    f.isStyleFault = true ∨ ∀ canvas, Overrun j c s canvas f := by
  unfold fontSize styleNumber at h
  split at h
  · rcases Value.toNumber_cases (c.style.getD "fontSize") with ⟨x, hx⟩ | ⟨g, hg, hfault⟩ | ⟨n, hentry, hbeyond, hn⟩
    · rw [hx] at h
      cases h
    · rw [hg] at h
      cases h
      exact .inl hfault
    · rw [hn] at h
      cases h
      exact .inr fun canvas => .size hentry hbeyond
  · cases h

theorem draws_of_keeps {d : Canvas} (h : w.canvas.Keeps d) : Work.Draws w { w with canvas := d } := ⟨h, rfl, rfl⟩

theorem applyStyle_ok {size : Float} (h : (applyStyle j c s).run.run w = (.ok size, v)) : Work.Draws w v := by
  rw [applyStyle_eq] at h
  obtain ⟨size', w₁, hsize, h⟩ := Effect.run_bind_eq_ok h
  obtain ⟨-, rfl⟩ := ofExcept_eq hsize
  obtain ⟨colour, w₂, hcolour, h⟩ := Effect.run_bind_eq_ok h
  obtain ⟨-, rfl⟩ := ofExcept_eq hcolour
  obtain ⟨_, w₃, hfont, h⟩ := Effect.run_bind_eq_ok h
  obtain ⟨d, hd, rfl⟩ := draw_eq_ok hfont
  obtain ⟨_, w₄, htext, h⟩ := Effect.run_bind_eq_ok h
  obtain ⟨e, he, rfl⟩ := draw_eq_ok htext
  cases h
  exact (draws_of_keeps (Canvas.keeps_setFont hd)).trans (draws_of_keeps (Canvas.keeps_textColour he))

/-- **Applying a style** fails with something that it is let off for, or with an overrun -/
theorem applyStyle_error (h : (applyStyle j c s).run.run w = (.error f, v)) :
    Work.Draws w v ∧ (f.isStyleFault = true ∨ Overrun j c s w.canvas f) := by
  rw [applyStyle_eq] at h
  obtain hsize | ⟨size, w₁, hsize, h⟩ := Effect.run_bind_eq_error h
  · obtain ⟨hfails, rfl⟩ := ofExcept_eq hsize
    exact ⟨.refl w, (fontSize_error hfails).imp_right fun hover => hover w.canvas⟩
  obtain ⟨hsized, rfl⟩ := ofExcept_eq hsize
  obtain hcolour | ⟨colour, w₂, hcolour, h⟩ := Effect.run_bind_eq_error h
  · obtain ⟨hfails, rfl⟩ := ofExcept_eq hcolour
    refine ⟨.refl w, ?_⟩
    rcases (j.colour_error _ s).1 hfails with ⟨-, htoken⟩ | ⟨x, hx, hover, rfl⟩
    · exact .inl htoken.isStyleFault
    · exact .inr (.infinite hsized hx hover)
  obtain ⟨hcoloured, rfl⟩ := ofExcept_eq hcolour
  obtain hfont | ⟨_, w₃, hfont, h⟩ := Effect.run_bind_eq_error h
  · obtain ⟨hfails, rfl⟩ := draw_eq_error hfont
    obtain ⟨-, rfl⟩ := Canvas.setFont_eq_error hfails
    exact ⟨.refl w, .inl rfl⟩
  obtain ⟨d, hd, rfl⟩ := draw_eq_ok hfont
  have hdraws := draws_of_keeps (Canvas.keeps_setFont hd)
  obtain htext | ⟨_, w₄, -, h⟩ := Effect.run_bind_eq_error h
  · obtain ⟨hfails, rfl⟩ := draw_eq_error htext
    refine ⟨hdraws, ?_⟩
    rcases Canvas.checkColour_cases (colour.getD .black) with ⟨⟨n, hn, hvast⟩, hc⟩ | ⟨-, ⟨-, hc⟩ | ⟨-, x, hc⟩⟩
    · cases hc.symm.trans (Effect.except_map_eq_error hfails)
      exact .inr (.component hsized hcoloured hd hn hvast)
    · cases hc.symm.trans (Effect.except_map_eq_error hfails)
    · cases hc.symm.trans (Effect.except_map_eq_error hfails)
      exact .inl rfl
  · cases h

/-- **An overrun** ends a style with its failure -/
theorem overrun_run (h : Overrun j c s w.canvas f) :
    ∃ v, (applyStyle j c s).run.run w = (.error f, v) ∧ Work.Draws w v := by
  have hrun : ∃ v, (applyStyle j c s).run.run w = (.error f, v) := by
    rw [applyStyle_eq, Effect.run_bind]
    cases h with
    | size hentry hbeyond =>
      rw [fontSize_beyond hentry hbeyond]
      exact ⟨w, rfl⟩
    | infinite hsize hcolour hover =>
      have hfails : j.colour (colourEntry j c) s (some .black) = .error .infiniteInteger :=
        (j.colour_error _ s).2 (.inr ⟨_, hcolour, hover, rfl⟩)
      rw [hsize, hfails]
      exact ⟨w, rfl⟩
    | @component size colour d n hsize hcolour hfont hn hvast =>
      have hfails : d.setTextColour (colour.getD .black) = .error .quotientTooLarge := by
        rcases Canvas.checkColour_cases (colour.getD .black) with ⟨-, hc⟩ | ⟨hno, -⟩
        · rw [Canvas.setTextColour, hc]
          rfl
        · exact absurd hvast (hno n hn)
      rw [hsize]
      change ∃ v, (Painting.ofExcept (j.colour (colourEntry j c) s (some .black)) >>= _).run.run w = (_, v)
      rw [Effect.run_bind, hcolour]
      change ∃ v, (draw (·.setFont (requestedFont j c).1 (requestedFont j c).2 size) >>= _).run.run w = (_, v)
      rw [Effect.run_bind, run_draw, hfont]
      dsimp only
      rw [Effect.run_bind, run_draw, hfails]
      exact ⟨_, rfl⟩
  obtain ⟨v, hv⟩ := hrun
  exact ⟨v, hv, (applyStyle_error hv).1⟩

/-! ## The style of a text -/

/-- the default style can always be applied: its family is built in, and black is in range -/
theorem applyDefaultStyle_succeeds (w : Work) :
    Succeeds w applyDefaultStyle fun size v => size = defaultFontSize ∧ Work.Draws w v ∧
      v.canvas.face = (defaultFamily, "") ∧
      v.canvas.calls = w.canvas.calls ++ [.font defaultFamily "" defaultFontSize, .textColour .black] := by
  have hhand : w.canvas.faceFor defaultFamily "" = w.canvas.face → w.canvas.HasFace := by
    intro hface
    rw [Canvas.HasFace, ← hface]
    exact w.canvas.knows_default
  obtain ⟨-, d, hd, hface, hkeeps⟩ | ⟨hno, -⟩ := Canvas.setFont_spec hhand defaultFontSize
  · refine (Succeeds.draw hd hkeeps).bind fun _ v₁ h₁ => ?_
    obtain ⟨rfl, hfont⟩ := h₁
    have hblack : Succeeds v₁ (draw (·.setTextColour .black)) fun _ u =>
        u.canvas = v₁.canvas.record (.textColour .black) ∧ Work.Draws v₁ u :=
      .draw (Canvas.setTextColour_of_inRange Rgb.inRange_black) (Canvas.keeps_record ..)
    refine hblack.bind fun _ v₂ h₂ => ?_
    obtain ⟨hcanvas, hcolour⟩ := h₂
    refine .pure ⟨rfl, hfont.trans hcolour, ?_, ?_⟩
    · rw [hcanvas]
      exact hface.trans w.canvas.faceFor_default
    · rw [hcanvas]
      show v₁.canvas.calls ++ [_] = _
      rw [Canvas.setFont_calls hd, List.append_assoc]
      rfl
  · exact absurd w.canvas.knows_default hno

/-- **A style that is let off** for its failure is replaced: the default family, upright, the default size and black -/
theorem styleText_default (h : (applyStyle j c s).run.run w = (.error f, v)) (hf : f.isStyleFault = true) :
    Succeeds w (styleText j c s) fun size u => size = defaultFontSize ∧ Work.Draws v u ∧
      u.canvas.face = (defaultFamily, "") ∧
      u.canvas.calls = v.canvas.calls ++ [.font defaultFamily "" defaultFontSize, .textColour .black] := by
  unfold styleText
  apply Succeeds.recovered h hf
  have hnoted : Succeeds v (warn .painting
      ("Style for " ++ c.id ++ " could not be applied (" ++ f.message ++ "); using defaults"))
      fun _ u => u.canvas = v.canvas ∧ Work.Draws v u := ⟨(), _, rfl, rfl, .refl _, rfl, rfl⟩
  refine hnoted.bind fun _ u₁ h₁ => (applyDefaultStyle_succeeds u₁).imp fun size u₂ h₂ => ?_
  obtain ⟨hcanvas, hdraws⟩ := h₁
  obtain ⟨hsize, hdraws', hface, hcalls⟩ := h₂
  exact ⟨hsize, hdraws.trans hdraws', hface, by rw [hcalls, hcanvas]⟩

/-- **A style without an overrun** is applied, or else the default one is -/
theorem styleText_succeeds (h : ∀ f, ¬ Overrun j c s w.canvas f) :
    Succeeds w (styleText j c s) fun _ v => Work.Draws w v := by
  rcases hrun : (applyStyle j c s).run.run w with ⟨f | size, v⟩
  · obtain ⟨hdraws, hfault | hover⟩ := applyStyle_error hrun
    · exact (styleText_default hrun hfault).imp fun _ _ hu => hdraws.trans hu.2.1
    · exact absurd hover (h f)
  · exact Succeeds.orElse ⟨size, v, hrun, applyStyle_ok hrun⟩ _ _

/-- an overrun is not let off -/
theorem styleText_overrun (h : Overrun j c s w.canvas f) :
    ∃ v, (styleText j c s).run.run w = (.error f, v) ∧ Work.Draws w v := by
  obtain ⟨v, hrun, hdraws⟩ := overrun_run h
  refine ⟨v, ?_, hdraws⟩
  rw [styleText, Painting.orElse, Effect.run_tryCatch, hrun]
  dsimp only
  rw [if_neg (by rw [h.not_isStyleFault]; exact Bool.false_ne_true)]
  rfl

/-! ## Painting the text -/

/-- the entry of a text in the trace -/
def textEntry (c : Component) (s : Spot) (page : ℕ) (shown : String) : Painted :=
  ⟨page, c.id, .text, shown, roundThousandths s.origin.x, roundThousandths s.origin.y⟩

/-- **A text whose style is seen to** is painted, if the font that is then at hand can show it as it is encoded -/
theorem writeText_succeeds (h : ∀ f, ¬ Overrun j c s w.canvas f) {text : String}
    (htext : ∀ v, Work.Draws w v → v.canvas.Shows (j.encodeIn v.canvas.family text).toList) :
    Succeeds w (writeText j c s text) fun _ v => w.canvas.Keeps v.canvas ∧ v.issues = w.issues ∧
      ∃ shown, v.trace = w.trace ++ [textEntry c s w.canvas.pages shown] := by
  refine (styleText_succeeds h).bind fun size v₁ h₁ => ?_
  have hencode : Succeeds v₁ (j.encode text) fun t v => v = v₁ ∧ v₁.canvas.Shows t.toList :=
    ⟨_, v₁, j.run_encode text v₁, rfl, htext v₁ h₁⟩
  refine hencode.bind fun t v₂ h₂ => ?_
  obtain ⟨rfl, hshows⟩ := h₂
  have hlines := linesShow_of_shows hshows
  refine (Succeeds.gauge (gauges_textLines v₂ c t) fun _ => hlines).bind fun lines v₃ h₃ => ?_
  obtain ⟨rfl, hall⟩ := h₃
  refine (paintLines_succeeds _ _ _ (hall.2 hlines)).bind fun _ v₄ h₄ => ?_
  have hblack : (Canvas.checkColour .black).isOk = true := by rw [Canvas.checkColour_of_inRange Rgb.inRange_black]; rfl
  refine (Succeeds.setTextColour hblack).bind fun _ v₅ h₅ => ?_
  have hdraws := (h₁.trans h₄).trans h₅
  refine ⟨(), _, rfl, hdraws.canvas, hdraws.issues, String.ofList (Text.join ['\n'] lines), ?_⟩
  show v₅.trace ++ [_] = _
  rw [hdraws.trace, hdraws.canvas.pages]
  rfl

/-- without fonts from files a text is reduced to Latin-1, which any font can show -/
theorem shows_latin (hcore : j.fileFamilies = []) (canvas : Canvas) (text : String) :
    canvas.Shows (j.encodeIn canvas.family text).toList := by
  rw [Job.encodeIn, hcore]
  exact canvas.shows_of_isLatin (Text.latin_isLatin text)

/-- a text whose style overruns is not painted -/
theorem writeText_overrun (h : Overrun j c s w.canvas f) (text : String) :
    ∃ v, (writeText j c s text).run.run w = (.error f, v) ∧ Work.Draws w v := by
  obtain ⟨v, hrun, hdraws⟩ := styleText_overrun h
  refine ⟨v, ?_, hdraws⟩
  rw [writeText, Effect.run_bind, hrun]

/-- once its text is known, painting a text component is showing that -/
theorem render_written (hkind : c.kind = .text) (hdecided : (decision c s).1 = .ok true) {text : String}
    (htext : componentText c s = .ok text) (hshown : Text.isBlankText text = false) (w : Work) :
    (render j c s).run.run w =
      match (writeText j c s text).run.run { w with notes := w.notes ++ (decision c s).2 } with
      | (.ok _, v) => (.ok none, v)
      | (.error f, v) => (.ok (some ⟨c.id, .text, v.canvas.pages, f⟩), v) := by
  have hpaint : paint j c s = paintText j c s := by simp only [paint, hkind]
  have hwrite : ∀ u : Work, (paintText j c s).run.run u = (writeText j c s text).run.run u := by
    intro u
    rw [paintText_eq, htext]
    show (if Text.isBlankText text = true then pure () else writeText j c s text : Painting Unit).run.run u = _
    rw [hshown, if_neg Bool.false_ne_true]
  have hrun := render_run hdecided j w
  rw [hpaint, hkind, hwrite] at hrun
  exact hrun

/-- a text whose style overruns is an issue, and has no entry -/
theorem render_overrun (hkind : c.kind = .text) (hdecided : (decision c s).1 = .ok true) {text : String}
    (htext : componentText c s = .ok text) (hshown : Text.isBlankText text = false)
    (h : Overrun j c s w.canvas f) :
    ∃ v, (render j c s).run.run w = (.ok (some ⟨c.id, .text, w.canvas.pages, f⟩), v) ∧ v.issues = w.issues ∧
      v.trace = w.trace := by
  obtain ⟨v, hrun, hdraws⟩ := writeText_overrun (w := { w with notes := w.notes ++ (decision c s).2 }) h text
  refine ⟨v, ?_, hdraws.issues, hdraws.trace⟩
  rw [render_written hkind hdecided htext hshown, hrun]
  dsimp only
  rw [hdraws.canvas.pages]

/-- **Texts and their styles.** In a job without fonts from files, a text component whose conditions hold and whose text
is not blank gives no issue and has its one entry, whatever is in its style bag, unless a number there overruns; then it
is an issue with the failure of that, and has no entry. A style that fails for anything else is replaced by the default:
the default family, upright, the default size and black -/
theorem render_text (hcore : j.fileFamilies = []) (hkind : c.kind = .text) (hdecided : (decision c s).1 = .ok true)
    {text : String} (htext : componentText c s = .ok text) (hshown : Text.isBlankText text = false) (w : Work) :
    ((∀ f, ¬ Overrun j c s w.canvas f) → ∃ v shown, (render j c s).run.run w = (.ok none, v) ∧ v.issues = w.issues ∧
        v.trace = w.trace ++ [textEntry c s w.canvas.pages shown]) ∧
      (∀ f, Overrun j c s w.canvas f → ∃ v,
        (render j c s).run.run w = (.ok (some ⟨c.id, .text, w.canvas.pages, f⟩), v) ∧ v.issues = w.issues ∧
          v.trace = w.trace) ∧
      ∀ f u, (∀ g, ¬ Overrun j c s w.canvas g) → (applyStyle j c s).run.run w = (.error f, u) →
        ∃ v, (styleText j c s).run.run w = (.ok defaultFontSize, v) ∧ v.canvas.face = (defaultFamily, "") ∧
          v.canvas.calls = u.canvas.calls ++ [.font defaultFamily "" defaultFontSize, .textColour .black] := by
  refine ⟨fun h => ?_, fun f h => render_overrun hkind hdecided htext hshown h, fun f u h hrun => ?_⟩
  · have hshows := fun (v : Work) (_ : Work.Draws { w with notes := w.notes ++ (decision c s).2 } v) =>
      shows_latin hcore v.canvas text
    obtain ⟨_, v, hrun, -, hissues, shown, htrace⟩ :=
      writeText_succeeds (w := { w with notes := w.notes ++ (decision c s).2 }) h hshows
    refine ⟨v, shown, ?_, hissues, htrace⟩
    rw [render_written hkind hdecided htext hshown, hrun]
  · have hfault := (applyStyle_error hrun).2.resolve_right (h f)
    obtain ⟨_, v, hdefault, rfl, -, hface, hcalls⟩ := styleText_default hrun hfault
    exact ⟨v, hdefault, hface, hcalls⟩

namespace Sample

/-- a text with a style of its own -/
def styled (style : Fields) : Component := { id := "remark", kind := .text, content := .string "see page", style := style }

/-- a colour whose red is out of range -/
def glaring : Component := styled [("color", .list .record [.int 300, .int 0, .int 0])]

/-- out of range, but by far not beyond the doubles -/
theorem glaring_not_overrun (f : Failure) : ¬ Overrun job glaring (spot "") page.canvas f := by
  have hentry : colourEntry job glaring = .list .record [.int 300, .int 0, .int 0] := rfl
  intro h
  cases h with
  | size hsize => exact Value.noConfusion (hsize : Value.null = .int _)
  | infinite hsize hcolour hover =>
    rw [hentry] at hcolour
    cases hcolour
    obtain ⟨_, _, _, _, _, hlist, hfound, -⟩ := hover
    cases hlist
    simp [Rgb.isTaken, Rgb.component] at hfound
  | @component size colour d n hsize hcolour hfont hn hvast =>
    have hsmall : ¬ Canvas.IsVast 300 ∧ ¬ Canvas.IsVast 0 := by
      have htwo := Binary64.bits_at_beyondAll.1
      unfold Canvas.IsVast
      omega
    rw [hentry] at hcolour
    cases hcolour
    have hmem : n ∈ [(300 : ℤ), 0, 0] := hn
    simp only [List.mem_cons, List.not_mem_nil, or_false, or_self] at hmem
    rcases hmem with rfl | rfl
    · exact hsmall.1 hvast
    · exact hsmall.2 hvast

end Sample

/-- a colour out of range does not cost the text -/
theorem render_text_sample :
    Sample.job.fileFamilies = [] ∧ Text.isBlankText "see page" = false ∧
      ∃ v shown, (render Sample.job Sample.glaring (Sample.spot "")).run.run Sample.page = (.ok none, v) ∧
        v.issues = [] ∧ v.trace = [textEntry Sample.glaring (Sample.spot "") 1 shown] := by
  have hshown : Text.isBlankText "see page" = false := by decide
  have htext : componentText Sample.glaring (Sample.spot "") = .ok "see page" :=
    Record.substitute_of_no_tokens (Record.hasTokens_of_no_brace (by decide)) _ _
  exact ⟨rfl, hshown, (render_text rfl rfl rfl htext hshown Sample.page).1 Sample.glaring_not_overrun⟩

/-- A text with a font size of four hundred digits is lost: there is an issue, and no entry -/
theorem huge_size_loses_text :
    ∃ v, (render Sample.job (Sample.styled [("fontSize", .int (10 ^ 400))]) (Sample.spot "")).run.run Sample.page =
        (.ok (some ⟨"remark", .text, 1, .integerTooLarge⟩), v) ∧ v.issues = [] ∧ v.trace = [] := by
  have hbeyond : beyondAll ≤ ((10 : ℤ) ^ 400).natAbs := by decide +kernel
  have htext : componentText (Sample.styled [("fontSize", .int (10 ^ 400))]) (Sample.spot "") = .ok "see page" :=
    Record.substitute_of_no_tokens (Record.hasTokens_of_no_brace (by decide)) _ _
  exact render_overrun rfl rfl htext (by decide) (.size rfl hbeyond)

end Paint

end ReportPress
