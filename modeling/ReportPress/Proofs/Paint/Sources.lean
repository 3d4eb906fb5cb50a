import ReportPress.Paint.Image
import ReportPress.Proofs.Paint.Remains
import ReportPress.Proofs.Record.Substitution
import ReportPress.Proofs.Text.Trim
/-!
Names of images with blanks around them. Who loads an image looks at the name without the blanks; who paints it looks for
the word for the logo, and for an empty name, in the name as it is. So a name and the name without its blanks come to the
same, unless nothing is left without the blanks, or the word for the logo: with the blanks around it an empty name is a
failure, and the word asks for the logo that was loaded in the size of any other image, or fails where there is none.

- `showing`: a component whose source is a text. `paintFrom`: painting once it is known what stands behind the source.
- `drawn?`: the call that paints an image, if it can be had. `paintFrom_effect`: all that the surface sees.
- `SameEffect`: the same calls and the same outcome. `PlainWord`: the word for the logo, taken as any other name, does
  what it does as the word.
- `paintImage_trim`: which names may have blanks around them. `padded_sources_fail`: two that may not.
-/

namespace ReportPress

/-! ## Names without blanks -/

theorem Source.ofName_trim (name : String) : Source.ofName (Text.trim name) = Source.ofName name := by
  unfold Source.ofName
  rw [Text.trim_trim]

/-- blanks around a name make no difference to what is loaded, and to who is asked for it -/
theorem Assets.load_trim (a : Assets) (earlier : List Request) (name : String) :
    a.loadAfter earlier (.string (Text.trim name)) = a.loadAfter earlier (.string name) := by
  have hseek : a.seek (.value (.string (Text.trim name))) = a.seek (.value (.string name)) := by
    unfold Assets.seek
    dsimp only
    rw [Source.ofName_trim]
  rw [loadAfter_eq, loadAfter_eq, hseek]

theorem Record.hasTokens_trim {s : String} (h : hasTokens s = false) : hasTokens (Text.trim s) = false := by
  refine Bool.eq_false_iff.2 fun htokens => Bool.eq_false_iff.1 h ?_
  obtain ⟨before, inside, after, htoken⟩ := (any_isToken_pieces _).1 htokens
  obtain ⟨b, e, hs⟩ := Text.trim_infix s
  refine (any_isToken_pieces _).2 ⟨b ++ before, inside, after ++ e, ?_, htoken.ne, htoken.closed⟩
  rw [← hs, htoken.here]
  simp

/-- the component with a text as its content, bound to nothing -/
def Component.showing (c : Component) (name : String) : Component :=
  { c with content := .string name, dataBinding := none }

namespace Paint

variable {j : Job} {c : Component} {s : Spot} {w : Work} {name : String}

theorem imageSource_showing (c : Component) (s : Spot) (h : Record.hasTokens name = false) :
    imageSource (c.showing name) s = .ok (.string name) := by
  simp only [imageSource, Component.showing, pure_bind, h]
  rfl

/-! ## Painting by source -/

/-- painting the image of a source; `asLogo` gives it the logo's size -/
def paintFrom (j : Job) (c : Component) (s : Spot) (asLogo : Bool) (source : Value) : Painting Unit := do
  let image ← Painting.load j.assets source
  let size := imageSize j c asLogo image
  Painting.draw (·.image j.library image s.origin size)
  Painting.record c.id .image s.origin (imageText source)

/-- the call that paints the image of a source after earlier requests, if the image can be had and is not turned away -/
def drawn? (j : Job) (c : Component) (s : Spot) (earlier : List Request) (asLogo : Bool) (source : Value) : Option Call :=
  match (j.assets.loadAfter earlier source).1 with
  | .ok image =>
    let size := imageSize j c asLogo image
    match j.library.check image s.origin size with
    | .ok _ => some (.image s.origin.x s.origin.y size.width size.height)
    | .error _ => none
  | .error _ => none

/-- the content and the binding of a component matter for its source only -/
theorem paintFrom_showing (name : String) (asLogo : Bool) (source : Value) :
    paintFrom j (c.showing name) s asLogo source = paintFrom j c s asLogo source := rfl

theorem drawn?_showing (name : String) (earlier : List Request) (asLogo : Bool) (source : Value) :
    drawn? j (c.showing name) s earlier asLogo source = drawn? j c s earlier asLogo source := rfl

theorem paintImage_run {named : Value} (hsource : imageSource c s = .ok named) (w : Work) :
    (paintImage j c s).run.run w = match sourceBehind j named with
      | none => (.ok (), w)
      | some source => (paintFrom j c s (isLogo named) source).run.run w := by
  unfold paintImage
  rw [Effect.run_bind, Painting.ofExcept_run, hsource]
  dsimp only
  cases sourceBehind j named with
  | none => rfl
  | some source => rfl

/-- what the surface sees of an image is the call that paints it -/
theorem paintFrom_effect (j : Job) (c : Component) (s : Spot) (asLogo : Bool) (source : Value) (w : Work) :
    ((paintFrom j c s asLogo source).run.run w).2.canvas.calls =
        w.canvas.calls ++ (drawn? j c s w.requests asLogo source).toList ∧
      ((paintFrom j c s asLogo source).run.run w).1.isOk = (drawn? j c s w.requests asLogo source).isSome := by
  unfold paintFrom drawn?
  rw [Effect.run_bind, load_run]
  cases (j.assets.loadAfter w.requests source).1 with
  | error f => exact ⟨(List.append_nil _).symm, rfl⟩
  | ok image =>
    dsimp only
    rw [Effect.run_bind, Painting.run_draw]
    unfold Canvas.image
    cases j.library.check image s.origin (imageSize j c asLogo image) with
    | error f => exact ⟨(List.append_nil _).symm, rfl⟩
    | ok u => exact ⟨rfl, rfl⟩

/-- a source by two names that are loaded alike: only the text in the trace may differ -/
theorem paintFrom_congr {asLogo : Bool} {source other : Value} {w : Work}
    (h : j.assets.loadAfter w.requests source = j.assets.loadAfter w.requests other) :
    ((paintFrom j c s asLogo source).run.run w).1 = ((paintFrom j c s asLogo other).run.run w).1 ∧
      ((paintFrom j c s asLogo source).run.run w).2 =
        { ((paintFrom j c s asLogo other).run.run w).2 with
          trace := ((paintFrom j c s asLogo source).run.run w).2.trace } := by
  unfold paintFrom
  rw [Effect.run_bind, Effect.run_bind, load_run, load_run, h]
  cases (j.assets.loadAfter w.requests other).1 with
  | error f => exact ⟨rfl, rfl⟩
  | ok image =>
    dsimp only
    rw [Effect.run_bind, Effect.run_bind, Painting.run_draw]
    dsimp only
    cases w.canvas.image j.library image s.origin (imageSize j c asLogo image) with
    | error f => exact ⟨rfl, rfl⟩
    | ok d => exact ⟨rfl, rfl⟩

/-- the same calls on the surface, and success or failure in both: what is skipped makes no call, an image makes one -/
structure SameEffect (x y : Except Failure Unit × Work) : Prop where
  calls : x.2.canvas.calls = y.2.canvas.calls
  outcome : x.1.isOk = y.1.isOk

theorem sameEffect_paintFrom {asLogo asLogo' : Bool} {source source' : Value} :
    SameEffect ((paintFrom j c s asLogo source).run.run w) ((paintFrom j c s asLogo' source').run.run w) ↔
      drawn? j c s w.requests asLogo source = drawn? j c s w.requests asLogo' source' := by
  obtain ⟨hcalls, hok⟩ := paintFrom_effect j c s asLogo source w
  obtain ⟨hcalls', hok'⟩ := paintFrom_effect j c s asLogo' source' w
  constructor
  · intro h
    have hsame := h.calls
    rw [hcalls, hcalls', List.append_right_inj] at hsame
    simpa using congrArg List.head? hsame
  · intro h
    exact ⟨by rw [hcalls, hcalls', h], by rw [hok, hok', h]⟩

/-- what is skipped has not the effect of any image, had or not -/
theorem not_sameEffect_skipped (asLogo : Bool) (source : Value) :
    ¬ SameEffect ((paintFrom j c s asLogo source).run.run w) (.ok (), w) := by
  obtain ⟨hcalls, hok⟩ := paintFrom_effect j c s asLogo source w
  intro h
  have hnone := h.calls
  have hsome := h.outcome
  rw [hcalls, List.append_right_eq_self, Option.toList_eq_nil_iff] at hnone
  rw [hok, hnone] at hsome
  cases hsome

/-! ## Blanks around a name -/

/-- the word for the logo, taken as any other name, does what it does as the word: there is something behind the word,
and it is painted as the logo that was loaded would be, at the size of any image -/
def PlainWord (j : Job) (c : Component) (s : Spot) (earlier : List Request) : Prop :=
  ∃ source, sourceBehind j (.string logoWord) = some source ∧
    drawn? j c s earlier true source = drawn? j c s earlier false (.string logoWord)

/-- any name but the empty one and the word for the logo is that of the source -/
theorem paintImage_run_other (hsource : imageSource c s = .ok (.string name)) (hempty : name ≠ "")
    (hlogo : name ≠ logoWord) (w : Work) :
    (paintImage j c s).run.run w = (paintFrom j c s false (.string name)).run.run w := by
  have hword : isLogo (.string name) = false := beq_eq_false_iff_ne.2 hlogo
  have hbehind : sourceBehind j (.string name) = some (.string name) := by
    unfold sourceBehind
    rw [hword]
    simp [isEmptySource, hempty]
  rw [paintImage_run hsource, hbehind, hword]

/-- a name with blanks around it is neither empty nor the word for the logo -/
theorem padded_run (hsource : imageSource c s = .ok (.string name)) (hpadded : name ≠ Text.trim name) (w : Work) :
    (paintImage j c s).run.run w = (paintFrom j c s false (.string name)).run.run w := by
  refine paintImage_run_other hsource ?_ ?_ w
  · rintro rfl
    exact hpadded rfl
  · rintro rfl
    exact hpadded rfl

theorem paintFrom_blank (h : Text.trim name = "") (w : Work) :
    (paintFrom j c s false (.string name)).run.run w = (.error (.asset .emptySource), w) := by
  have hload : j.assets.loadAfter w.requests (.string name) = (.error (.asset .emptySource), w.requests) := by
    rw [← Assets.load_trim, h]
    rfl
  unfold paintFrom
  rw [Effect.run_bind, load_run, hload]

theorem drawn?_trim (earlier : List Request) (asLogo : Bool) (name : String) :
    drawn? j c s earlier asLogo (.string (Text.trim name)) = drawn? j c s earlier asLogo (.string name) := by
  unfold drawn?
  rw [Assets.load_trim]

/-- an image painted from a name, beside what is painted for the word -/
theorem sameEffect_word (hword : imageSource c s = .ok (.string logoWord)) (source : Value) :
    SameEffect ((paintFrom j c s false source).run.run w) ((paintImage j c s).run.run w) ↔
      ∃ behind, sourceBehind j (.string logoWord) = some behind ∧
        drawn? j c s w.requests true behind = drawn? j c s w.requests false source := by
  rw [paintImage_run hword]
  cases sourceBehind j (.string logoWord) with
  | none => exact iff_of_false (not_sameEffect_skipped false source) (by simp)
  | some behind =>
    have hlogo : isLogo (.string logoWord) = true := rfl
    rw [hlogo, sameEffect_paintFrom, eq_comm]
    simp

section Trimmed

variable (hsource : imageSource c s = .ok (.string name)) (hplain : Record.hasTokens name = false) (w : Work)

include hsource hplain

theorem trim_other (hname : name = Text.trim name ∨ Text.trim name ≠ "" ∧ Text.trim name ≠ logoWord) :
    ((paintImage j c s).run.run w).1 = ((paintImage j (c.showing (Text.trim name)) s).run.run w).1 ∧
      ((paintImage j c s).run.run w).2 =
        { ((paintImage j (c.showing (Text.trim name)) s).run.run w).2 with
          trace := ((paintImage j c s).run.run w).2.trace } := by
  have hshown := imageSource_showing c s (Record.hasTokens_trim hplain)
  by_cases hneat : name = Text.trim name
  · have heq : (paintImage j c s).run.run w = (paintImage j (c.showing (Text.trim name)) s).run.run w := by
      rw [paintImage_run hsource, paintImage_run hshown, ← hneat]
      simp only [paintFrom_showing]
    rw [heq]
    exact ⟨rfl, rfl⟩
  · obtain ⟨hempty, hlogo⟩ := hname.resolve_left hneat
    rw [padded_run hsource hneat, paintImage_run_other hshown hempty hlogo, paintFrom_showing]
    exact paintFrom_congr (j.assets.load_trim w.requests name).symm

theorem trim_blank (hpadded : name ≠ Text.trim name) (hnone : Text.trim name = "") :
    (paintImage j c s).run.run w = (.error (.asset .emptySource), w) ∧
      (paintImage j (c.showing (Text.trim name)) s).run.run w = (.ok (), w) := by
  constructor
  · rw [padded_run hsource hpadded, paintFrom_blank hnone]
  · rw [paintImage_run (imageSource_showing c s (Record.hasTokens_trim hplain)), hnone]
    rfl

theorem trim_word (hpadded : name ≠ Text.trim name) (hword : Text.trim name = logoWord) :
    SameEffect ((paintImage j c s).run.run w) ((paintImage j (c.showing (Text.trim name)) s).run.run w) ↔
      PlainWord j c s w.requests := by
  have hshown := imageSource_showing c s (Record.hasTokens_trim hplain)
  have hdrawn : drawn? j c s w.requests false (.string logoWord) = drawn? j c s w.requests false (.string name) := by
    rw [← hword, drawn?_trim]
  rw [hword] at hshown ⊢
  rw [padded_run hsource hpadded, PlainWord, hdrawn, ← paintFrom_showing logoWord, sameEffect_word hshown]
  simp only [drawn?_showing]

end Trimmed

/-- **A name with blanks around it** comes to what the name without them comes to, but for its text in the trace, unless
only the blanks make it another name than the empty one or than the word for the logo. The empty name with blanks around
it is a failure, where without them there is nothing to paint. The word for the logo has the same effect with blanks
around it just if it is a plain word. -/
theorem paintImage_trim (hsource : imageSource c s = .ok (.string name)) (hplain : Record.hasTokens name = false)
    (w : Work) :
    let padded := (paintImage j c s).run.run w
    let neat := (paintImage j (c.showing (Text.trim name)) s).run.run w
    (name = Text.trim name ∨ Text.trim name ≠ "" ∧ Text.trim name ≠ logoWord →
        padded.1 = neat.1 ∧ padded.2 = { neat.2 with trace := padded.2.trace }) ∧
      (name ≠ Text.trim name → Text.trim name = "" →
        padded = (.error (.asset .emptySource), w) ∧ neat = (.ok (), w)) ∧
      (SameEffect padded neat ↔
        name = Text.trim name ∨ (Text.trim name ≠ "" ∧ Text.trim name ≠ logoWord) ∨
          Text.trim name = logoWord ∧ PlainWord j c s w.requests) := by
  refine ⟨trim_other hsource hplain w, trim_blank hsource hplain w, ?_⟩
  have hsame (hname : name = Text.trim name ∨ Text.trim name ≠ "" ∧ Text.trim name ≠ logoWord) :
      SameEffect ((paintImage j c s).run.run w) ((paintImage j (c.showing (Text.trim name)) s).run.run w) := by
    obtain ⟨hresult, hwork⟩ := trim_other (j := j) hsource hplain w hname
    exact ⟨by rw [hwork], by rw [hresult]⟩
  by_cases hneat : name = Text.trim name
  · exact iff_of_true (hsame (.inl hneat)) (.inl hneat)
  by_cases hnone : Text.trim name = ""
  · obtain ⟨hfailed, hskipped⟩ := trim_blank (j := j) hsource hplain w hneat hnone
    refine iff_of_false (fun h => ?_) ?_
    · have houtcome := h.outcome
      rw [hfailed, hskipped] at houtcome
      cases houtcome
    · rintro (h | ⟨h, -⟩ | ⟨h, -⟩)
      · exact hneat h
      · exact h hnone
      · exact absurd (hnone.symm.trans h) (by decide)
  by_cases hword : Text.trim name = logoWord
  · rw [or_iff_right hneat, or_iff_right fun hother => hother.2 hword, and_iff_right hword]
    exact trim_word hsource hplain w hneat hword
  · exact iff_of_true (hsame (.inr ⟨hnone, hword⟩)) (.inr (.inl ⟨hnone, hword⟩))

namespace LogoSlot

/-- a place for an image -/
def picture : Component := { id := "logo", kind := .image }

/-- a job with a logo that was loaded, but none that the template names -/
def job : Job :=
  { Broken.job with assets := { Broken.job.assets with logo := some ⟨.png, 60, 20, none⟩ } }

/-- painting an image of the given source, on a page with nothing on it -/
def painted (j : Job) (name : String) : Except Failure Unit × Work :=
  (paintImage j (picture.showing name) Broken.spot).run.run Broken.page

theorem painted_run (j : Job) (h : Record.hasTokens name = false) :
    painted j name = match sourceBehind j (.string name) with
      | none => (.ok (), Broken.page)
      | some source => (paintFrom j picture Broken.spot (isLogo (.string name)) source).run.run Broken.page :=
  paintImage_run (imageSource_showing picture Broken.spot h) Broken.page

end LogoSlot

/-- a path that no store is asked for, and the word for the logo where one was loaded, each with blanks around it -/
theorem paintImage_trim_sample :
    Record.hasTokens " scan.png\n" = false ∧
      (LogoSlot.painted Broken.job " scan.png\n").1 = .error (.asset (.noFetcher "scan.png")) ∧
      (LogoSlot.painted Broken.job " scan.png\n").1 = (LogoSlot.painted Broken.job "scan.png").1 ∧
      SameEffect (LogoSlot.painted LogoSlot.job " logo ") (LogoSlot.painted LogoSlot.job "logo") := by
  have hpath : Record.hasTokens " scan.png\n" = false := by decide +kernel
  have hlogo : Record.hasTokens " logo " = false := by decide +kernel
  have hother := paintImage_trim (j := Broken.job) (imageSource_showing LogoSlot.picture Broken.spot hpath) hpath Broken.page
  have hword := paintImage_trim (j := LogoSlot.job) (imageSource_showing LogoSlot.picture Broken.spot hlogo) hlogo Broken.page
  have hfails : (LogoSlot.painted Broken.job " scan.png\n").1 = .error (.asset (.noFetcher "scan.png")) := by
    rw [LogoSlot.painted_run Broken.job hpath]
    rfl
  refine ⟨hpath, hfails, (hother.1 (.inr (by decide))).1, hword.2.2.2 (.inr (.inr ⟨by decide, _, rfl, rfl⟩))⟩

/-- Without a logo nothing is painted for the word, but the word with blanks around it is a failure; and so is a source of
blanks alone, where nothing is painted for an empty one -/
theorem padded_sources_fail :
    (LogoSlot.painted Broken.job " logo ").1 = .error (.asset .noLogo) ∧ (LogoSlot.painted Broken.job "logo").1 = .ok () ∧
      (LogoSlot.painted Broken.job "  ").1 = .error (.asset .emptySource) ∧ (LogoSlot.painted Broken.job "").1 = .ok () ∧
      ¬ SameEffect (LogoSlot.painted Broken.job " logo ") (LogoSlot.painted Broken.job "logo") ∧
      ¬ SameEffect (LogoSlot.painted Broken.job "  ") (LogoSlot.painted Broken.job "") := by
  have hpadded : (LogoSlot.painted Broken.job " logo ").1 = .error (.asset .noLogo) := by
    rw [LogoSlot.painted_run Broken.job (by decide +kernel)]
    rfl
  have hneat : (LogoSlot.painted Broken.job "logo").1 = .ok () := by
    rw [LogoSlot.painted_run Broken.job (by decide +kernel)]
    rfl
  have hblank : (LogoSlot.painted Broken.job "  ").1 = .error (.asset .emptySource) := by
    rw [LogoSlot.painted_run Broken.job (by decide +kernel)]
    rfl
  have hempty : (LogoSlot.painted Broken.job "").1 = .ok () := by
    rw [LogoSlot.painted_run Broken.job (by decide +kernel)]
    rfl
  refine ⟨hpadded, hneat, hblank, hempty, fun h => ?_, fun h => ?_⟩
  · exact absurd h.outcome (by rw [hpadded, hneat]; nofun)
  · exact absurd h.outcome (by rw [hblank, hempty]; nofun)

end Paint

end ReportPress
