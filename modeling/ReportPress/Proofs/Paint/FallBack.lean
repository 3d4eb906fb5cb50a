import ReportPress.Proofs.Paint.Entries
import ReportPress.Proofs.Record.Conditions
import ReportPress.Proofs.Text.Latin
/-!
What becomes of a component that fails. The fallback itself never fails: its colours are in range, its font is built in,
and its labels are plain. So the only failure that painting a component lets through is that of a condition that cannot
be decided.

- `Succeeds`: a run that ends without failure, and what holds then.
- `placeholder_succeeds`, `fallBack_run`: one entry for the placeholder, if the component has one, and one issue.
- `place_run`: painting a component is deciding its conditions, then painting or falling back.
- `place_outcome`: it fails just where they cannot be decided.
-/

namespace ReportPress

namespace Canvas

theorem lower_defaultFamily : Text.lower defaultFamily = defaultFamily := by decide +kernel

theorem styleLetters_empty : styleLetters "" = "" := by decide +kernel

theorem faceFor_default (c : Canvas) : c.faceFor defaultFamily "" = (defaultFamily, "") := by
  unfold faceFor
  rw [if_neg (by decide), lower_defaultFamily, styleLetters_empty]
  rfl

theorem knows_default (c : Canvas) : c.Knows (c.faceFor defaultFamily "") := by
  rw [faceFor_default]
  exact .inl (by decide +kernel)

theorem shows_of_isLatin (c : Canvas) {cs : List Char} (h : ∀ x ∈ cs, x.toNat < 256) : c.Shows cs := fun x hx =>
  c.shows_of_latin (h x hx)

end Canvas

/-- only the surface, the notes and the requests have changed, and of the surface nothing that lasts -/
structure Work.Draws (before after : Work) : Prop where
  canvas : before.canvas.Keeps after.canvas
  trace : after.trace = before.trace
  issues : after.issues = before.issues

namespace Work.Draws

variable {u v w : Work}

theorem refl (w : Work) : Work.Draws w w := ⟨.refl _, rfl, rfl⟩

theorem trans (h : Work.Draws u v) (k : Work.Draws v w) : Work.Draws u w :=
  ⟨h.canvas.trans k.canvas, k.trace.trans h.trace, k.issues.trans h.issues⟩

end Work.Draws

/-- run at `w` the computation ends without a failure, with a value and a state that `Q` holds of -/
def Succeeds {α : Type} (w : Work) (x : Painting α) (Q : α → Work → Prop) : Prop :=
  ∃ a v, x.run.run w = (.ok a, v) ∧ Q a v

namespace Succeeds

variable {α β : Type} {w : Work} {x : Painting α}

theorem pure {a : α} {Q : α → Work → Prop} (h : Q a w) : Succeeds w (pure a) Q := ⟨a, w, rfl, h⟩

theorem bind {k : α → Painting β} {Q : α → Work → Prop} {R : β → Work → Prop} (hx : Succeeds w x Q)
    (hk : ∀ a v, Q a v → Succeeds v (k a) R) : Succeeds w (x >>= k) R := by
  obtain ⟨a, v, hrun, hq⟩ := hx
  obtain ⟨b, u, hrun', hr⟩ := hk a v hq
  exact ⟨b, u, by rw [Effect.run_bind, hrun]; exact hrun', hr⟩

theorem imp {Q R : α → Work → Prop} (hx : Succeeds w x Q) (h : ∀ a v, Q a v → R a v) : Succeeds w x R := by
  obtain ⟨a, v, hrun, hq⟩ := hx
  exact ⟨a, v, hrun, h a v hq⟩

theorem orElse {Q : α → Work → Prop} (hx : Succeeds w x Q) (isLetOff : Failure → Bool)
    (other : Failure → Painting α) : Succeeds w (x.orElse isLetOff other) Q := by
  obtain ⟨a, v, hrun, hq⟩ := hx
  exact ⟨a, v, by rw [Painting.orElse, Effect.run_tryCatch, hrun], hq⟩

/-- a failure that is let off -/
theorem recovered {v : Work} {f : Failure} {Q : α → Work → Prop} {isLetOff : Failure → Bool}
    {other : Failure → Painting α} (hx : x.run.run w = (.error f, v)) (hf : isLetOff f = true)
    (hother : Succeeds v (other f) Q) : Succeeds w (x.orElse isLetOff other) Q := by
  obtain ⟨a, u, hrun, hq⟩ := hother
  exact ⟨a, u, by rw [Painting.orElse, Effect.run_tryCatch, hx]; dsimp only; rw [if_pos hf]; exact hrun, hq⟩

/-- a step on the surface that is carried out -/
theorem draw {f : Canvas → Except Failure Canvas} {d : Canvas} (hf : f w.canvas = .ok d) (hd : w.canvas.Keeps d) :
    Succeeds w (Painting.draw f) fun _ v => v.canvas = d ∧ Work.Draws w v := by
  refine ⟨(), { w with canvas := d }, ?_, rfl, hd, rfl, rfl⟩
  rw [Painting.run_draw, hf]

theorem call {c : Call} (h : c.isCarriedOut = true) : Succeeds w (Painting.call c h) fun _ v => Work.Draws w v :=
  ⟨(), _, rfl, w.canvas.keeps_record c, rfl, rfl⟩

theorem colour {set : Canvas → Rgb → Except Failure Canvas} {call : Rgb → Call}
    (hset : ∀ c rgb, set c rgb = (Canvas.checkColour rgb).map fun _ => c.record (call rgb)) {rgb : Rgb}
    (h : (Canvas.checkColour rgb).isOk = true) : Succeeds w (Painting.draw (set · rgb)) fun _ v => Work.Draws w v := by
  cases hc : Canvas.checkColour rgb with
  | error f => rw [hc] at h; cases h
  | ok u =>
    exact (draw (d := w.canvas.record (call rgb)) (by rw [hset, hc]; rfl) (Canvas.keeps_record ..)).imp fun _ _ h => h.2

theorem setTextColour {rgb : Rgb} (h : (Canvas.checkColour rgb).isOk = true) :
    Succeeds w (Painting.draw (·.setTextColour rgb)) fun _ v => Work.Draws w v := colour (fun _ _ => rfl) h

theorem setFillColour {rgb : Rgb} (h : (Canvas.checkColour rgb).isOk = true) :
    Succeeds w (Painting.draw (·.setFillColour rgb)) fun _ v => Work.Draws w v := colour (fun _ _ => rfl) h

theorem setDrawColour {rgb : Rgb} (h : (Canvas.checkColour rgb).isOk = true) :
    Succeeds w (Painting.draw (·.setDrawColour rgb)) fun _ v => Work.Draws w v := colour (fun _ _ => rfl) h

theorem setFont {family style : String} (hw : w.canvas.faceFor family style = w.canvas.face → w.canvas.HasFace)
    (h : w.canvas.Knows (w.canvas.faceFor family style)) (size : Float) :
    Succeeds w (Painting.draw (·.setFont family style size)) fun _ v =>
      v.canvas.face = w.canvas.faceFor family style ∧ Work.Draws w v := by
  rcases Canvas.setFont_spec hw size with ⟨-, d, hd, hface, hkeeps⟩ | ⟨hno, -⟩
  · exact (draw hd hkeeps).imp fun _ v hv => ⟨hv.1 ▸ hface, hv.2⟩
  · exact absurd h hno

theorem text {x y : Float} {s : String} (h : w.canvas.Shows s.toList) :
    Succeeds w (Painting.draw (·.text x y s)) fun _ v => Work.Draws w v := by
  rcases w.canvas.text_spec x y s with ⟨-, hd⟩ | ⟨hno, -⟩
  · exact (draw hd (Canvas.keeps_record ..)).imp fun _ v hv => hv.2
  · exact absurd h hno

/-- laying out a text that can be shown -/
theorem gauge {fits : Prop} {Q : α → Prop} (hx : Gauges w x fits Q) (h : fits) :
    Succeeds w x fun a v => v = w ∧ Q a := by
  rcases hx with ⟨-, a, ha, hq⟩ | ⟨hno, -⟩
  · exact ⟨a, w, ha, rfl, hq⟩
  · exact absurd h hno

end Succeeds

namespace Paint

/-- the entry of a component's placeholder, if it has one -/
def placeholderEntry (c : Component) (origin : Point) (page : ℕ) : Option Painted :=
  (placeholderLabel c.kind).map fun label =>
    ⟨page, c.id, .placeholder, label, roundThousandths origin.x, roundThousandths origin.y⟩

theorem placeholder_succeeds (c : Component) (origin : Point) {label : String} (w : Work)
    (hlabel : ∀ x ∈ label.toList, x.toNat < 256) :
    Succeeds w (paintPlaceholder c origin label) fun _ v => w.canvas.Keeps v.canvas ∧ v.issues = w.issues ∧
      v.trace = w.trace ++
        [⟨w.canvas.pages, c.id, .placeholder, label, roundThousandths origin.x, roundThousandths origin.y⟩] := by
  refine (Succeeds.setFillColour (by decide +kernel)).bind fun _ v₁ h₁ => ?_
  refine (Succeeds.call _).bind fun _ v₂ h₂ => ?_
  have hknows := v₂.canvas.knows_default
  have hhand : v₂.canvas.faceFor defaultFamily "" = v₂.canvas.face → v₂.canvas.HasFace := by
    intro hface
    rw [Canvas.HasFace, ← hface]
    exact hknows
  refine (Succeeds.setFont hhand hknows _).bind fun _ v₃ h₃ => ?_
  refine (Succeeds.setTextColour (by decide +kernel)).bind fun _ v₄ h₄ => ?_
  refine (Succeeds.gauge (Text.gauges_fit _) (Canvas.shows_of_isLatin _ hlabel)).bind fun text v₅ h₅ => ?_
  obtain ⟨rfl, hshown⟩ := h₅
  refine (Succeeds.text (by rw [String.toList_ofList]; exact hshown)).bind fun _ v₆ h₆ => ?_
  refine (Succeeds.setTextColour (by decide +kernel)).bind fun _ v₇ h₇ => ?_
  have hall := ((((h₁.trans h₂).trans h₃.2).trans h₄).trans h₆).trans h₇
  refine ⟨(), _, rfl, hall.canvas, hall.issues, ?_⟩
  show v₇.trace ++ [_] = _
  rw [hall.trace, hall.canvas.pages]

theorem placeholderLabel_isLatin {k : ComponentKind} {label : String} (h : placeholderLabel k = some label) :
    ∀ x ∈ label.toList, x.toNat < 256 := by
  have hlabel : label.toList.all Text.isLatin = true := by
    unfold placeholderLabel at h
    split at h
    · cases h; decide +kernel
    · cases h; decide +kernel
    · cases h
  exact fun x hx => of_decide_eq_true (List.all_eq_true.1 hlabel x hx)

/-- **Falling back** never fails: it enters the issue, and the placeholder if there is one -/
theorem fallBack_run (c : Component) (origin : Point) (issue : Issue) (w : Work) :
    Succeeds w (fallBack c origin issue) fun _ v => w.canvas.Keeps v.canvas ∧ v.issues = w.issues ++ [issue] ∧
      v.trace = w.trace ++ (placeholderEntry c origin w.canvas.pages).toList := by
  unfold fallBack placeholderEntry
  refine Succeeds.bind (Q := fun _ v => Work.Draws w v) ⟨(), _, rfl, .refl _, rfl, rfl⟩ fun _ v₁ h₁ => ?_
  refine Succeeds.bind (Q := fun _ v => w.canvas.Keeps v.canvas ∧ v.trace = w.trace ∧ v.issues = w.issues ++ [issue])
    ⟨(), _, rfl, h₁.canvas, h₁.trace, congrArg (· ++ [issue]) h₁.issues⟩ fun _ v₂ h₂ => ?_
  obtain ⟨hkeeps, htrace, hissues⟩ := h₂
  cases hlabel : placeholderLabel c.kind with
  | none => exact .pure ⟨hkeeps, hissues, htrace.trans (List.append_nil _).symm⟩
  | some label =>
    refine ((placeholder_succeeds c origin v₂ (placeholderLabel_isLatin hlabel)).orElse _ _).imp ?_
    intro _ v h
    refine ⟨hkeeps.trans h.1, h.2.1.trans hissues, ?_⟩
    rw [h.2.2, htrace, hkeeps.pages]
    rfl

/-- paints a component whose conditions hold, or falls back -/
def attempt (j : Job) (c : Component) (s : Spot) : Painting Unit :=
  tryCatch (paint j c s) fun f => do fallBack c s.origin ⟨c.id, c.kind, (← get).canvas.pages, f⟩

/-- what deciding the conditions of a component comes to -/
def decision (c : Component) (s : Spot) : Except Failure Bool × List Note :=
  (Condition.allHold s.scope none c.conditions).outcome

/-- deciding the conditions changes nothing but the notes -/
theorem decision_run (c : Component) (s : Spot) (w : Work) :
    (Painting.ofNoting (Condition.allHold s.scope none c.conditions)).run.run w =
      ((decision c s).1, { w with notes := w.notes ++ (decision c s).2 }) := by
  show (((Condition.allHold s.scope none c.conditions).run.run w.notes).1,
    ({ w with notes := ((Condition.allHold s.scope none c.conditions).run.run w.notes).2 } : Work)) = _
  rw [Condition.appends_allHold s.scope none c.conditions w.notes]
  rfl

/-- loading an image changes nothing but the requests -/
theorem load_run (a : Assets) (source : Value) (w : Work) :
    (Painting.load a source).run.run w =
      ((a.loadAfter w.requests source).1, { w with requests := (a.loadAfter w.requests source).2 }) := rfl

/-- a component whose conditions hold is painted, and is an issue if that fails -/
theorem render_run {c : Component} {s : Spot} (hdecided : (decision c s).1 = .ok true) (j : Job) (w : Work) :
    (render j c s).run.run w = match (paint j c s).run.run { w with notes := w.notes ++ (decision c s).2 } with
      | (.ok _, v) => (.ok none, v)
      | (.error f, v) => (.ok (some ⟨c.id, c.kind, v.canvas.pages, f⟩), v) := by
  unfold render
  rw [Effect.run_bind, decision_run, hdecided]
  dsimp only
  rw [if_pos rfl, Effect.run_tryCatch, Effect.run_bind]
  rcases (paint j c s).run.run _ with ⟨_ | _, u⟩ <;> rfl

/-- painting a component is deciding its conditions and then, if they hold, an attempt at it -/
theorem place_run (j : Job) (c : Component) (s : Spot) (w : Work) :
    (place j c s).run.run w = match (decision c s).1 with
      | .error f => (.error f, { w with notes := w.notes ++ (decision c s).2 })
      | .ok false => (.ok (), { w with notes := w.notes ++ (decision c s).2 })
      | .ok true => (attempt j c s).run.run { w with notes := w.notes ++ (decision c s).2 } := by
  unfold place render
  rw [Effect.run_bind, Effect.run_bind, decision_run]
  rcases (decision c s).1 with f | _ | _
  · rfl
  · rfl
  · generalize { w with notes := w.notes ++ (decision c s).2 } = v
    unfold attempt
    dsimp only
    rw [if_pos rfl, Effect.run_tryCatch, Effect.run_tryCatch, Effect.run_bind]
    rcases (paint j c s).run.run v with ⟨_ | _, u⟩ <;> rfl

theorem attempt_run (j : Job) (c : Component) (s : Spot) (w : Work) :
    (attempt j c s).run.run w = match (paint j c s).run.run w with
      | (.ok u, v) => (.ok u, v)
      | (.error f, v) => (fallBack c s.origin ⟨c.id, c.kind, v.canvas.pages, f⟩).run.run v := by
  unfold attempt
  rw [Effect.run_tryCatch]
  rcases (paint j c s).run.run w with ⟨_ | _, v⟩ <;> rfl

/-- an attempt does not fail -/
theorem attempt_succeeds (j : Job) (c : Component) (s : Spot) (w : Work) :
    Succeeds w (attempt j c s) fun _ v => Work.Grows (Painted.IsOf c) (fun _ => True) w v := by
  have hgrow : Work.Grows (Painted.IsOf c) (fun _ => True) w ((paint j c s).run.run w).2 :=
    ((grows_paint j s).run w).mono (fun _ => Painted.IsBodyOf.isOf) fun _ => id
  have hrun := attempt_run j c s w
  rcases hpaint : (paint j c s).run.run w with ⟨r, v⟩
  rw [hpaint] at hrun hgrow
  cases r with
  | ok u => exact ⟨u, v, hrun, hgrow⟩
  | error f =>
    have hback := (grows_fallBack (c := c) (Q := fun _ => True) s.origin
      (i := ⟨c.id, c.kind, v.canvas.pages, f⟩) trivial).run v
    obtain ⟨a, u, hu, -⟩ := fallBack_run c s.origin ⟨c.id, c.kind, v.canvas.pages, f⟩ v
    rw [hu] at hback
    exact ⟨a, u, hrun.trans hu, hgrow.trans hback⟩

/-- **Painting a component** fails just where its conditions cannot be decided, and with the failure of that -/
theorem place_outcome (j : Job) (c : Component) (s : Spot) (w : Work) :
    ((place j c s).run.run w).1 = (decision c s).1.map fun _ => () := by
  rw [place_run]
  rcases (decision c s).1 with f | _ | _
  · rfl
  · rfl
  · obtain ⟨a, v, hrun, -⟩ := attempt_succeeds j c s { w with notes := w.notes ++ (decision c s).2 }
    exact congrArg Prod.fst hrun

end Paint

end ReportPress
