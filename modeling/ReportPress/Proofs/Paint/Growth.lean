import ReportPress.Paint.Component
import ReportPress.Proofs.Page.Surface
import ReportPress.Proofs.Effect
/-!
What painting leaves alone. Whatever is painted on a page, and whether or not it fails, the surface keeps its size, its
pages and its fonts, a font at hand that can be used stays one that can be used, and the trace and the issues only grow,
the trace by entries of the page at hand. Which entries and which issues are added is left open here.

- `Work.Grows`: the relation between the work before and after; it is reflexive and may be chained.
- `Painting.Grows`: every run of a computation makes the work grow. Closed under sequencing and recovery, so a
  computation has it if its parts do.
-/

namespace ReportPress

/-- `after` has grown from `before`; what was added to the trace is of the page at hand, and `P` holds of it; `Q` holds
of the issues that were added -/
structure Work.Grows (P : Painted → Prop) (Q : Issue → Prop) (before after : Work) : Prop where
  canvas : before.canvas.Keeps after.canvas
  trace : ∃ added, after.trace = before.trace ++ added ∧ ∀ p ∈ added, p.page = before.canvas.pages ∧ P p
  issues : ∃ added, after.issues = before.issues ++ added ∧ ∀ i ∈ added, Q i

namespace Work.Grows

variable {P : Painted → Prop} {Q : Issue → Prop} {u v w : Work}

/-- a change of the surface, and of what neither the trace nor the issues are part of -/
theorem of_same {c : Canvas} (h : w.canvas.Keeps c) (notes : List Note) (requests : List Request) :
    Work.Grows P Q w { w with canvas := c, notes := notes, requests := requests } :=
  ⟨h, ⟨[], (List.append_nil _).symm, fun _ h => nomatch h⟩, [], (List.append_nil _).symm, fun _ h => nomatch h⟩

/-- a change of the surface alone -/
theorem of_canvas {c : Canvas} (h : w.canvas.Keeps c) : Work.Grows P Q w { w with canvas := c } :=
  of_same h w.notes w.requests

theorem refl (w : Work) : Work.Grows P Q w w := of_canvas (.refl w.canvas)

theorem trans (h : Work.Grows P Q u v) (k : Work.Grows P Q v w) : Work.Grows P Q u w := by
  obtain ⟨a, ha, hpa⟩ := h.trace
  obtain ⟨b, hb, hpb⟩ := k.trace
  obtain ⟨d, hd, hqd⟩ := h.issues
  obtain ⟨e, he, hqe⟩ := k.issues
  refine ⟨h.canvas.trans k.canvas, ⟨a ++ b, by rw [hb, ha, List.append_assoc], fun p hp => ?_⟩,
    d ++ e, by rw [he, hd, List.append_assoc], List.forall_mem_append.2 ⟨hqd, hqe⟩⟩
  rcases List.mem_append.1 hp with hp | hp
  · exact hpa p hp
  · exact ⟨(hpb p hp).1.trans h.canvas.pages, (hpb p hp).2⟩

theorem mono {P' : Painted → Prop} {Q' : Issue → Prop} (hP : ∀ p, P p → P' p) (hQ : ∀ i, Q i → Q' i)
    (h : Work.Grows P Q u v) : Work.Grows P' Q' u v := by
  obtain ⟨a, ha, hpa⟩ := h.trace
  obtain ⟨d, hd, hqd⟩ := h.issues
  exact ⟨h.canvas, ⟨a, ha, fun p hp => ⟨(hpa p hp).1, hP p (hpa p hp).2⟩⟩, d, hd, fun i hi => hQ i (hqd i hi)⟩

/-- what grows without an entry has the trace that it had -/
theorem trace_eq (h : Work.Grows (fun _ => False) Q u v) : v.trace = u.trace := by
  obtain ⟨added, htrace, hnone⟩ := h.trace
  obtain rfl : added = [] := List.eq_nil_iff_forall_not_mem.2 fun p hp => (hnone p hp).2
  rw [htrace, List.append_nil]

/-- what grows without an issue has the issues that it had -/
theorem issues_eq (h : Work.Grows P (fun _ => False) u v) : v.issues = u.issues := by
  obtain ⟨added, hissues, hnone⟩ := h.issues
  obtain rfl : added = [] := List.eq_nil_iff_forall_not_mem.2 hnone
  rw [hissues, List.append_nil]

end Work.Grows

namespace Painting

variable {α β : Type} {P : Painted → Prop} {Q : Issue → Prop}

/-- every run makes the work grow, a run that fails too -/
structure Grows (P : Painted → Prop) (Q : Issue → Prop) (x : Painting α) : Prop where
  run : ∀ w, Work.Grows P Q w (x.run.run w).2

theorem Grows.of_run {x : Painting α} {w v : Work} {r : Except Failure α} (hx : Grows P Q x)
    (h : x.run.run w = (r, v)) : Work.Grows P Q w v := by
  have hgrow := hx.run w
  rw [h] at hgrow
  exact hgrow

theorem Grows.pure (a : α) : Grows P Q (pure a : Painting α) := ⟨.refl⟩

theorem Grows.throw (f : Failure) : Grows P Q (throw f : Painting α) := ⟨.refl⟩

theorem Grows.bind {x : Painting α} {k : α → Painting β} (hx : Grows P Q x) (hk : ∀ a, Grows P Q (k a)) :
    Grows P Q (x >>= k) := ⟨fun w => Effect.bind_rel .trans (hx.run w) fun a => (hk a).run⟩

theorem Grows.tryCatch {x : Painting α} {k : Failure → Painting α} (hx : Grows P Q x) (hk : ∀ f, Grows P Q (k f)) :
    Grows P Q (tryCatch x k) := by
  refine ⟨fun w => ?_⟩
  have hxw := hx.run w
  rw [Effect.run_tryCatch]
  rcases h : x.run.run w with ⟨r, v⟩
  rw [h] at hxw
  cases r with
  | ok a => exact hxw
  | error f => exact hxw.trans ((hk f).run v)

theorem Grows.ite {c : Prop} [Decidable c] {x y : Painting α} (hx : Grows P Q x) (hy : Grows P Q y) :
    Grows P Q (if c then x else y) := by
  split
  · exact hx
  · exact hy

theorem Grows.orElse {x : Painting α} {isLetOff : Failure → Bool} {other : Failure → Painting α} (hx : Grows P Q x)
    (hother : ∀ f, Grows P Q (other f)) : Grows P Q (x.orElse isLetOff other) :=
  hx.tryCatch fun f => (hother f).ite (.throw f)

theorem Grows.mono {P' : Painted → Prop} {Q' : Issue → Prop} {x : Painting α} (hP : ∀ p, P p → P' p)
    (hQ : ∀ i, Q i → Q' i) (hx : Grows P Q x) : Grows P' Q' x := ⟨fun w => (hx.run w).mono hP hQ⟩

/-- what is let off fails only with a failure that is not let off, or with one of what comes instead -/
theorem orElse_eq_error {x : Painting α} {isLetOff : Failure → Bool} {other : Failure → Painting α} {w v : Work}
    {f : Failure} (h : (x.orElse isLetOff other).run.run w = (.error f, v)) :
    x.run.run w = (.error f, v) ∨ ∃ e u, (other e).run.run u = (.error f, v) := by
  rw [Painting.orElse, Effect.run_tryCatch] at h
  rcases hx : x.run.run w with ⟨e | a, u⟩
  · rw [hx] at h
    dsimp only at h
    split at h
    · exact .inr ⟨e, u, h⟩
    · cases h
      exact .inl rfl
  · rw [hx] at h
    cases h

/-! ## Single steps -/

theorem grows_get : Grows P Q (get : Painting Work) := ⟨.refl⟩

theorem grows_ofExcept (r : Except Failure α) : Grows P Q (ofExcept r) := ⟨.refl⟩

theorem ofExcept_run (r : Except Failure α) (w : Work) : (ofExcept r).run.run w = (r, w) := rfl

theorem ofExcept_eq {r r' : Except Failure α} {w v : Work} (h : (ofExcept r).run.run w = (r', v)) : r = r' ∧ w = v := by
  cases h
  exact ⟨rfl, rfl⟩

theorem grows_measure (cs : List Char) : Grows P Q (measure cs) := ⟨.refl⟩

theorem run_draw (f : Canvas → Except Failure Canvas) (w : Work) :
    (draw f).run.run w = match f w.canvas with
      | .ok c => (.ok (), { w with canvas := c })
      | .error e => (.error e, w) := rfl

theorem draw_eq_ok {f : Canvas → Except Failure Canvas} {w v : Work} {u : Unit}
    (h : (draw f).run.run w = (.ok u, v)) : ∃ c, f w.canvas = .ok c ∧ v = { w with canvas := c } := by
  rw [run_draw] at h
  split at h
  · next c hc => cases h; exact ⟨c, hc, rfl⟩
  · cases h

theorem draw_eq_error {f : Canvas → Except Failure Canvas} {w v : Work} {e : Failure}
    (h : (draw f).run.run w = (.error e, v)) : f w.canvas = .error e ∧ w = v := by
  rw [run_draw] at h
  split at h
  · cases h
  · next hf => cases h; exact ⟨hf, rfl⟩

theorem grows_draw {f : Canvas → Except Failure Canvas} (hf : ∀ c d, f c = .ok d → c.Keeps d) : Grows P Q (draw f) := by
  refine ⟨fun w => ?_⟩
  rw [run_draw]
  split
  · next c hc => exact .of_canvas (hf _ _ hc)
  · exact .refl w

theorem grows_call {c : Call} (h : c.isCarriedOut = true) : Grows P Q (call c h) :=
  ⟨fun w => .of_canvas (w.canvas.keeps_record c)⟩

theorem grows_setFont (family style : String) (size : Float) : Grows P Q (draw (·.setFont family style size)) :=
  grows_draw fun _ _ => Canvas.keeps_setFont

theorem grows_setTextColour (rgb : Rgb) : Grows P Q (draw (·.setTextColour rgb)) :=
  grows_draw fun _ _ => Canvas.keeps_textColour

theorem grows_setFillColour (rgb : Rgb) : Grows P Q (draw (·.setFillColour rgb)) :=
  grows_draw fun _ _ => Canvas.keeps_fillColour

theorem grows_setDrawColour (rgb : Rgb) : Grows P Q (draw (·.setDrawColour rgb)) :=
  grows_draw fun _ _ => Canvas.keeps_drawColour

theorem grows_text (x y : Float) (s : String) : Grows P Q (draw (·.text x y s)) :=
  grows_draw fun _ _ => Canvas.keeps_text

theorem grows_cell (w h : Float) (s : String) (fill : Bool) : Grows P Q (draw (·.cell w h s fill)) :=
  grows_draw fun _ _ => Canvas.keeps_cell

theorem grows_image (l : Library) (image : PreparedImage) (place : Point) (size : Size) :
    Grows P Q (draw (·.image l image place size)) := grows_draw fun _ _ => Canvas.keeps_image

/-- a change of what the surface, the trace and the issues are not part of -/
theorem grows_aside {x : Painting α} (h : ∀ w, ∃ notes requests, (x.run.run w).2 =
    { w with notes := notes, requests := requests }) : Grows P Q x := by
  refine ⟨fun w => ?_⟩
  obtain ⟨notes, requests, hw⟩ := h w
  rw [hw]
  exact .of_same (.refl w.canvas) notes requests

theorem grows_note (n : Note) : Grows P Q (note n) := grows_aside fun w => ⟨w.notes ++ [n], w.requests, rfl⟩

theorem grows_ofNoting (x : Noting α) : Grows P Q (ofNoting x) :=
  grows_aside fun w => ⟨(x.run.run w.notes).2, w.requests, rfl⟩

theorem grows_load (assets : Assets) (source : Value) : Grows P Q (load assets source) :=
  grows_aside fun w => ⟨w.notes, (assets.loadAfter w.requests source).2, rfl⟩

theorem grows_record {component : String} {mark : Mark} (place : Point) (text : String)
    (h : ∀ page x y, P ⟨page, component, mark, text, x, y⟩) : Grows P Q (record component mark place text) := by
  refine ⟨fun w => ⟨.refl _, ⟨_, rfl, fun p hp => ?_⟩, [], (List.append_nil _).symm, fun _ h => nomatch h⟩⟩
  rw [List.mem_singleton] at hp
  subst hp
  exact ⟨rfl, h ..⟩

theorem grows_issue {issue : Issue} (h : Q issue) :
    Grows P Q (modify fun w => { w with issues := w.issues ++ [issue] } : Painting Unit) := by
  refine ⟨fun w => ⟨.refl _, ⟨[], (List.append_nil _).symm, fun _ h => nomatch h⟩, [issue], rfl, ?_⟩⟩
  exact List.forall_mem_singleton.2 h

end Painting

end ReportPress
