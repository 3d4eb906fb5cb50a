import ReportPress.Proofs.Page.Tools
import ReportPress.Proofs.Paint.Entries
/-!
One computation in two documents that differ in what was drawn before, and so in the font, the colours and the width of
lines at hand. It makes the same calls in both, and what it makes of them is the same, as long as it brings to hand what
it draws with; and if it measures texts, as long as it asks for a size, and not for the one at hand.

- `Work.Level`: the documents agree in all that is not at hand.
- `Pair.After`: what holds in the two documents after the same calls.
- `Steady`: from the one to the next. `Steady.bind`, `Steady.tryCatch`: put together from parts; one lemma for each
  single step.
-/

namespace ReportPress

/-- surfaces that agree in all but what is at hand and what was drawn -/
structure Canvas.Level (c d : Canvas) : Prop where
  width : c.width = d.width
  height : c.height = d.height
  pages : c.pages = d.pages
  fonts : c.fonts = d.fonts
  left : c.Usable
  right : d.Usable

/-- documents that agree in all but what is at hand and what was drawn -/
structure Work.Level (v w : Work) : Prop where
  canvas : v.canvas.Level w.canvas
  trace : v.trace = w.trace
  issues : v.issues = w.issues
  notes : v.notes = w.notes
  requests : v.requests = w.requests

/-- surfaces with a font at hand that can be used stay level if they are only drawn on -/
theorem Canvas.Level.keeps {c d c' d' : Canvas} (h : c.Level d) (hc : c.Keeps c') (hd : d.Keeps d')
    (hleft : c'.Usable) (hright : d'.Usable) : c'.Level d' :=
  ⟨hc.width.trans (h.width.trans hd.width.symm), hc.height.trans (h.height.trans hd.height.symm),
    hc.pages.trans (h.pages.trans hd.pages.symm), hc.fonts.trans (h.fonts.trans hd.fonts.symm), hleft, hright⟩

/-- two documents at the start, and whether texts are going to be measured -/
structure Pair where
  measured : Prop
  left : Work
  right : Work

namespace Pair

/-- the documents after the same calls. Once a font was chosen, the same one is at hand -/
structure After (b : Pair) (calls : List Call) (v w : Work) : Prop where
  level : v.Level w
  left : v.canvas.calls = b.left.canvas.calls ++ calls
  right : w.canvas.calls = b.right.canvas.calls ++ calls
  contained : SelfContained calls
  chosen : Provides calls .font → v.canvas.face = w.canvas.face ∧
    (b.measured → v.canvas.fontSize = w.canvas.fontSize)

/-- the documents after the same calls, which have brought these tools to hand -/
def At (b : Pair) (tools : List Tool) (v w : Work) : Prop := ∃ calls, b.After calls v w ∧ ∀ t ∈ tools, Provides calls t

/-- how two runs of one computation end: with the same result, after the same calls -/
inductive Ends {α : Type} (b : Pair) (tools : List Tool) : Except Failure α × Work → Except Failure α × Work → Prop
  | done {a : α} {v w : Work} (h : b.At tools v w) : Ends b tools (.ok a, v) (.ok a, w)
  | failed {f : Failure} {v w : Work} (h : b.At [] v w) : Ends b tools (.error f, v) (.error f, w)

variable {b : Pair} {calls : List Call} {tools : List Tool} {v w : Work}

theorem At.mono {fewer : List Tool} (h : b.At tools v w) (hsub : fewer ⊆ tools) : b.At fewer v w := by
  obtain ⟨calls, hafter, htools⟩ := h
  exact ⟨calls, hafter, fun t ht => htools t (hsub ht)⟩

theorem Ends.alike {α : Type} {r s : Except Failure α} (h : b.Ends tools (r, v) (s, w)) : r = s ∧ b.At [] v w := by
  cases h with
  | done hat => exact ⟨rfl, hat.mono (List.nil_subset tools)⟩
  | failed hat => exact ⟨rfl, hat⟩

/-- what is neither on the surface nor in what the documents agree in changes nothing -/
theorem After.of_canvas {v' w' : Work} (h : b.After calls v w) (hv : v'.canvas = v.canvas) (hw : w'.canvas = w.canvas)
    (hlevel : v'.Level w') : b.After calls v' w' := by
  refine ⟨hlevel, ?_, ?_, h.contained, ?_⟩
  · rw [hv]; exact h.left
  · rw [hw]; exact h.right
  · rw [hv, hw]; exact h.chosen

/-- the same call on both sides, which brings no font to hand -/
theorem After.record (h : b.After calls v w) {c : Call} (hc : c.tool? ≠ some .font)
    (huses : ∀ t ∈ c.uses, Provides calls t) :
    b.After (calls ++ [c]) { v with canvas := v.canvas.record c } { w with canvas := w.canvas.record c } := by
  have hfont : Provides (calls ++ [c]) .font ↔ Provides calls .font := by
    rw [provides_concat]
    exact or_iff_left hc
  have hcanvas := h.level.canvas
  refine ⟨⟨⟨hcanvas.width, hcanvas.height, hcanvas.pages, hcanvas.fonts, hcanvas.left, hcanvas.right⟩, h.level.trace,
    h.level.issues, h.level.notes, h.level.requests⟩, ?_, ?_, .concat h.contained huses, ?_⟩
  · rw [Canvas.record_calls, h.left, List.append_assoc]
  · rw [Canvas.record_calls, h.right, List.append_assoc]
  · rw [hfont]; exact h.chosen

theorem At.record (h : b.At tools v w) {c : Call} (hc : c.tool? ≠ some .font) (huses : c.uses ⊆ tools) :
    b.At (c.tool?.toList ++ tools) { v with canvas := v.canvas.record c } { w with canvas := w.canvas.record c } := by
  obtain ⟨calls, hafter, htools⟩ := h
  refine ⟨calls ++ [c], hafter.record hc fun t ht => htools t (huses ht), fun t ht => ?_⟩
  rcases List.mem_append.1 ht with ht | ht
  · exact provides_concat.2 (.inr (Option.mem_toList.1 ht))
  · exact provides_concat.2 (.inl (htools t ht))

/-- the same font chosen on both sides: it is the same one that is at hand then, and so is its size, if a size was asked
for that is not zero -/
theorem After.setFont (h : b.After calls v w) {family style : String} {size : Float} {c d : Canvas}
    (hfamily : family ≠ "") (hc : v.canvas.setFont family style size = .ok c)
    (hd : w.canvas.setFont family style size = .ok d) (hsize : b.measured → (size == 0.0) = false) :
    b.After (calls ++ [.font family style size]) { v with canvas := c } { w with canvas := d } := by
  have hcanvas := h.level.canvas
  have hlevel : c.Level d := hcanvas.keeps (Canvas.keeps_setFont hc) (Canvas.keeps_setFont hd)
    (.inr (Canvas.hasFace_of_setFont hcanvas.left hfamily hc))
    (.inr (Canvas.hasFace_of_setFont hcanvas.right hfamily hd))
  refine ⟨⟨hlevel, h.level.trace, h.level.issues, h.level.notes, h.level.requests⟩, ?_, ?_, .concat h.contained nofun,
    fun _ => ⟨?_, fun hmeasured => ?_⟩⟩
  · show c.calls = _
    rw [Canvas.setFont_calls hc, h.left, List.append_assoc]
  · show d.calls = _
    rw [Canvas.setFont_calls hd, h.right, List.append_assoc]
  · show c.face = d.face
    rw [Canvas.face_of_setFont hc, Canvas.face_of_setFont hd]
    exact Canvas.faceFor_congr hcanvas.fonts hfamily style
  · show c.fontSize = d.fontSize
    rw [Canvas.fontSize_of_setFont hc (hsize hmeasured), Canvas.fontSize_of_setFont hd (hsize hmeasured)]

end Pair

/-- a computation that, run in two documents after the same calls with the `tools` at hand, goes on alike in both, and
has the tools `after` brought to hand then -/
structure Steady {α : Type} (b : Pair) (tools : List Tool) (x : Painting α) (after : List Tool) : Prop where
  ends : ∀ v w, b.At tools v w → b.Ends after (x.run.run v) (x.run.run w)

namespace Steady

variable {α β : Type} {b : Pair} {K L M : List Tool} {x : Painting α}

theorem pure (a : α) : Steady b K (pure a) K := ⟨fun _ _ h => .done h⟩

theorem bind {k : α → Painting β} (hx : Steady b K x L) (hk : ∀ a, Steady b L (k a) M) : Steady b K (x >>= k) M := by
  refine ⟨fun v w h => ?_⟩
  have hends := hx.ends v w h
  rw [Effect.run_bind, Effect.run_bind]
  rcases hv : x.run.run v with ⟨r, v'⟩
  rcases hw : x.run.run w with ⟨s, w'⟩
  rw [hv, hw] at hends
  cases hends with
  | done h' => exact (hk _).ends _ _ h'
  | failed h' => exact .failed h'

theorem tryCatch {k : Failure → Painting α} (hx : Steady b K x L) (hk : ∀ f, Steady b [] (k f) L) :
    Steady b K (tryCatch x k) L := by
  refine ⟨fun v w h => ?_⟩
  have hends := hx.ends v w h
  rw [Effect.run_tryCatch, Effect.run_tryCatch]
  rcases hv : x.run.run v with ⟨r, v'⟩
  rcases hw : x.run.run w with ⟨s, w'⟩
  rw [hv, hw] at hends
  cases hends with
  | done h' => exact .done h'
  | failed h' => exact (hk _).ends _ _ h'

theorem throw (f : Failure) : Steady b K (throw f : Painting α) L :=
  ⟨fun _ _ h => .failed (h.mono (List.nil_subset K))⟩

theorem ite {p : Prop} [Decidable p] {y : Painting α} (hx : p → Steady b K x L) (hy : ¬ p → Steady b K y L) :
    Steady b K (if p then x else y) L := by
  by_cases hp : p
  · rw [if_pos hp]
    exact hx hp
  · rw [if_neg hp]
    exact hy hp

theorem orElse {isLetOff : Failure → Bool} {other : Failure → Painting α} (hx : Steady b K x L)
    (hother : ∀ f, Steady b [] (other f) L) : Steady b K (x.orElse isLetOff other) L :=
  hx.tryCatch fun f => .ite (fun _ => hother f) fun _ => .throw f

/-- fewer tools are enough to go on with -/
theorem weaken (hx : Steady b K x L) (h : M ⊆ L) : Steady b K x M := by
  refine ⟨fun v w hvw => ?_⟩
  have hends := hx.ends v w hvw
  rcases hv : x.run.run v with ⟨r, v'⟩
  rcases hw : x.run.run w with ⟨s, w'⟩
  rw [hv, hw] at hends
  cases hends with
  | done h' => exact .done (h'.mono h)
  | failed h' => exact .failed h'

/-! ## Steps off the surface -/

/-- what reads the same in both documents, and changes neither surface -/
theorem aside (hcanvas : ∀ u, (x.run.run u).2.canvas = u.canvas)
    (hlevel : ∀ v w, b.At K v w → (x.run.run v).1 = (x.run.run w).1 ∧ (x.run.run v).2.Level (x.run.run w).2) :
    Steady b K x K := by
  refine ⟨fun v w h => ?_⟩
  obtain ⟨hsame, hafter⟩ := hlevel v w h
  obtain ⟨calls, hcalls, htools⟩ := h
  have hat := hcalls.of_canvas (hcanvas v) (hcanvas w) hafter
  rcases hv : x.run.run v with ⟨r, v'⟩
  rcases hw : x.run.run w with ⟨s, w'⟩
  rw [hv, hw] at hsame hat
  dsimp only at hsame
  subst hsame
  cases r with
  | ok a => exact .done ⟨calls, hat, htools⟩
  | error f => exact .failed ⟨calls, hat, by simp⟩

theorem ofExcept (r : Except Failure α) : Steady b K (Painting.ofExcept r) K :=
  aside (fun _ => rfl) fun _ _ ⟨_, h, _⟩ => ⟨rfl, h.level⟩

/-- a result that was read: what comes after it may rely on what was read -/
theorem ofExcept_bind {r : Except Failure α} {k : α → Painting β} (hk : ∀ a, r = .ok a → Steady b K (k a) M) :
    Steady b K (Painting.ofExcept r >>= k) M := by
  cases r with
  | ok a => exact ⟨(hk a rfl).ends⟩
  | error f => exact ⟨(throw f).ends⟩

theorem note (n : Note) : Steady b K (Painting.note n) K := by
  refine aside (fun _ => rfl) fun v w ⟨_, h, _⟩ => ⟨rfl, ?_⟩
  obtain ⟨hcanvas, htrace, hissues, hnotes, hrequests⟩ := h.level
  exact ⟨hcanvas, htrace, hissues, congrArg (· ++ [n]) hnotes, hrequests⟩

theorem ofNoting (y : Noting α) : Steady b K (Painting.ofNoting y) K := by
  refine aside (fun _ => rfl) fun v w ⟨_, h, _⟩ => ?_
  obtain ⟨hcanvas, htrace, hissues, hnotes, hrequests⟩ := h.level
  exact ⟨congrArg (fun notes => (y.run.run notes).1) hnotes, hcanvas, htrace, hissues,
    congrArg (fun notes => (y.run.run notes).2) hnotes, hrequests⟩

theorem load (assets : Assets) (source : Value) : Steady b K (Painting.load assets source) K := by
  refine aside (fun _ => rfl) fun v w ⟨_, h, _⟩ => ?_
  obtain ⟨hcanvas, htrace, hissues, hnotes, hrequests⟩ := h.level
  have hload : assets.loadAfter v.requests source = assets.loadAfter w.requests source := by rw [hrequests]
  have hresult : (assets.loadAfter v.requests source).1 = (assets.loadAfter w.requests source).1 := by rw [hload]
  exact ⟨hresult, hcanvas, htrace, hissues, hnotes, congrArg Prod.snd hload⟩

theorem record (component : String) (mark : Mark) (place : Point) (text : String) :
    Steady b K (Painting.record component mark place text) K := by
  refine aside (fun _ => rfl) fun v w ⟨_, h, _⟩ => ⟨rfl, ?_⟩
  obtain ⟨hcanvas, htrace, hissues, hnotes, hrequests⟩ := h.level
  refine ⟨hcanvas, ?_, hissues, hnotes, hrequests⟩
  show v.trace ++ [⟨v.canvas.pages, _, _, _, _, _⟩] = w.trace ++ [⟨w.canvas.pages, _, _, _, _, _⟩]
  rw [htrace, hcanvas.pages]

/-- looking at what is the same in both documents -/
theorem get {k : Work → Painting β} (hsame : ∀ v w, v.Level w → k v = k w) (hk : ∀ u, Steady b K (k u) L) :
    Steady b K (MonadState.get >>= k) L := by
  refine ⟨fun v w h => ?_⟩
  obtain ⟨calls, hcalls, htools⟩ := h
  show b.Ends L ((k v).run.run v) ((k w).run.run w)
  rw [hsame v w hcalls.level]
  exact (hk w).ends v w ⟨calls, hcalls, htools⟩

/-! ## Steps on the surface -/

/-- a call that brings no font to hand, and draws with tools that are -/
theorem call {c : Call} (hmade : c.isCarriedOut = true) (hc : c.tool? ≠ some .font) (huses : c.uses ⊆ K) :
    Steady b K (Painting.call c hmade) (c.tool?.toList ++ K) := ⟨fun _ _ h => .done (h.record hc huses)⟩

/-- the same for a call that is made once its arguments are checked -/
theorem checked {check : Canvas → Except Failure Unit} {c : Call}
    (hcheck : ∀ v w, b.At K v w → check v.canvas = check w.canvas) (hc : c.tool? ≠ some .font) (huses : c.uses ⊆ K) :
    Steady b K (Painting.draw fun s => (check s).map fun _ => s.record c) (c.tool?.toList ++ K) := by
  refine ⟨fun v w h => ?_⟩
  rw [Painting.run_draw, Painting.run_draw, hcheck v w h]
  cases check w.canvas with
  | ok a => exact .done (h.record hc huses)
  | error f => exact .failed (h.mono (List.nil_subset K))

theorem setTextColour (rgb : Rgb) : Steady b K (Painting.draw (·.setTextColour rgb)) (.textColour :: K) :=
  checked (c := .textColour rgb) (fun _ _ _ => rfl) nofun (List.nil_subset K)

theorem setFillColour (rgb : Rgb) : Steady b K (Painting.draw (·.setFillColour rgb)) (.fillColour :: K) :=
  checked (c := .fillColour rgb) (fun _ _ _ => rfl) nofun (List.nil_subset K)

theorem setDrawColour (rgb : Rgb) : Steady b K (Painting.draw (·.setDrawColour rgb)) (.drawColour :: K) :=
  checked (c := .drawColour rgb) (fun _ _ _ => rfl) nofun (List.nil_subset K)

theorem lineWidth (width : Float) : Steady b K (Painting.call (.lineWidth width) rfl) (.lineWidth :: K) :=
  call (c := .lineWidth width) rfl nofun (List.nil_subset K)

/-- whether an image is turned away is no matter of the document -/
theorem image (l : Library) (i : PreparedImage) (place : Point) (size : Size) :
    Steady b K (Painting.draw (·.image l i place size)) K :=
  checked (c := .image place.x place.y size.width size.height) (fun _ _ _ => rfl) nofun (List.nil_subset K)

/-- with a font chosen, the same texts can be shown -/
theorem checkText_eq (hfont : .font ∈ K) (cs : List Char) (v w : Work) (h : b.At K v w) :
    v.canvas.checkText cs = w.canvas.checkText cs := by
  obtain ⟨calls, hcalls, htools⟩ := h
  exact Canvas.checkText_congr hcalls.level.canvas.fonts (hcalls.chosen (htools .font hfont)).1 cs

theorem text (huses : [.font, .textColour] ⊆ K) (x y : Float) (s : String) :
    Steady b K (Painting.draw (·.text x y s)) K :=
  checked (c := .text x y s) (checkText_eq (huses (by simp)) s.toList) nofun huses

theorem cell {fill : Bool} (huses : (Call.cell 0.0 0.0 "" fill).uses ⊆ K) (w h : Float) (s : String) :
    Steady b K (Painting.draw (·.cell w h s fill)) K :=
  checked (c := .cell w h s fill) (checkText_eq (huses (by simp [Call.uses])) s.toList) nofun huses

/-- **Choosing a font** by name brings the same face to hand, and the same size unless a size of zero is asked for -/
theorem setFont {family : String} (hfamily : family ≠ "") (style : String) {size : Float}
    (hsize : b.measured → (size == 0.0) = false) :
    Steady b K (Painting.draw (·.setFont family style size)) (.font :: K) := by
  refine ⟨fun v w ⟨calls, h, htools⟩ => ?_⟩
  have hcanvas := h.level.canvas
  have hsame : w.canvas.faceFor family style = v.canvas.faceFor family style :=
    Canvas.faceFor_congr hcanvas.fonts.symm hfamily style
  have hknows := Canvas.knows_faceFor_congr hcanvas.fonts.symm hfamily style
  rw [Painting.run_draw, Painting.run_draw]
  rcases Canvas.setFont_spec (hcanvas.left.hasFace hfamily style) size with
    ⟨hknown, c, hc, -⟩ | ⟨hunknown, f, hf, -⟩
  · rcases Canvas.setFont_spec (hcanvas.right.hasFace hfamily style) size with
      ⟨-, d, hd, -⟩ | ⟨hunknown, -⟩
    · rw [hc, hd]
      refine .done ⟨_, h.setFont hfamily hc hd hsize, fun t ht => provides_concat.2 ?_⟩
      rcases List.mem_cons.1 ht with rfl | ht
      · exact .inr rfl
      · exact .inl (htools t ht)
    · exact absurd (hknows.2 hknown) hunknown
  · rcases Canvas.setFont_spec (hcanvas.right.hasFace hfamily style) size with
      ⟨hknown, -⟩ | ⟨-, g, hg, -⟩
    · exact absurd (hknows.1 hknown) hunknown
    · rw [hf, hg, (Canvas.setFont_eq_error hf).2, (Canvas.setFont_eq_error hg).2, hsame]
      exact .failed ⟨calls, h, by simp⟩

/-! ## Measuring -/

/-- with a font chosen, texts that are measured have the same width -/
theorem measure (hmeasured : b.measured) (hfont : .font ∈ K) (cs : List Char) :
    Steady b K (Painting.measure cs) K := by
  refine aside (fun _ => rfl) fun v w ⟨calls, h, htools⟩ => ⟨?_, h.level⟩
  obtain ⟨hface, hsize⟩ := h.chosen (htools .font hfont)
  exact Canvas.textWidth_congr h.level.canvas.fonts hface (hsize hmeasured) cs

theorem foldlM {γ δ : Type} {f : γ → δ → Painting γ} (hf : ∀ a d, Steady b K (f a d) K) (ds : List δ) (a : γ) :
    Steady b K (ds.foldlM f a) K := by
  induction ds generalizing a with
  | nil => exact .pure a
  | cons d rest ih =>
    rw [List.foldlM_cons]
    exact (hf a d).bind ih

section Widths

variable {width : List Char → Painting Float} (hwidth : ∀ cs, Steady b K (width cs) K) (limit : Float)

include hwidth

theorem breakWord (chunk word : List Char) : Steady b K (Text.breakWord width limit chunk word) K := by
  induction word generalizing chunk with
  | nil => exact .pure _
  | cons x rest ih =>
    unfold Text.breakWord
    refine .ite (fun _ => ih _) fun _ => (hwidth _).bind fun reach => .ite (fun _ => ?_) fun _ => ih _
    exact (ih [x]).bind fun parts => .pure _

theorem placeWord (g : Text.Wrapping) (word : List Char) : Steady b K (Text.placeWord width limit g word) K := by
  unfold Text.placeWord
  refine (hwidth _).bind fun reach => .ite (fun _ => .pure _) fun _ => ?_
  refine (hwidth _).bind fun reach' => .ite (fun _ => .pure _) fun _ => ?_
  exact (breakWord hwidth limit [] word).bind fun parts => .pure _

theorem wrapLine (line : List Char) : Steady b K (Text.wrapLine width limit line) K := by
  unfold Text.wrapLine
  refine .ite (fun _ => .pure _) fun _ => ?_
  exact (foldlM (placeWord hwidth limit) _ _).bind fun g => .pure _

theorem wrapLines (ls : List (List Char)) : Steady b K (Text.wrapLines width limit ls) K := by
  induction ls with
  | nil => exact .pure _
  | cons line rest ih =>
    exact (wrapLine hwidth limit line).bind fun here => ih.bind fun others => .pure _

theorem wrap (text : List Char) : Steady b K (Text.wrap width limit text) K := wrapLines hwidth limit _

theorem trimToFit (reversed : List Char) : Steady b K (Text.trimToFit width limit reversed) K := by
  induction reversed with
  | nil => exact .pure _
  | cons x rest ih =>
    unfold Text.trimToFit
    exact (hwidth _).bind fun reach => .ite (fun _ => ih) fun _ => .pure _

theorem fit (text : List Char) : Steady b K (Text.fit width limit text) K := by
  unfold Text.fit
  exact (hwidth text).bind fun reach => .ite (fun _ => .pure _) fun _ => trimToFit hwidth limit _

end Widths

end Steady

end ReportPress
