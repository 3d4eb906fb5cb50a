import ReportPress.Proofs.Paint.Lines
import ReportPress.Proofs.Paint.Reading
/-!
Texts and the font at hand. A text of the template or the record is encoded for the family at hand before it is
measured or drawn: for a family from a file it is left as it is, for any other it is reduced to Latin-1. As long as no
family from a file has the name of a built-in one, the font at hand then has all characters of the text, so no component
fails for lack of one.

- `Job.NamesApart`: the condition on the names, for all families; `Job.Apart` is that for one. `Apart.shows`: what is
  encoded can be shown.
- `encode_succeeds`, `encodeAll_succeeds`: texts encoded. `paintLines_succeeds`, `paintRow_succeeds`: texts drawn.
- `Painting.Legible`: a run that does not fail for lack of a character, and has a font at hand after it.
- `legible_paint`: the painters of components. `legible_place`: the issues of a component.
-/

namespace ReportPress

namespace Canvas

/-- a face that is built in has its place in the table -/
theorem exists_builtIn {face : String × String} (h : isBuiltIn face = true) :
    ∃ entry ∈ Font.builtIn, entry.1 = face := by
  obtain ⟨widths, hwidths⟩ := Option.isSome_iff_exists.1 h
  exact ⟨(face, widths), mem_of_lookup hwidths, rfl⟩

/-- all styles of a built-in family are built in, the plain one among them -/
theorem isBuiltIn_plain {family style : String} (h : isBuiltIn (family, style) = true) :
    isBuiltIn (family, "") = true := by
  have hall : ∀ entry ∈ Font.builtIn, isBuiltIn (entry.1.1, "") = true := by decide +kernel
  obtain ⟨⟨⟨_, _⟩, widths⟩, hentry, ⟨⟩⟩ := exists_builtIn h
  exact hall _ hentry

end Canvas

/-- a family from a file does not have the name of a built-in one -/
def Job.Apart (j : Job) (family : String) : Prop := family ∈ j.fileFamilies → Canvas.isBuiltIn (family, "") = false

/-- no family from a file has the name of a built-in one -/
def Job.NamesApart (j : Job) : Prop := ∀ family ∈ j.fileFamilies, Canvas.isBuiltIn (family, "") = false

/-- **Encoded texts** can be shown by the font at hand, if it is not named alike -/
theorem Job.Apart.shows {j : Job} {c : Canvas} (hapart : j.Apart c.family) (hface : c.HasFace) (text : String) :
    c.Shows (j.encodeIn c.family text).toList := by
  unfold Job.encodeIn
  split
  · next hfile =>
    have hname := hapart (List.contains_iff_mem.1 hfile)
    -- the font at hand is not built in, so it is from a file, and has all characters
    have hfont : (c.fromFile? c.family c.style).isSome = true := by
      refine hface.resolve_left fun hbuilt => ?_
      rw [Canvas.isBuiltIn_plain hbuilt] at hname
      cases hname
    intro x _
    rw [Canvas.shows, hfont, Bool.true_or]
  · exact c.shows_of_isLatin (Text.latin_isLatin text)

theorem Job.Apart.shows_map {j : Job} {c : Canvas} (hapart : j.Apart c.family) (hface : c.HasFace)
    (texts : List String) : ∀ t ∈ texts.map (j.encodeIn c.family), c.Shows t.toList := by
  intro t ht
  obtain ⟨text, -, rfl⟩ := List.mem_map.1 ht
  exact hapart.shows hface text

/-- with all names apart that is so for whatever font is at hand -/
theorem Job.NamesApart.shows {j : Job} (hj : j.NamesApart) {c : Canvas} (hface : c.HasFace) (text : String) :
    c.Shows (j.encodeIn c.family text).toList :=
  Job.Apart.shows (hj c.family) hface text

variable {j : Job} {w : Work} {c : Component} {s : Spot}

theorem encode_succeeds (hj : j.NamesApart) (hw : w.canvas.HasFace) (text : String) :
    Succeeds w (j.encode text) fun t v => v = w ∧ w.canvas.Shows t.toList :=
  ⟨_, w, j.run_encode text w, rfl, hj.shows hw text⟩

namespace Text

/-- what is on a line is in the text, or in the part of the line before it -/
theorem mem_linesFrom {before cs line : List Char} (h : line ∈ linesFrom before cs) :
    ∀ x ∈ line, x ∈ before ∨ x ∈ cs := by
  fun_induction linesFrom before cs with
  | case1 before hempty => cases h
  | case2 before hempty =>
    rw [List.mem_singleton] at h
    subst h
    exact fun x hx => .inl (List.mem_reverse.1 hx)
  | case3 before rest ih =>
    rcases List.mem_cons.1 h with rfl | h
    · exact fun x hx => .inl (List.mem_reverse.1 hx)
    · exact fun x hx => (ih h x hx).elim nofun fun hrest => .inr (.tail _ (.tail _ hrest))
  | case4 before c rest _ hend ih =>
    rcases List.mem_cons.1 h with rfl | h
    · exact fun x hx => .inl (List.mem_reverse.1 hx)
    · exact fun x hx => (ih h x hx).elim nofun fun hrest => .inr (.tail _ hrest)
  | case5 before c rest _ hend ih =>
    intro x hx
    rcases ih h x hx with hbefore | hrest
    · rcases List.mem_cons.1 hbefore with rfl | hbefore
      · exact .inr List.mem_cons_self
      · exact .inl hbefore
    · exact .inr (.tail _ hrest)

end Text

namespace Paint

open Painting

/-! ## Texts that are drawn -/

/-- a text that can be shown can be shown line by line -/
theorem linesShow_of_shows {text : String} (h : w.canvas.Shows text.toList) : LinesShow w text :=
  fun _ hline x hx => (Text.mem_linesFrom hline x hx).elim nofun (h x)

theorem paintLines_succeeds (origin : Point) (step : Float) (i : ℕ) {lines : List (List Char)}
    (h : ∀ line ∈ lines, w.canvas.Shows line) :
    Succeeds w (paintLines origin step i lines) fun _ v => Work.Draws w v := by
  rcases paintLines_spec origin step i lines w with ⟨-, v, hrun, hdraws, -⟩ | ⟨hno, -⟩
  · exact ⟨(), v, hrun, hdraws⟩
  · exact absurd h hno

theorem encodeAll_succeeds (hj : j.NamesApart) (hw : w.canvas.HasFace) (texts : List String) :
    Succeeds w (encodeAll j texts) fun shown v => v = w ∧ ∀ t ∈ shown, w.canvas.Shows t.toList :=
  ⟨_, w, run_encodeAll j texts w, rfl, Job.Apart.shows_map (hj w.canvas.family) hw texts⟩

theorem cell_succeeds {width height : Float} {text : String} {fill : Bool} (h : w.canvas.Shows text.toList) :
    Succeeds w (draw (·.cell width height text fill)) fun _ v =>
      v.canvas.face = w.canvas.face ∧ Work.Draws w v := by
  rcases w.canvas.cell_spec width height text fill with ⟨-, hd⟩ | ⟨hno, -⟩
  · exact (Succeeds.draw hd (Canvas.keeps_record ..)).imp fun _ v hv => ⟨by rw [hv.1]; rfl, hv.2⟩
  · exact absurd h hno

/-- cells are drawn one after the other, and the font stays at hand -/
theorem paintCells_succeeds (x y height : Float) (fill : Bool) {cells : List (Float × String)}
    (h : ∀ cell ∈ cells, w.canvas.Shows cell.2.toList) :
    Succeeds w (paintCells x y height fill cells) fun _ v => Work.Draws w v := by
  induction cells generalizing x w with
  | nil => exact .pure (.refl w)
  | cons cell rest ih =>
    refine Succeeds.bind (Q := fun _ v => v.canvas.face = w.canvas.face ∧ Work.Draws w v)
      ⟨(), _, rfl, rfl, Canvas.keeps_record .., rfl, rfl⟩ fun _ v₁ hmoved => ?_
    obtain ⟨hface₁, h₁⟩ := hmoved
    have hcell := (Canvas.shows_congr h₁.canvas.fonts hface₁ _).2 (h cell List.mem_cons_self)
    refine (Succeeds.gauge (Text.gauges_fit _) hcell).bind fun shown v₂ hfitted => ?_
    obtain ⟨rfl, hshown⟩ := hfitted
    refine (cell_succeeds (String.toList_ofList ▸ hshown)).bind fun _ v₃ hdrawn => ?_
    obtain ⟨hface₃, h₃⟩ := hdrawn
    have hall := h₁.trans h₃
    refine (ih _ fun next hnext => ?_).imp fun _ v hv => hall.trans hv
    exact (Canvas.shows_congr hall.canvas.fonts (hface₃.trans hface₁) _).2 (h next (.tail _ hnext))

theorem paintRow_succeeds (mark : Mark) (place : Point) (height : Float) (widths : List Float) (fill : Bool)
    {texts : List String} (h : ∀ t ∈ texts, w.canvas.Shows t.toList) :
    Succeeds w (paintRow c mark place height widths fill texts) fun _ v => w.canvas.Keeps v.canvas := by
  have hcells : Succeeds w (paintCells place.x place.y height fill (widths.zip texts)) fun _ v => Work.Draws w v :=
    paintCells_succeeds place.x place.y height fill fun cell hcell => h cell.2 (List.of_mem_zip hcell).2
  exact hcells.bind fun _ v hv => ⟨(), _, rfl, hv.canvas⟩

end Paint

/-! ## Runs -/

/-- run at `w` the computation does not fail for lack of a character, and keeps a font at hand that can be used -/
structure Painting.Legible {α : Type} (w : Work) (x : Painting α) : Prop where
  result : ReportPress.Legible (x.run.run w).1
  face : w.canvas.HasFace → (x.run.run w).2.canvas.HasFace

namespace Painting

variable {α β : Type} {x : Painting α}

namespace Legible

theorem pure (a : α) : Legible w (pure a) := ⟨.ok a, id⟩

theorem throw {f : Failure} (hf : f.isUnencodable = false) : Legible w (throw f : Painting α) := ⟨.error hf, id⟩

theorem bind {k : α → Painting β} (hx : Legible w x)
    (hk : ∀ a v, (w.canvas.HasFace → v.canvas.HasFace) → Legible v (k a)) : Legible w (x >>= k) := by
  obtain ⟨hresult, hface⟩ := hx
  have hrun := Effect.run_bind x k w
  rcases h : x.run.run w with ⟨f | a, v⟩
  · rw [h] at hrun hresult hface
    exact ⟨by rw [hrun]; exact .error (hresult f rfl), by rw [hrun]; exact hface⟩
  · rw [h] at hrun hface
    obtain ⟨hlast, hkept⟩ := hk a v hface
    exact ⟨by rw [hrun]; exact hlast, by rw [hrun]; exact hkept ∘ hface⟩

/-- behind a computation that succeeds, what it leaves is known -/
theorem after {Q : α → Work → Prop} {k : α → Painting β} (hx : Succeeds w x Q)
    (hkeeps : ∀ a v, Q a v → w.canvas.HasFace → v.canvas.HasFace) (hk : ∀ a v, Q a v → Legible v (k a)) :
    Legible w (x >>= k) := by
  obtain ⟨a, v, hrun, hq⟩ := hx
  obtain ⟨hresult, hface⟩ := hk a v hq
  have hall : (x >>= k).run.run w = (k a).run.run v := by rw [Effect.run_bind, hrun]
  exact ⟨hall ▸ hresult, fun hw => hall ▸ hface (hkeeps a v hq hw)⟩

theorem ite {p : Prop} [Decidable p] {x y : Painting α} (hx : Legible w x) (hy : Legible w y) :
    Legible w (if p then x else y) := by
  split
  · exact hx
  · exact hy

/-- a failure that is let off is followed by something else, any other stays -/
theorem orElse {isLetOff : Failure → Bool} {other : Failure → Painting α} (hx : Legible w x)
    (hother : ∀ f v, Legible v (other f)) : Legible w (x.orElse isLetOff other) := by
  obtain ⟨hresult, hface⟩ := hx
  have hrun := Effect.run_tryCatch x (fun f => if isLetOff f then other f else MonadExcept.throw f) w
  rcases h : x.run.run w with ⟨f | a, v⟩
  · rw [h] at hrun hresult hface
    have hrest : Legible v (if isLetOff f then other f else MonadExcept.throw f) :=
      .ite (hother f v) (.throw (hresult f rfl))
    exact ⟨by rw [Painting.orElse, hrun]; exact hrest.result, by rw [Painting.orElse, hrun]; exact hrest.face ∘ hface⟩
  · rw [h] at hrun hface
    exact ⟨by rw [Painting.orElse, hrun]; exact .ok a, by rw [Painting.orElse, hrun]; exact hface⟩

end Legible

theorem legible_ofExcept {r : Except Failure α} (h : ReportPress.Legible r) : Legible w (ofExcept r) := ⟨h, id⟩

theorem legible_call {c : Call} (h : c.isCarriedOut = true) : Legible w (call c h) := ⟨.ok (), id⟩

theorem legible_note (n : Note) : Legible w (note n) := ⟨.ok (), id⟩

theorem legible_record (component : String) (mark : Mark) (place : Point) (text : String) :
    Legible w (record component mark place text) := ⟨.ok (), id⟩

theorem legible_load (assets : Assets) (source : Value) : Legible w (load assets source) :=
  ⟨assets.legible_load w.requests source, id⟩

theorem legible_draw {f : Canvas → Except Failure Canvas} (hf : ReportPress.Legible (f w.canvas))
    (hkeeps : ∀ c d, f c = .ok d → c.Keeps d) : Legible w (draw f) := by
  refine ⟨?_, ((grows_draw (P := fun _ => True) (Q := fun _ => True) hkeeps).run w).canvas.face⟩
  rw [run_draw]
  split
  · exact .ok ()
  · next e he => exact .error (hf e he)

theorem legible_setFont (family style : String) (size : Float) : Legible w (draw (·.setFont family style size)) :=
  legible_draw (Canvas.legible_setFont _ family style size) fun _ _ => Canvas.keeps_setFont

theorem legible_image (l : Library) (image : PreparedImage) (place : Point) (size : Size) :
    Legible w (draw (·.image l image place size)) :=
  legible_draw (Canvas.legible_image _ l image place size) fun _ _ => Canvas.keeps_image

theorem legible_setTextColour (rgb : Rgb) : Legible w (draw (·.setTextColour rgb)) :=
  legible_draw ((Canvas.legible_checkColour rgb).map _) fun _ _ => Canvas.keeps_textColour

theorem legible_setFillColour (rgb : Rgb) : Legible w (draw (·.setFillColour rgb)) :=
  legible_draw ((Canvas.legible_checkColour rgb).map _) fun _ _ => Canvas.keeps_fillColour

theorem legible_setDrawColour (rgb : Rgb) : Legible w (draw (·.setDrawColour rgb)) :=
  legible_draw ((Canvas.legible_checkColour rgb).map _) fun _ _ => Canvas.keeps_drawColour

end Painting

namespace Paint

open Painting

/-! ## Painters -/

/-- the style of a text may fail to be applied, but not for lack of a character: nothing is measured or drawn -/
theorem legible_applyStyle : Painting.Legible w (applyStyle j c s) := by
  refine (legible_ofExcept (legible_styleNumber _ _)).bind fun size _ _ => ?_
  refine (legible_ofExcept (legible_colour j _ s _)).bind fun colour _ _ => ?_
  refine (legible_setFont _ _ _).bind fun _ _ _ => ?_
  exact (legible_setTextColour _).bind fun _ _ _ => .pure size

theorem legible_styleText : Painting.Legible w (styleText j c s) := by
  refine legible_applyStyle.orElse fun f _ => ?_
  refine (legible_note _).bind fun _ _ _ => ?_
  refine (legible_setFont _ _ _).bind fun _ _ _ => ?_
  exact (legible_setTextColour _).bind fun _ _ _ => .pure _

theorem legible_paintText (hj : j.NamesApart) (hw : w.canvas.HasFace) : Painting.Legible w (paintText j c s) := by
  refine (legible_ofExcept (legible_componentText c s)).bind fun text v hv => ?_
  refine .ite (.pure ()) ?_
  refine legible_styleText.bind fun size v₁ hv₁ => ?_
  -- from here on the font at hand is the one that the text is encoded for
  refine .after (encode_succeeds hj (hv₁ (hv hw)) text) (fun _ _ h => h.1 ▸ id) fun shown v₂ hencoded => ?_
  obtain ⟨rfl, hshown⟩ := hencoded
  have hlines := linesShow_of_shows hshown
  refine .after (Succeeds.gauge (gauges_textLines v₂ c shown) fun _ => hlines) (fun _ _ h => h.1 ▸ id)
    fun lines v₃ hwrapped => ?_
  obtain ⟨rfl, hall⟩ := hwrapped
  refine .after (paintLines_succeeds _ _ _ (hall.2 hlines)) (fun _ _ h => h.canvas.face) fun _ v₄ _ => ?_
  exact (legible_setTextColour _).bind fun _ _ _ => legible_record _ _ _ _

theorem legible_headerStyle (spec : TableSpec) (size : Float) :
    Painting.Legible w (headerStyle j c s spec size) := by
  refine (legible_ofExcept (legible_colour j _ s _)).bind fun fill _ _ => ?_
  refine (legible_ofExcept (legible_colour j _ s _)).bind fun border _ _ => ?_
  refine (legible_setDrawColour _).bind fun _ _ _ => ?_
  refine (legible_call _).bind fun _ _ _ => ?_
  refine (legible_setFillColour _).bind fun _ _ _ => ?_
  exact (legible_setFont _ _ _).bind fun _ _ _ => legible_setTextColour _

theorem legible_paintRows (hj : j.NamesApart) (columns : List Column) (widths : List Float) (x : Float)
    (limits : RowLimits) (y : Float) (i : ℕ) (rows : List Value) (hw : w.canvas.HasFace) :
    Painting.Legible w (paintRows j c columns widths x limits y i rows) := by
  induction rows generalizing y i w with
  | nil => exact .pure ()
  | cons row rest ih =>
    unfold paintRows
    refine .ite (.pure ()) ?_
    refine (legible_ofExcept (legible_cellTexts row columns)).bind fun cells v hv => ?_
    refine .after (encodeAll_succeeds hj (hv hw) cells) (fun _ _ h => h.1 ▸ id) fun texts v₁ hencoded => ?_
    obtain ⟨rfl, hshown⟩ := hencoded
    refine .after (paintRow_succeeds .tableRow _ _ _ _ hshown) (fun _ _ h => h.face) fun _ v₂ hv₂ => ?_
    exact ih _ _ (hv₂.face (hv hw))

theorem legible_paintTable (hj : j.NamesApart) (hw : w.canvas.HasFace) : Painting.Legible w (paintTable j c s) := by
  refine (legible_ofExcept (legible_readTable _ _)).bind fun spec v hv => ?_
  refine (legible_ofExcept (legible_resolve s.scope _)).bind fun found v₁ hv₁ => ?_
  split
  · refine (legible_ofExcept (legible_styleNumber _ _)).bind fun size v₂ hv₂ => ?_
    refine .bind ⟨.ok v₂, id⟩ fun seen v₃ hv₃ => ?_
    refine .ite (.pure ()) ?_
    refine (legible_headerStyle spec size).bind fun _ v₄ hv₄ => ?_
    have hhand : v₄.canvas.HasFace := hv₄ (hv₃ (hv₂ (hv₁ (hv hw))))
    refine .after (encodeAll_succeeds hj hhand _) (fun _ _ h => h.1 ▸ id) fun headers v₅ hencoded => ?_
    obtain ⟨rfl, hshown⟩ := hencoded
    refine .after (paintRow_succeeds .tableHeader _ _ _ _ hshown) (fun _ _ h => h.face) fun _ v₆ hv₆ => ?_
    refine (legible_setFont _ _ _).bind fun _ v₇ hv₇ => ?_
    exact legible_paintRows hj _ _ _ _ _ _ _ (hv₇ (hv₆.face hhand))
  · exact .pure ()

theorem legible_chooseFill (fill : Option Rgb) : Painting.Legible w (chooseFill fill) := by
  cases fill with
  | none => exact .pure ()
  | some rgb => exact legible_setFillColour rgb

theorem legible_chooseStroke (width : Value) (stroke : Option Rgb) :
    Painting.Legible w (chooseStroke width stroke) := by
  cases stroke with
  | none => exact .pure ()
  | some rgb =>
    refine (legible_setDrawColour rgb).bind fun _ _ _ => ?_
    exact (legible_ofExcept (legible_toNumber width)).bind fun _ _ _ => legible_call _

theorem legible_paintRectangle : Painting.Legible w (paintRectangle j c s) := by
  refine (legible_ofExcept (legible_colour j _ s _)).bind fun fill _ _ => ?_
  refine (legible_ofExcept (.ite (legible_colour j _ s _) (.ok _))).bind fun stroke _ _ => ?_
  refine (legible_chooseFill fill).bind fun _ _ _ => ?_
  refine (legible_chooseStroke _ stroke).bind fun _ _ _ => .ite (.pure ()) ?_
  exact (legible_call _).bind fun _ _ _ => legible_record _ _ _ _

theorem legible_paintLine : Painting.Legible w (paintLine j c s) := by
  refine (legible_ofExcept (legible_colour j _ s _)).bind fun colour _ _ => ?_
  refine (legible_setDrawColour _).bind fun _ _ _ => ?_
  refine (legible_ofExcept (legible_styleNumber _ _)).bind fun width _ _ => ?_
  refine (legible_call _).bind fun _ _ _ => ?_
  exact (legible_call _).bind fun _ _ _ => legible_record _ _ _ _

theorem legible_paintImage : Painting.Legible w (paintImage j c s) := by
  refine (legible_ofExcept (legible_imageSource c s)).bind fun named _ _ => ?_
  split
  · exact .pure ()
  · refine (legible_load j.assets _).bind fun image _ _ => ?_
    exact (legible_image _ _ _ _).bind fun _ _ _ => legible_record _ _ _ _

/-- **The painter of a component** does not fail for lack of a character -/
theorem legible_paint (hj : j.NamesApart) (hw : w.canvas.HasFace) : Painting.Legible w (paint j c s) := by
  unfold paint
  cases c.kind with
  | text => exact legible_paintText hj hw
  | image => exact legible_paintImage
  | table => exact legible_paintTable hj hw
  | rectangle => exact legible_paintRectangle
  | line => exact legible_paintLine
  | chart => exact .pure ()

end Paint

/-- a document with a font at hand that can be used, and no issue for lack of a character -/
structure Work.Legible (w : Work) : Prop where
  face : w.canvas.HasFace
  issues : ∀ i ∈ w.issues, i.failure.isUnencodable = false

/-- **A component** is painted without an issue for lack of a character -/
theorem Paint.legible_place (hj : j.NamesApart) (c : Component) (s : Spot) (hw : w.Legible) :
    ((place j c s).run.run w).2.Legible := by
  rw [place_run]
  rcases (decision c s).1 with f | _ | _
  · exact ⟨hw.face, hw.issues⟩
  · exact ⟨hw.face, hw.issues⟩
  · have hnoted : Work.Legible { w with notes := w.notes ++ (decision c s).2 } := ⟨hw.face, hw.issues⟩
    generalize { w with notes := w.notes ++ (decision c s).2 } = v at hnoted
    obtain ⟨hface, hissues⟩ := hnoted
    obtain ⟨hresult, hpainted⟩ := legible_paint (c := c) (s := s) hj hface
    have hgrow := (Paint.grows_paint (c := c) (Q := fun _ => False) j s).run v
    dsimp only
    rw [attempt_run]
    rcases hrun : (paint j c s).run.run v with ⟨f | u, v'⟩
    · rw [hrun] at hresult hpainted hgrow
      obtain ⟨_, u, hback, hkeeps, hadded, -⟩ := fallBack_run c s.origin ⟨c.id, c.kind, v'.canvas.pages, f⟩ v'
      dsimp only
      rw [hback]
      refine ⟨hkeeps.face (hpainted hface), ?_⟩
      rw [hadded, hgrow.issues_eq]
      exact List.forall_mem_append.2 ⟨hissues, List.forall_mem_singleton.2 (hresult f rfl)⟩
    · rw [hrun] at hresult hpainted hgrow
      refine ⟨hpainted hface, ?_⟩
      rw [hgrow.issues_eq]
      exact hissues

end ReportPress
