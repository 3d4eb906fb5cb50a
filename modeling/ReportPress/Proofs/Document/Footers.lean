import ReportPress.Proofs.Document.Completion
/-!
Footers. A page is ended in two places, by a page break and at the end of the document, and both draw its footer; what
comes after is on a later page. So of each page there is one footer, which is the last entry of the page.

- `footer_run`: what drawing a footer enters, with its label for the font that footers are set in.
- `Footed`: a document some pages of which are ended. Kept by contents of the page at hand (`Footed.grows`), and by the
  footer of that page, which ends it (`Footed.footer`); so each move keeps it (`Move.run_footed`), and all moves do
  (`Move.runAll_footed`).
- `render_footers`: the footers of a finished document.
-/

namespace ReportPress

namespace Footer

/-- the label of a page, for the font that footers are set in -/
def label (j : Job) (c : Canvas) (page : ℕ) : String :=
  j.encodeIn (c.faceFor j.family "").1 (pageLabel j.settings.footer.pageLabel page)

/-- what the footer of a page enters into the trace -/
def entry (j : Job) (c : Canvas) (page : ℕ) : Painted :=
  ⟨page, component, .footer, label j c page, roundThousandths j.template.config.margins.left,
    roundThousandths (c.height - textOffset)⟩

/-- what ending a page enters: nothing if there are to be no footers -/
def entries (j : Job) (c : Canvas) (page : ℕ) : List Painted :=
  if j.settings.footer.enabled then [entry j c page] else []

/-- footers depend on the fonts and the height of the surface alone -/
theorem entries_congr {j : Job} {c d : Canvas} (hnamed : j.family ≠ "") (hfonts : d.fonts = c.fonts)
    (hheight : d.height = c.height) (page : ℕ) : entries j d page = entries j c page := by
  unfold entries entry label
  rw [Canvas.faceFor_congr hfonts hnamed, hheight]

/-- ending several pages enters a footer for each, or nothing -/
theorem flatMap_entries (j : Job) (c : Canvas) (pages : List ℕ) :
    pages.flatMap (entries j c) = if j.settings.footer.enabled then pages.map (entry j c) else [] := by
  unfold entries
  split
  · exact List.flatMap_pure_eq_map _ _
  · exact List.flatMap_eq_nil_iff.2 fun _ _ => rfl

end Footer

open Painting in
/-- **Drawing a footer** enters the footer of the page at hand, if there are to be footers -/
theorem footer_run {j : Job} {w v : Work} (hnamed : j.family ≠ "") (h : (Footer.draw j).run.run w = (.ok (), v)) :
    v.trace = w.trace ++ Footer.entries j w.canvas w.canvas.pages := by
  unfold Footer.draw at h
  unfold Footer.entries
  dsimp only at h
  by_cases henabled : j.settings.footer.enabled = true
  · rw [if_pos henabled]
    rw [henabled, Bool.not_true, if_neg Bool.false_ne_true] at h
    obtain ⟨a, w₀, hget, h⟩ := Effect.run_bind_eq_ok h
    cases hget
    obtain ⟨_, w₁, h₁, h⟩ := Effect.run_bind_eq_ok h
    obtain ⟨_, w₂, h₂, h⟩ := Effect.run_bind_eq_ok h
    obtain ⟨_, w₃, h₃, h⟩ := Effect.run_bind_eq_ok h
    obtain ⟨_, w₄, h₄, h⟩ := Effect.run_bind_eq_ok h
    obtain ⟨_, w₅, h₅, h⟩ := Effect.run_bind_eq_ok h
    obtain ⟨title, w₆, h₆, h⟩ := Effect.run_bind_eq_ok h
    obtain ⟨_, w₇, h₇, h⟩ := Effect.run_bind_eq_ok h
    obtain ⟨label, w₈, h₈, h⟩ := Effect.run_bind_eq_ok h
    obtain ⟨width, w₉, h₉, h⟩ := Effect.run_bind_eq_ok h
    obtain ⟨_, w₁₀, h₁₀, h⟩ := Effect.run_bind_eq_ok h
    obtain ⟨_, w₁₁, h₁₁, hrecord⟩ := Effect.run_bind_eq_ok h
    rw [Job.run_encode] at h₆ h₈
    cases h₆
    cases h₈
    -- up to the font nothing has been entered, and the fonts are those at the start
    have hstart : Work.Grows (fun _ => False) (fun _ => False) w w₃ :=
      (((grows_setDrawColour _).of_run h₁).trans ((grows_call _).of_run h₂)).trans ((grows_call _).of_run h₃)
    have hrest : Work.Grows (fun _ => False) (fun _ => False) w₃ w₁₁ :=
      (((((grows_setFont ..).of_run h₄).trans ((grows_setTextColour _).of_run h₅)).trans
        ((grows_text ..).of_run h₇)).trans ((grows_measure _).of_run h₉)).trans
          (((grows_text ..).of_run h₁₀).trans ((grows_setTextColour _).of_run h₁₁))
    have hall := hstart.trans hrest
    -- the label is encoded for the font chosen: what is drawn in between leaves it at hand
    have hface : w₇.canvas.face = w.canvas.faceFor j.family "" := by
      obtain ⟨c₄, hc₄, rfl⟩ := draw_eq_ok h₄
      obtain ⟨c₅, hc₅, rfl⟩ := draw_eq_ok h₅
      obtain ⟨c₇, hc₇, rfl⟩ := draw_eq_ok h₇
      calc c₇.face = c₅.face := Canvas.face_of_check hc₇
        _ = c₄.face := Canvas.face_of_check hc₅
        _ = w₃.canvas.faceFor j.family "" := Canvas.face_of_setFont hc₄
        _ = w.canvas.faceFor j.family "" := Canvas.faceFor_congr hstart.canvas.fonts hnamed ""
    have hfamily : w₇.canvas.family = (w.canvas.faceFor j.family "").1 := congrArg Prod.fst hface
    cases hrecord
    show w₁₁.trace ++ _ = _
    rw [hall.trace_eq, hall.canvas.pages, hfamily]
    rfl
  · rw [if_neg henabled, List.append_nil]
    rw [Bool.not_eq_true] at henabled
    rw [henabled, Bool.not_false, if_pos rfl] at h
    cases h
    rfl

/-! ## Ended pages -/

/-- a document that started on the surface `c`, of which the first `n` pages are ended: it has their footers, and
nothing that was entered after a footer is on the page of that footer -/
structure Footed (j : Job) (c : Canvas) (n : ℕ) (w : Work) : Prop where
  fonts : w.canvas.fonts = c.fonts
  height : w.canvas.height = c.height
  footers : w.trace.filter (·.mark = .footer) = (List.range' 1 n).flatMap (Footer.entries j c)
  ended : ∀ p ∈ w.trace, p.mark = .footer → p.page ≤ n
  last : w.trace.Pairwise fun p q => p.mark = .footer → p.page < q.page

namespace Footed

variable {j : Job} {c : Canvas} {n : ℕ} {w v : Work}

/-- contents of the page at hand, which is not ended yet -/
theorem grows {Q : Issue → Prop} (h : Footed j c n w) (hpage : w.canvas.pages = n + 1)
    (hgrow : Work.Grows (fun p => p.mark ≠ .footer) Q w v) : Footed j c n v := by
  obtain ⟨added, htrace, hadded⟩ := hgrow.trace
  have hnone : added.filter (·.mark = .footer) = [] := by
    rw [List.filter_eq_nil_iff]
    intro p hp
    simpa using (hadded p hp).2
  refine ⟨hgrow.canvas.fonts.trans h.fonts, hgrow.canvas.height.trans h.height, ?_, ?_, ?_⟩
  · rw [htrace, List.filter_append, hnone, List.append_nil]
    exact h.footers
  · intro p hp hfooter
    rw [htrace] at hp
    rcases List.mem_append.1 hp with hp | hp
    · exact h.ended p hp hfooter
    · exact absurd hfooter (hadded p hp).2
  · rw [htrace, List.pairwise_append]
    refine ⟨h.last, ?_, ?_⟩
    · refine List.pairwise_of_forall_mem_list fun p hp q _ hfooter => ?_
      exact absurd hfooter (hadded p hp).2
    · intro p hp q hq hfooter
      rw [(hadded q hq).1, hpage]
      exact Nat.lt_succ_of_le (h.ended p hp hfooter)

/-- the footer of the page at hand ends it -/
theorem footer (h : Footed j c n w) (hpage : w.canvas.pages = n + 1) (hnamed : j.family ≠ "")
    (hrun : (Footer.draw j).run.run w = (.ok (), v)) : Footed j c (n + 1) v := by
  have hkeeps := ((Paint.grows_footer j).of_run hrun).canvas
  have htrace : v.trace = w.trace ++ Footer.entries j c (n + 1) := by
    rw [footer_run hnamed hrun, hpage, Footer.entries_congr hnamed h.fonts h.height]
  have hentries : ∀ p ∈ Footer.entries j c (n + 1), p.mark = .footer ∧ p.page = n + 1 := by
    intro p hp
    unfold Footer.entries at hp
    split at hp
    · rw [List.mem_singleton.1 hp]
      exact ⟨rfl, rfl⟩
    · cases hp
  have hall : (Footer.entries j c (n + 1)).filter (·.mark = .footer) = Footer.entries j c (n + 1) :=
    List.filter_eq_self.2 fun p hp => decide_eq_true (hentries p hp).1
  refine ⟨hkeeps.fonts.trans h.fonts, hkeeps.height.trans h.height, ?_, ?_, ?_⟩
  · rw [htrace, List.filter_append, h.footers, hall, List.range'_concat, List.flatMap_append, Nat.one_mul,
      Nat.add_comm 1 n, List.flatMap_singleton]
  · intro p hp hfooter
    rw [htrace] at hp
    rcases List.mem_append.1 hp with hp | hp
    · exact (h.ended p hp hfooter).trans (Nat.le_succ n)
    · exact (hentries p hp).2.le
  · rw [htrace, List.pairwise_append]
    refine ⟨h.last, ?_, ?_⟩
    · unfold Footer.entries
      split
      · exact List.pairwise_singleton _ _
      · exact List.Pairwise.nil
    · intro p hp q hq hfooter
      rw [(hentries q hq).2]
      exact Nat.lt_succ_of_le (h.ended p hp hfooter)

/-- the start of the next page enters nothing -/
theorem addPage (h : Footed j c n w) : Footed j c n { w with canvas := w.canvas.addPage } :=
  ⟨h.fonts, h.height, h.footers, h.ended, h.last⟩

end Footed

/-- a document on a page that is not ended, all pages before it being ended -/
def Work.IsOpen (j : Job) (c : Canvas) (w : Work) : Prop := ∃ n, w.canvas.pages = n + 1 ∧ Footed j c n w

/-- **Carrying out a move** leads from an open page to an open page -/
theorem Move.run_footed {j : Job} {c : Canvas} {m : Move} {w v : Work} (hnamed : j.family ≠ "")
    (h : w.IsOpen j c) (hrun : (m.run j).run.run w = (.ok (), v)) : v.IsOpen j c := by
  obtain ⟨n, hpage, hfooted⟩ := h
  have hstay : Work.Grows (fun p => p.mark ≠ .footer) (fun _ => True) w v → v.IsOpen j c := by
    intro hgrow
    exact ⟨n, hgrow.canvas.pages.trans hpage, hfooted.grows hpage hgrow⟩
  cases m with
  | note note => exact hstay ((Painting.grows_note note).of_run hrun)
  | stop f => cases hrun
  | put p => exact hstay ((grows_put j p).of_run hrun)
  | turn =>
    obtain ⟨_, u, hfooter, hnew⟩ := Effect.run_bind_eq_ok hrun
    have hended := hfooted.footer hpage hnamed hfooter
    have hpages : u.canvas.pages = n + 1 := ((Paint.grows_footer j).of_run hfooter).canvas.pages.trans hpage
    cases hnew
    exact ⟨n + 1, congrArg Nat.succ hpages, hended.addPage⟩

/-- carrying out moves one after the other leads from an open page to an open page -/
theorem Move.runAll_footed {j : Job} {c : Canvas} {moves : List Move} {w v : Work} (hnamed : j.family ≠ "")
    (h : w.IsOpen j c) (hrun : (runAll j moves).run.run w = (.ok (), v)) : v.IsOpen j c := by
  induction moves generalizing w with
  | nil =>
    cases hrun
    exact h
  | cons m rest ih =>
    obtain ⟨_, u, hm, hrest⟩ := Effect.run_bind_eq_ok hrun
    exact ih (run_footed hnamed h hm) hrest

/-- a document without an entry on its first page is open there -/
theorem Work.isOpen_start {j : Job} {w : Work} (hpages : w.canvas.pages = firstPage) (htrace : w.trace = []) :
    w.IsOpen j w.canvas := by
  refine ⟨0, hpages, rfl, rfl, ?_, ?_, ?_⟩
  · rw [htrace]
    rfl
  · rw [htrace]
    exact nofun
  · rw [htrace]
    exact List.Pairwise.nil

/-- **The footers of a finished document.** There is one for each page, in the order of the pages, with the label of the
page for the font that footers are set in, or none at all if there are to be no footers; and what is entered after the
footer of a page is on a later page. -/
theorem Renderer.render_footers {r : Renderer} {t : Template} {record : Value} {d : Rendered}
    (h : r.render t record = .done d) :
    d.job.template = t ∧ d.job.settings = r.settings ∧
      d.work.trace.filter (·.mark = .footer) =
        (if r.settings.footer.enabled then (List.range' 1 d.pages).map (Footer.entry d.job d.work.canvas) else []) ∧
      d.work.trace.Pairwise fun p q => p.mark = .footer → p.page < q.page := by
  obtain ⟨w, hprepare, hlaid⟩ := render_done h
  obtain ⟨htemplate, hsettings, -, hready, hpages, htrace⟩ := prepare_ready (newCanvas_family t) hprepare
  obtain ⟨v, hmoves, hfooter, -, -, -⟩ := layOut_done hlaid
  obtain ⟨n, hpage, hfooted⟩ := Move.runAll_footed hready.named (Work.isOpen_start hpages htrace) hmoves
  have hended : Footed d.job w.canvas (n + 1) d.work := hfooted.footer hpage hready.named hfooter
  have hlast : d.pages = n + 1 := ((Paint.grows_footer d.job).of_run hfooter).canvas.pages.trans hpage
  have hentries : Footer.entries d.job w.canvas = Footer.entries d.job d.work.canvas := by
    funext page
    exact (Footer.entries_congr hready.named hended.fonts hended.height page).symm
  refine ⟨htemplate, hsettings, ?_, hended.last⟩
  rw [hended.footers, hentries, Footer.flatMap_entries, hsettings, hlast]

/-- the list on two pages has two footers -/
theorem render_footers_sample :
    ∃ d, Sample.bare.render Sample.list Sample.root = .done d ∧
      (d.work.trace.filter (·.mark = .footer)).map Painted.page = [1, 2] := by
  obtain ⟨d, hd, hpages⟩ :=
    Sample.done_of_pages (o := Sample.bare.render Sample.list Sample.root) (n := 2) (by decide +kernel)
  obtain ⟨-, -, hfooters, -⟩ := Renderer.render_footers hd
  refine ⟨d, hd, ?_⟩
  rw [hfooters, hpages]
  rfl

end ReportPress
