/-!
Runs of computations that may fail and that keep the state they were in when they failed: painting, laying out, and
reading records with notes are all of this kind.

- `run_bind`, `run_tryCatch`: the run of a sequence, and of a recovery, by the outcome of the first part.
- `run_bind_eq_ok`, `except_bind_eq_ok`: a sequence succeeds only if both its parts do. `run_bind_eq_error`,
  `except_bind_eq_error`: it fails only if one of them does. `run_bind_cases`: how it ends. `except_map_eq_error`: what
  is done with a result cannot fail.
- `bind_rel`: what relates the states before and after each part relates those before and after both.
-/

namespace ReportPress.Effect

variable {ε σ α β : Type}

theorem run_bind (x : ExceptT ε (StateM σ) α) (k : α → ExceptT ε (StateM σ) β) (s : σ) :
    (x >>= k).run.run s = match x.run.run s with
      | (.ok a, t) => (k a).run.run t
      | (.error e, t) => (.error e, t) := by
  rw [ExceptT.run_bind, StateT.run_bind]
  show (match x.run.run s with | (r, t) => _) = _
  rcases x.run.run s with ⟨r, t⟩
  cases r <;> rfl

theorem run_tryCatch (x : ExceptT ε (StateM σ) α) (k : ε → ExceptT ε (StateM σ) α) (s : σ) :
    (tryCatch x k).run.run s = match x.run.run s with
      | (.ok a, t) => (.ok a, t)
      | (.error e, t) => (k e).run.run t := by
  rw [ExceptT.run_tryCatch, StateT.run_bind]
  show (match x.run.run s with | (r, t) => _) = _
  rcases x.run.run s with ⟨r, t⟩
  cases r <;> rfl

theorem run_bind_eq_ok {x : ExceptT ε (StateM σ) α} {k : α → ExceptT ε (StateM σ) β} {s u : σ} {b : β}
    (h : (x >>= k).run.run s = (.ok b, u)) :
    ∃ a t, x.run.run s = (.ok a, t) ∧ (k a).run.run t = (.ok b, u) := by
  rw [run_bind] at h
  rcases hx : x.run.run s with ⟨r, t⟩
  rw [hx] at h
  cases r with
  | ok a => exact ⟨a, t, rfl, h⟩
  | error e => cases h

/-- a sequence fails only if its first part does, or its second part after the first has succeeded -/
theorem run_bind_eq_error {x : ExceptT ε (StateM σ) α} {k : α → ExceptT ε (StateM σ) β} {s u : σ} {e : ε}
    (h : (x >>= k).run.run s = (.error e, u)) :
    x.run.run s = (.error e, u) ∨ ∃ a t, x.run.run s = (.ok a, t) ∧ (k a).run.run t = (.error e, u) := by
  rw [run_bind] at h
  rcases hx : x.run.run s with ⟨r, t⟩
  rw [hx] at h
  cases r with
  | ok a => exact .inr ⟨a, t, rfl, h⟩
  | error f =>
    cases h
    exact .inl rfl

/-- a sequence fails in its first part, or ends as its second part does after the first has succeeded -/
theorem run_bind_cases {x : ExceptT ε (StateM σ) α} {k : α → ExceptT ε (StateM σ) β} {s u : σ} {r : Except ε β}
    (h : (x >>= k).run.run s = (r, u)) :
    (∃ e, x.run.run s = (.error e, u)) ∨ ∃ a t, x.run.run s = (.ok a, t) ∧ (k a).run.run t = (r, u) := by
  cases r with
  | ok b => exact .inr (run_bind_eq_ok h)
  | error e => exact (run_bind_eq_error h).imp_left fun hfirst => ⟨e, hfirst⟩

/-- without a state: a sequence succeeds only if both its parts do -/
theorem except_bind_eq_ok {x : Except ε α} {k : α → Except ε β} {b : β} (h : x >>= k = .ok b) :
    ∃ a, x = .ok a ∧ k a = .ok b := by
  cases x with
  | ok a => exact ⟨a, rfl, h⟩
  | error e => cases h

theorem except_bind_eq_error {x : Except ε α} {k : α → Except ε β} {e : ε} (h : x >>= k = .error e) :
    x = .error e ∨ ∃ a, x = .ok a ∧ k a = .error e := by
  cases x with
  | ok a => exact .inr ⟨a, rfl, h⟩
  | error f => exact .inl (congrArg Except.error (Except.error.inj h))

theorem except_map_eq_error {x : Except ε α} {g : α → β} {e : ε} (h : x.map g = .error e) : x = .error e := by
  cases x with
  | ok a => cases h
  | error e =>
    cases h
    rfl

theorem except_eq_ok {x : Except ε α} {a : α} (h : x.toOption = some a) : x = .ok a := by
  cases x with
  | ok b => exact congrArg Except.ok (Option.some.inj h)
  | error e => cases h

/-- a computation without a result either fails or is done -/
theorem eq_done {r : Except ε Unit × σ} (h : r.1.isOk = true) : r = (.ok (), r.2) := by
  rcases r with ⟨_ | u, t⟩
  · cases h
  · rfl

/-- a relation that may be chained holds between the states before and after a sequence if it does so for its parts -/
theorem bind_rel {R : σ → σ → Prop} (htrans : ∀ {s t u}, R s t → R t u → R s u) {x : ExceptT ε (StateM σ) α}
    {k : α → ExceptT ε (StateM σ) β} {s : σ} (hx : R s (x.run.run s).2) (hk : ∀ a t, R t ((k a).run.run t).2) :
    R s ((x >>= k).run.run s).2 := by
  rw [run_bind]
  rcases h : x.run.run s with ⟨r, t⟩
  rw [h] at hx
  cases r with
  | ok a => exact htrans hx (hk a t)
  | error e => exact hx

end ReportPress.Effect
