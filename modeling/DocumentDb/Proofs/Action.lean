import DocumentDb.Action

/-!
# `DocumentDb.Proofs.Action`: running actions

`Action.perform` runs an action on a state. The equations below say what it does with each
way of building an action. They are simp lemmas, so a proof about a compound action starts
with `simp only [name of the action]` and then splits on the results of its parts.
-/

set_option autoImplicit false

namespace DocumentDb.Action

variable {σ τ α β : Type}

/-- An action that does nothing. -/
@[simp] theorem perform_pure (a : α) (s : σ) : perform (pure a : Action σ α) s = (.ok a, s) := rfl

/-- The second action runs on the state that the first one leaves, unless that one failed. -/
@[simp] theorem perform_bind (x : Action σ α) (f : α → Action σ β) (s : σ) :
    perform (x >>= f) s
      = match perform x s with
        | (.ok a, s') => perform (f a) s'
        | (.error e, s') => (.error e, s') := by
  change StateT.bind x (ExceptT.bindCont f) s = _
  unfold perform StateT.bind
  rcases x s with ⟨r, s'⟩
  cases r <;> rfl

/-- What has run when an action of two parts gives a value. -/
theorem perform_bind_eq_ok_iff {x : Action σ α} {f : α → Action σ β} {s s' : σ} {b : β} :
    perform (x >>= f) s = (.ok b, s') ↔
      ∃ a s₁, perform x s = (.ok a, s₁) ∧ perform (f a) s₁ = (.ok b, s') := by
  rw [perform_bind]
  rcases perform x s with ⟨e | a, s₁⟩
  · simp
  · simp [and_assoc]

/-- Reading the state. -/
@[simp] theorem perform_get (s : σ) : perform (get : Action σ σ) s = (.ok s, s) := rfl

/-- Setting the state. -/
@[simp] theorem perform_set (s t : σ) : perform (set t : Action σ PUnit) s = (.ok ⟨⟩, t) := rfl

/-- Changing the state. -/
@[simp] theorem perform_modify (f : σ → σ) (s : σ) :
    perform (modify f : Action σ PUnit) s = (.ok ⟨⟩, f s) := rfl

/-- Changing the state, with an answer. -/
@[simp] theorem perform_modifyGet (f : σ → α × σ) (s : σ) :
    perform (modifyGet f : Action σ α) s = (.ok (f s).1, (f s).2) := rfl

/-- Failing, with the state as it is. -/
@[simp] theorem perform_throw (e : Error) (s : σ) :
    perform (throw e : Action σ α) s = (.error e, s) := rfl

/-- An action that only has a result. -/
@[simp] theorem perform_ofResult (r : Result α) (s : σ) : perform (ofResult r) s = (r, s) := rfl

/-- An attempt does not fail, and keeps what the action has changed. -/
@[simp] theorem perform_attempt (x : Action σ α) (s : σ) :
    perform (attempt x) s = (.ok (perform x s).1, (perform x s).2) := rfl

/-- An action on a part of the state. -/
@[simp] theorem perform_within (part : σ → τ) (put : σ → τ → σ) (x : Action τ α) (s : σ) :
    perform (within part put x) s = ((perform x (part s)).1, put s (perform x (part s)).2) := rfl

/-- A change that is made whether the action fails or not. -/
@[simp] theorem perform_andAlways (x : Action σ α) (change : σ → σ) (s : σ) :
    perform (andAlways x change) s = ((perform x s).1, change (perform x s).2) := rfl

end DocumentDb.Action
