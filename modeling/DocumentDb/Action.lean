import DocumentDb.Error

/-!
# Actions

An action runs on a state, changes it and gives a result or an error. What an action changed before
it failed stays changed: there is no transaction around it. `Action.attempt` turns the error of an
action into a value, and `Action.within` runs an action on a part of a larger state.
-/

set_option autoImplicit false

namespace DocumentDb

/-- Actions on a state that can fail. -/
abbrev Action (σ α : Type) : Type := ExceptT Error (StateM σ) α

namespace Action

variable {σ τ α : Type}

/-- The result of an action that changes nothing. -/
def ofResult (r : Result α) : Action σ α := fun s => (r, s)

/-- The result of an action and the state it leaves. -/
def perform (x : Action σ α) (s : σ) : Result α × σ := x s

/-- Runs an action, and gives its error as a value. -/
def attempt (x : Action σ α) : Action σ (Result α) := fun s =>
  match x s with
  | (r, s') => (.ok r, s')

/-- Runs an action on the part of the state that `part` reads and `put` replaces. -/
def within (part : σ → τ) (put : σ → τ → σ) (x : Action τ α) : Action σ α := fun s =>
  match x (part s) with
  | (r, t) => (r, put s t)

/-- Runs an action, and then a change of the state that takes place even if the action fails. -/
def andAlways (x : Action σ α) (change : σ → σ) : Action σ α := fun s =>
  match x s with
  | (r, s') => (r, change s')

end Action

end DocumentDb
