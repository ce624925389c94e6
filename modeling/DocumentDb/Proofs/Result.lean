import DocumentDb.Error
import Mathlib.Data.List.Forall2

/-!
# `DocumentDb.Proofs.Result`: results that are no errors

Inversion of the ways in which results are put together: what must have been there when the
outcome is a value. `Result.mapM_eq_ok_iff` does it for a list that is mapped to results
one by one.
-/

set_option autoImplicit false

namespace DocumentDb.Result

variable {α β : Type}

/-- A function of a result is a value if the result is one that goes there. -/
theorem map_eq_ok_iff {x : Result α} {f : α → β} {b : β} :
    x.map f = .ok b ↔ ∃ a, x = .ok a ∧ f a = b := by
  cases x <;> simp [Except.map]

/-- A function of a result has the errors of the result. -/
theorem map_eq_error_iff {x : Result α} {f : α → β} {e : Error} :
    x.map f = .error e ↔ x = .error e := by
  cases x <;> simp [Except.map]

/-- Two steps give a value if both do. -/
theorem bind_eq_ok_iff {x : Result α} {f : α → Result β} {b : β} :
    x.bind f = .ok b ↔ ∃ a, x = .ok a ∧ f a = .ok b := by
  cases x <;> simp [Except.bind]

/-- A function of a result is some value if the result is one. -/
theorem exists_map_eq_ok_iff {x : Result α} {f : α → β} :
    (∃ b, x.map f = .ok b) ↔ ∃ a, x = .ok a := by
  cases x <;> simp [Except.map]

/-- A result with a value is that value. -/
theorem eq_ok_of_toOption {x : Result α} {a : α} (h : x.toOption = some a) : x = .ok a := by
  cases x with
  | error e => cases h
  | ok b => exact congrArg Except.ok (Option.some.inj h)

/-- A result without a value is an error. -/
theorem toOption_eq_none_iff {x : Result α} : x.toOption = none ↔ ∃ e, x = .error e := by
  cases x with
  | error e => exact iff_of_true rfl ⟨e, rfl⟩
  | ok a => exact iff_of_false nofun nofun

/-- Mapping a list succeeds when it succeeds on every element, and gives their values. -/
theorem mapM_eq_ok_iff {f : α → Result β} {xs : List α} {ys : List β} :
    xs.mapM f = .ok ys ↔ List.Forall₂ (fun x y => f x = .ok y) xs ys := by
  induction xs generalizing ys with
  | nil =>
    rw [List.mapM_nil, List.forall₂_nil_left_iff]
    change Except.ok [] = Except.ok ys ↔ _
    rw [Except.ok.injEq, eq_comm]
  | cons x xs ih =>
    rw [List.mapM_cons, List.forall₂_cons_left_iff]
    change Except.bind (f x) (fun y => Except.bind (xs.mapM f) fun ys => .ok (y :: ys)) = .ok ys ↔ _
    simp only [bind_eq_ok_iff, ih, Except.ok.injEq]
    constructor
    · rintro ⟨y, hy, ys', hys, rfl⟩
      exact ⟨y, ys', hy, hys, rfl⟩
    · rintro ⟨y, ys', hy, hys, rfl⟩
      exact ⟨y, hy, ys', hys, rfl⟩

/-- A list of results has values throughout when it comes from a list of values. -/
theorem mapM_id_eq_ok_iff {xs : List (Result α)} {ys : List α} :
    xs.mapM id = .ok ys ↔ xs = ys.map .ok := by
  rw [mapM_eq_ok_iff]
  change List.Forall₂ (fun (x : Result α) y => x = .ok y) xs ys ↔ xs = ys.map .ok
  rw [← List.forall₂_map_right_iff, List.forall₂_eq_eq_eq]

/-- Each of a list can be done if each of its elements can. -/
theorem exists_mapM_eq_ok_iff {f : α → Result β} {xs : List α} :
    (∃ ys, xs.mapM f = .ok ys) ↔ ∀ x ∈ xs, ∃ y, f x = .ok y := by
  simp only [mapM_eq_ok_iff]
  induction xs with
  | nil => simp
  | cons x xs ih =>
    rw [List.forall_mem_cons, ← ih]
    simp only [List.forall₂_cons_left_iff]
    constructor
    · rintro ⟨-, y, ys, hy, hys, rfl⟩
      exact ⟨⟨y, hy⟩, ys, hys⟩
    · rintro ⟨⟨y, hy⟩, ys, hys⟩
      exact ⟨y :: ys, y, ys, hy, hys, rfl⟩

/-- Mapping a list fails with the error of the first element that fails. -/
theorem mapM_eq_error {f : α → Result β} {fails : α → Bool} {xs : List α} {x : α} {e : Error}
    (hok : ∀ x ∈ xs, fails x = false → ∃ y, f x = .ok y) (hfirst : xs.find? fails = some x)
    (hx : f x = .error e) : xs.mapM f = .error e := by
  induction xs with
  | nil => cases hfirst
  | cons x' xs ih =>
    rw [List.forall_mem_cons] at hok
    rw [List.mapM_cons]
    change Except.bind (f x') (fun y => Except.bind (xs.mapM f) fun ys => .ok (y :: ys)) = .error e
    cases hx' : fails x' with
    | true =>
      rw [List.find?_cons_of_pos hx'] at hfirst
      cases hfirst
      rw [hx]
      rfl
    | false =>
      obtain ⟨y, hy⟩ := hok.1 hx'
      rw [List.find?_cons_of_neg (by simp [hx'])] at hfirst
      rw [hy, ih hok.2 hfirst]
      rfl

end DocumentDb.Result
