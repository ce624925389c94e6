import DocumentDb.Proofs.SortedEntries
import Mathlib.Data.List.TakeWhile

/-!
# `DocumentDb.Proofs.Steps`: sorted maps walked step by step

A walk of a map asks for the key after the one that it has, and goes on as long as the answer suits
it. This module says what comes of that on any map with ascending keys.

* `Sorted.next?_of_walk`: from one entry, a step goes to the entry that stands behind it.
* `Sorted.follow_walk`: from any entry on, steps come along the rest of the walk, so they end by
  themselves. How many of them are allowed for makes no difference once they cover that rest.
* `Sorted.follow_from`: the same for steps that start at the first entry with a property, as a walk
  from a bound on does.
* `Runs.Ends` is for the other end of such a walk: what has a property that is not regained once it
  is lost stands in one run.
-/

set_option autoImplicit false

namespace DocumentDb

open Std (TransOrd OrientedCmp)

/-! ### Runs of sorted lists -/

namespace Runs

variable {α : Type} {r : α → α → Prop} {p : α → Bool} {a : α} {xs : List α}

/-- A property that an element has only if all elements before it have it. -/
def Ends (r : α → α → Prop) (p : α → Bool) (xs : List α) : Prop :=
  ∀ a ∈ xs, ∀ b ∈ xs, r a b → p b = true → p a = true

/-- The property ends in the rest of a list as it does in the whole. -/
theorem Ends.tail (h : Ends r p (a :: xs)) : Ends r p xs :=
  fun a ha b hb => h a (List.mem_cons_of_mem _ ha) b (List.mem_cons_of_mem _ hb)

/-- If the first element does not have the property, none does. -/
theorem Ends.eq_false (h : Ends r p (a :: xs)) (hbefore : ∀ b ∈ xs, r a b) (ha : p a = false) :
    ∀ b ∈ a :: xs, p b = false := by
  intro b hb
  rcases List.mem_cons.mp hb with rfl | hb
  · exact ha
  · refine Bool.eq_false_iff.mpr fun hpb => ?_
    have hpa := h a List.mem_cons_self b (List.mem_cons_of_mem _ hb) (hbefore b hb) hpb
    rw [ha] at hpa
    cases hpa

/-- The run in front holds all elements with the property. -/
theorem Ends.takeWhile_eq_filter (h : Ends r p xs) (hsorted : xs.Pairwise r) :
    xs.takeWhile p = xs.filter p := by
  induction hsorted with
  | nil => rfl
  | @cons a xs hbefore _ ih =>
    cases ha : p a with
    | true => rw [List.takeWhile_cons_of_pos ha, List.filter_cons_of_pos ha, ih h.tail]
    | false =>
      have hnone := h.eq_false hbefore ha
      rw [List.takeWhile_cons_of_neg (by simp [ha]),
        List.filter_eq_nil_iff.mpr (by simpa using hnone)]

/-- What follows that run are the others. -/
theorem Ends.dropWhile_eq_filter (h : Ends r p xs) (hsorted : xs.Pairwise r) :
    xs.dropWhile p = xs.filter fun a => !p a := by
  induction hsorted with
  | nil => rfl
  | @cons a xs hbefore _ ih =>
    cases ha : p a with
    | true =>
      rw [List.dropWhile_cons_of_pos ha, List.filter_cons_of_neg (by simp [ha]), ih h.tail]
    | false =>
      have hnone := h.eq_false hbefore ha
      rw [List.dropWhile_cons_of_neg (by simp [ha]), List.filter_eq_self.mpr (by simpa using hnone)]

end Runs

/-! ### Steps -/

namespace SortedEntries

variable {K V : Type} [Ord K] {reverse : Bool} {es before rest : List (K × V)} {e : K × V}

/-- A step goes to the first entry of the walk that lies in its direction. -/
theorem next?_some (reverse : Bool) (k : K) (es : List (K × V)) :
    next? reverse (some k) es
      = (walk reverse es).find? fun e => compare k e.1 == direction reverse := by
  cases reverse <;> rfl

/-- The first step of a walk comes to its first entry. -/
theorem next?_none (reverse : Bool) (es : List (K × V)) :
    next? reverse none es = (walk reverse es).head? := by
  cases reverse with
  | false => rfl
  | true => exact List.head?_reverse.symm

variable [TransOrd K]

/-- What comes later in a walk does not lie in the direction of what came before. -/
theorem ne_direction_of_direction {k k' : K} (h : compare k k' = direction reverse) :
    compare k' k ≠ direction reverse := by
  have hswap : compare k' k = (compare k k').swap := OrientedCmp.eq_swap
  rw [hswap, h]
  cases reverse <;> decide

/-- From an entry of the walk a step goes to the one that stands behind it. -/
theorem Sorted.next?_of_walk (h : Sorted es) (hwalk : walk reverse es = before ++ e :: rest) :
    next? reverse (some e.1) es = rest.head? := by
  have hdirected := h.pairwise_walk reverse
  rw [hwalk, List.pairwise_append, List.pairwise_cons] at hdirected
  obtain ⟨-, ⟨hrest, -⟩, hbefore⟩ := hdirected
  have hnone : before.find? (fun a => compare e.1 a.1 == direction reverse) = none := by
    refine List.find?_eq_none.mpr fun a ha => ?_
    rw [beq_iff_eq]
    exact ne_direction_of_direction (hbefore a ha e List.mem_cons_self)
  have hself : ¬ (compare e.1 e.1 == direction reverse) = true := by
    rw [Std.ReflOrd.compare_self]
    cases reverse <;> decide
  have hfirst : rest.find? (fun a => compare e.1 a.1 == direction reverse) = rest.head? := by
    cases rest with
    | nil => rfl
    | cons a rest => exact List.find?_cons_of_pos (beq_iff_eq.mpr (hrest a List.mem_cons_self))
  rw [next?_some, hwalk, List.find?_append, hnone, Option.none_or, List.find?_cons, hfirst,
    Bool.eq_false_iff.mpr hself]

/-- From any entry on, steps come along the rest of the walk, and go on as long as they may. The
number of steps that is allowed for makes no difference once it covers the rest. -/
theorem Sorted.follow_walk (h : Sorted es) (goesOn : K → Bool)
    (hwalk : walk reverse es = before ++ rest) {limit : Nat} (hlimit : rest.length ≤ limit) :
    follow goesOn (fun k => (next? reverse (some k) es).map (·.1)) limit (rest.head?.map (·.1))
      = (rest.map (·.1)).takeWhile goesOn := by
  induction rest generalizing before limit with
  | nil => cases limit <;> rfl
  | cons e rest ih =>
    obtain ⟨limit, rfl⟩ : ∃ n, limit = n + 1 := ⟨limit - 1, by simp at hlimit; omega⟩
    have hsplit : walk reverse es = (before ++ [e]) ++ rest := by
      rw [hwalk, List.append_assoc, List.singleton_append]
    have hshort : rest.length ≤ limit := by simpa using hlimit
    rw [List.head?_cons, Option.map_some, follow, h.next?_of_walk hwalk, List.map_cons]
    cases hgoes : goesOn e.1 with
    | false => rw [if_neg Bool.false_ne_true, List.takeWhile_cons_of_neg (by simp [hgoes])]
    | true => rw [if_pos rfl, List.takeWhile_cons_of_pos hgoes, ih hsplit hshort]

/-- A walk that starts where a property begins, in a direction in which it is not lost. -/
theorem Sorted.follow_from (h : Sorted es) (goesOn : K → Bool) {p : K → Bool}
    (hp : ∀ a b, compare a b = direction reverse → p a = true → p b = true) {limit : Nat}
    (hlimit : es.length ≤ limit) :
    follow goesOn (fun k => (next? reverse (some k) es).map (·.1)) limit
        (((walk reverse es).find? fun e => p e.1).map (·.1))
      = (((walk reverse es).filter fun e => p e.1).map (·.1)).takeWhile goesOn := by
  have hends : Runs.Ends (fun a b : K × V => compare a.1 b.1 = direction reverse) (fun e => !p e.1)
      (walk reverse es) := by
    intro a _ b _ hab hb
    rw [Bool.not_eq_true'] at hb ⊢
    refine Bool.eq_false_iff.mpr fun ha => ?_
    rw [hp a.1 b.1 hab ha] at hb
    cases hb
  have hdrop := hends.dropWhile_eq_filter (h.pairwise_walk reverse)
  simp only [Bool.not_not] at hdrop
  have hwalk : walk reverse es
      = (walk reverse es).takeWhile (fun e => !p e.1)
        ++ (walk reverse es).filter fun e => p e.1 := by
    rw [← hdrop, List.takeWhile_append_dropWhile]
  have hshort : ((walk reverse es).filter fun e => p e.1).length ≤ limit :=
    (List.length_filter_le _ _).trans ((Nat.le_of_eq length_walk).trans hlimit)
  rw [List.find?_eq_head?_dropWhile_not, hdrop]
  exact h.follow_walk goesOn hwalk hshort

end SortedEntries

end DocumentDb
