import DocumentDb.Query.Optimizer
import Mathlib.Data.Prod.Lex
import Mathlib.Order.BooleanAlgebra.Basic

/-!
# `DocumentDb.Proofs.Query.BestIndex`: the search for the best index

The optimizer goes over the ordered indexes once and keeps the best one that it has seen. It
compares three things, one after the other: how many leading fields of the index some condition is
about, whether the index is unique, and how few fields it has.

* `rank` puts the three into one value of a linear order, and an index beats another one just if it
  ranks above it (`beats_iff`). The search needs no more of the comparison than that.
* `FirstBest` is what a search that keeps the best comes to: nothing ranks higher, and what comes
  before ranks lower. `Keeps.step` is one step of it and `Keeps.foldl` the whole search.
* `keeps_bestIndex?` says this of the index that is chosen.
-/

set_option autoImplicit false

namespace DocumentDb

/-! ### Keeping the best -/

section search

variable {α β : Type} [LinearOrder β] {rank : α → β} {x c : α} {best : Option α} {seen xs : List α}

/-- The first one of the elements of highest rank. -/
def FirstBest (rank : α → β) (xs : List α) (x : α) : Prop :=
  ∃ before after, xs = before ++ x :: after ∧
    (∀ y ∈ before, rank y < rank x) ∧ ∀ y ∈ after, rank y ≤ rank x

/-- The best one is one of the elements. -/
theorem FirstBest.mem (h : FirstBest rank xs x) : x ∈ xs := by
  obtain ⟨before, after, rfl, -, -⟩ := h
  simp

/-- No element ranks higher than the best one. -/
theorem FirstBest.le (h : FirstBest rank xs x) : ∀ y ∈ xs, rank y ≤ rank x := by
  obtain ⟨before, after, rfl, hbefore, hafter⟩ := h
  intro y hy
  rcases List.mem_append.mp hy with hy | hy
  · exact (hbefore y hy).le
  · rcases List.mem_cons.mp hy with rfl | hy
    · exact le_refl _
    · exact hafter y hy

/-- The first one of the best remains so among elements that rank lower. -/
theorem FirstBest.of_filter {p : α → Bool} (h : FirstBest rank (xs.filter p) x)
    (hothers : ∀ y ∈ xs, p y = false → rank y < rank x) : FirstBest rank xs x := by
  obtain ⟨before, after, hsplit, hbefore, hafter⟩ := h
  obtain ⟨front, rest, rfl, rfl, hrest⟩ := List.filter_eq_append_iff.mp hsplit
  obtain ⟨skipped, back, rfl, hskipped, -, rfl⟩ := List.filter_eq_cons_iff.mp hrest
  refine ⟨front ++ skipped, back, by simp, fun y hy => ?_, fun y hy => ?_⟩
  · rcases List.mem_append.mp hy with hy | hy
    · cases hp : p y with
      | true => exact hbefore y (List.mem_filter.mpr ⟨hy, hp⟩)
      | false => exact hothers y (by simp [hy]) hp
    · exact hothers y (by simp [hy]) (by simpa using hskipped y hy)
  · cases hp : p y with
    | true => exact hafter y (List.mem_filter.mpr ⟨hy, hp⟩)
    | false => exact (hothers y (by simp [hy]) hp).le

/-- What a search holds that keeps the best of what it has seen. -/
def Keeps (rank : α → β) (seen : List α) : Option α → Prop
  | none => seen = []
  | some x => FirstBest rank seen x

/-- One more element takes the place of the best so far if it ranks above it. -/
theorem FirstBest.concat (h : FirstBest rank seen x) (c : α) :
    FirstBest rank (seen ++ [c]) (if rank x < rank c then c else x) := by
  split
  · rename_i hlt
    exact ⟨seen, [], rfl, fun y hy => (h.le y hy).trans_lt hlt, nofun⟩
  · rename_i hle
    obtain ⟨before, after, rfl, hbefore, hafter⟩ := h
    refine ⟨before, after ++ [c], by simp, hbefore, fun y hy => ?_⟩
    rcases List.mem_append.mp hy with hy | hy
    · exact hafter y hy
    · rw [List.mem_singleton.mp hy]
      exact not_lt.mp hle

/-- The step of a search that keeps the best. -/
def keepBetter (better : α → α → Bool) (best : Option α) (c : α) : Option α :=
  match best with
  | none => some c
  | some b => if better c b then some c else some b

variable {better : α → α → Bool}

/-- One step of a search: the best so far is kept unless the next one is better. -/
theorem Keeps.step (hbetter : ∀ a b, better a b = true ↔ rank b < rank a)
    (h : Keeps rank seen best) (c : α) : Keeps rank (seen ++ [c]) (keepBetter better best c) := by
  cases best with
  | none =>
    obtain rfl : seen = [] := h
    exact ⟨[], [], rfl, nofun, nofun⟩
  | some b =>
    have hnext := FirstBest.concat h c
    simp only [← hbetter] at hnext
    rw [keepBetter, ← apply_ite some]
    exact hnext

/-- A search ends with the best of what it has seen. -/
theorem Keeps.foldl (hbetter : ∀ a b, better a b = true ↔ rank b < rank a)
    (h : Keeps rank seen best) (xs : List α) :
    Keeps rank (seen ++ xs) (xs.foldl (keepBetter better) best) := by
  induction xs generalizing seen best with
  | nil => rwa [List.append_nil]
  | cons c xs ih =>
    have hrest := ih (h.step hbetter c)
    rwa [List.append_assoc, List.singleton_append] at hrest

end search

/-! ### The rank of an index -/

namespace Plan

variable {conditions : List Comparison} {ds : List IndexDescriptor}

/-- How good an index is for some conditions: the leading fields that they cover count first, then
whether it is unique, and then how few fields it has. -/
def rank (conditions : List Comparison) (d : IndexDescriptor) : ℕ ×ₗ Bool ×ₗ ℕᵒᵈ :=
  toLex (covered conditions d, toLex (d.isUnique, OrderDual.toDual d.fields.length))

/-- An index is preferred over another one just if it ranks above it. -/
theorem beats_iff (d e : IndexDescriptor) :
    beats conditions d e = true ↔ rank conditions e < rank conditions d := by
  rw [rank, rank, Prod.Lex.toLex_lt_toLex, Prod.Lex.toLex_lt_toLex, OrderDual.toDual_lt_toDual,
    Bool.lt_iff, beats]
  by_cases hcovered : covered conditions d = covered conditions e
  · cases hd : d.isUnique <;> cases he : e.isUnique <;> simp [hcovered]
  · have hother : covered conditions e ≠ covered conditions d := Ne.symm hcovered
    simp [hcovered, hother]

/-- The ordered indexes with a covered first field. -/
def suitable (conditions : List Comparison) (ds : List IndexDescriptor) : List IndexDescriptor :=
  ds.filter fun d => !d.isFullText && covered conditions d ≠ 0

/-- The index that is chosen is the first of the best. -/
theorem keeps_bestIndex? (conditions : List Comparison) (ds : List IndexDescriptor) :
    Keeps (rank conditions) (suitable conditions ds) (bestIndex? conditions ds) := by
  have hsearch : bestIndex? conditions ds
      = (suitable conditions ds).foldl (keepBetter (beats conditions)) none := by
    refine congrArg (List.foldl · none _) (funext fun best => ?_)
    cases best <;> rfl
  have hnothing : Keeps (rank conditions) [] none := rfl
  rw [hsearch]
  exact hnothing.foldl beats_iff (suitable conditions ds)

/-- The suitable indexes are the ordered ones that cover some field. -/
theorem mem_suitable {d : IndexDescriptor} : d ∈ suitable conditions ds ↔
    d ∈ ds ∧ d.isFullText = false ∧ covered conditions d ≠ 0 := by
  simp [suitable]

/-- The best index is one of those given, ordered, and has its first field among the
conditions. -/
theorem bestIndex?_eq_some {d : IndexDescriptor} (h : bestIndex? conditions ds = some d) :
    d ∈ ds ∧ d.isFullText = false ∧ covered conditions d ≠ 0 := by
  have hkeeps := keeps_bestIndex? conditions ds
  rw [h] at hkeeps
  exact mem_suitable.mp hkeeps.mem

/-- There is no best index if none has its first field among the conditions. -/
theorem bestIndex?_eq_none :
    bestIndex? conditions ds = none ↔
      ∀ d ∈ ds, d.isFullText = false → covered conditions d = 0 := by
  have hkeeps := keeps_bestIndex? conditions ds
  constructor
  · intro h d hd hkind
    rw [h] at hkeeps
    by_contra hcovered
    have hmem := mem_suitable.mpr ⟨hd, hkind, hcovered⟩
    rw [hkeeps] at hmem
    cases hmem
  · intro h
    cases hbest : bestIndex? conditions ds with
    | none => rfl
    | some d =>
      obtain ⟨hd, hkind, hcovered⟩ := bestIndex?_eq_some hbest
      exact absurd (h d hd hkind) hcovered

end Plan

end DocumentDb
