import DocumentDb.Proofs.Result
import DocumentDb.Query.Optimizer

/-!
# `DocumentDb.Proofs.Query.Filter`: filters as conjunctions and disjunctions

A planner takes a filter apart, so it has to be known when the parts pass a document if the
filter does. Evaluation is in order and stops at the first term that decides, and a term may
fail with an error. "Passes" (`apply d f = .ok true`) still distributes over the terms of a
conjunction, whatever stands behind the term that stopped an evaluation.

* `applyAll_conjuncts`, `apply_all`: taking a conjunction apart and putting one together keep what
  its evaluation comes to, be it an error. `apply_residualOf` says so of a residual filter.
* `apply_eq_true_iff`: a filter passes a document when all its conjuncts do.
* `residualOf_iff`: the residual filter of some terms passes when all the terms do.
* `applyAny_true`, `applyAny_false`: what a decided disjunction says of its branches.
-/

set_option autoImplicit false

namespace DocumentDb

namespace Filter

variable {d : Document} {f g : Filter} {fs : List Filter}

/-! ### Conjunctions -/

/-- A conjunction passes a document when every term does. -/
theorem applyAll_eq_true_iff : applyAll d fs = .ok true ↔ ∀ f ∈ fs, f.apply d = .ok true := by
  induction fs with
  | nil => simp [applyAll]
  | cons f fs ih =>
    rw [applyAll, Result.bind_eq_ok_iff, List.forall_mem_cons, ← ih]
    constructor
    · rintro ⟨b, hb, hrest⟩
      -- a term that is not met ends the evaluation with `false`
      cases b with
      | true => exact ⟨hb, hrest⟩
      | false => cases hrest
    · rintro ⟨hf, hrest⟩
      exact ⟨true, hf, hrest⟩

/-- A conjunction of one filter is the filter. -/
theorem applyAll_singleton (f : Filter) : applyAll d [f] = f.apply d := by
  rw [applyAll]
  rcases f.apply d with _ | _ | _ <;> rfl

/-- A conjunction goes on with further filters only if the first ones hold. -/
theorem applyAll_append (fs gs : List Filter) :
    applyAll d (fs ++ gs) = (applyAll d fs).bind fun b =>
      if b then applyAll d gs else .ok false := by
  induction fs with
  | nil => rfl
  | cons f fs ih =>
    rw [List.cons_append, applyAll, applyAll, ih]
    rcases f.apply d with _ | _ | _ <;> rfl

mutual

/-- A filter is evaluated as the conjunction of its conjuncts, its errors included. -/
theorem applyAll_conjuncts (d : Document) (f : Filter) : applyAll d f.conjuncts = f.apply d := by
  cases f with
  | everything => rfl
  | and terms =>
    rw [apply, conjuncts]
    exact applyAll_conjunctsAll d terms
  | compare c => exact applyAll_singleton _
  | pattern field p => exact applyAll_singleton _
  | or branches => exact applyAll_singleton _
  | not f => exact applyAll_singleton _

/-- Taking conjunctions apart does not change what filters give. -/
theorem applyAll_conjunctsAll (d : Document) (fs : List Filter) :
    applyAll d (conjunctsAll fs) = applyAll d fs := by
  cases fs with
  | nil => rfl
  | cons f fs =>
    rw [conjunctsAll, applyAll_append, applyAll_conjuncts d f, applyAll_conjunctsAll d fs, applyAll]

end

/-- A filter passes a document when all its conjuncts do. -/
theorem apply_eq_true_iff (d : Document) (f : Filter) :
    f.apply d = .ok true ↔ ∀ g ∈ f.conjuncts, g.apply d = .ok true := by
  rw [← applyAll_conjuncts, applyAll_eq_true_iff]

/-- A filter is evaluated as the conjunction of what it contributes to one. -/
theorem applyAll_asTerms (f : Filter) : applyAll d f.asTerms = f.apply d := by
  cases f with
  | everything => rfl
  | and terms => rw [apply, asTerms]
  | compare c => exact applyAll_singleton _
  | pattern field p => exact applyAll_singleton _
  | or branches => exact applyAll_singleton _
  | not f => exact applyAll_singleton _

/-- The flattening conjunction is evaluated as the filters are in turn. -/
theorem apply_all (fs : List Filter) : (all fs).apply d = applyAll d fs := by
  have hterms : applyAll d (fs.flatMap asTerms) = applyAll d fs := by
    induction fs with
    | nil => rfl
    | cons f fs ih => rw [List.flatMap_cons, applyAll_append, applyAll_asTerms, ih, applyAll]
  rw [← hterms, all]
  split
  · rename_i hnil
    rw [hnil]
    rfl
  · rename_i f hone
    rw [hone, applyAll_singleton]
  · rw [apply]

/-! ### Disjunctions -/

/-- A disjunction that passes a document has a branch that does. -/
theorem applyAny_true (h : applyAny d fs = .ok true) : ∃ f ∈ fs, f.apply d = .ok true := by
  induction fs with
  | nil => cases h
  | cons f fs ih =>
    rw [applyAny] at h
    obtain ⟨b, hb, h⟩ := Result.bind_eq_ok_iff.mp h
    cases b with
    | true => exact ⟨f, List.mem_cons_self, hb⟩
    | false =>
      obtain ⟨g, hg, hpass⟩ := ih h
      exact ⟨g, List.mem_cons_of_mem _ hg, hpass⟩

/-- A disjunction that turns a document down has been through all branches. -/
theorem applyAny_false (h : applyAny d fs = .ok false) : ∀ f ∈ fs, f.apply d = .ok false := by
  induction fs with
  | nil => simp
  | cons f fs ih =>
    rw [applyAny] at h
    obtain ⟨b, hb, h⟩ := Result.bind_eq_ok_iff.mp h
    cases b with
    | true => cases h
    | false => exact List.forall_mem_cons.mpr ⟨hb, ih h⟩

/-! ### Text conditions -/

mutual

/-- Whether a text condition stands anywhere in the filter. -/
def hasText : Filter → Bool
  | .everything => false
  | .compare c => c.isText
  | .pattern _ _ => false
  | .and terms => anyHasText terms
  | .or branches => anyHasText branches
  | .not f => hasText f

/-- Whether some filter of a list has a text condition. -/
def anyHasText : List Filter → Bool
  | [] => false
  | f :: rest => hasText f || anyHasText rest

end

/-- No filter of a list has a text condition if none of them has one. -/
theorem anyHasText_eq_false_iff : anyHasText fs = false ↔ ∀ f ∈ fs, f.hasText = false := by
  induction fs with
  | nil => simp [anyHasText]
  | cons f fs ih => simp [anyHasText, ih]

mutual

/-- The conjuncts of a filter without text conditions have none. -/
theorem hasText_of_mem_conjuncts {f g : Filter} (h : f.hasText = false) (hg : g ∈ f.conjuncts) :
    g.hasText = false := by
  cases f with
  | everything => simp [conjuncts] at hg
  | and terms =>
    rw [hasText] at h
    rw [conjuncts] at hg
    exact hasText_of_mem_conjunctsAll h hg
  | compare c => simpa [conjuncts] using (List.mem_singleton.mp hg) ▸ h
  | pattern field p => simpa [conjuncts] using (List.mem_singleton.mp hg) ▸ h
  | or branches => simpa [conjuncts] using (List.mem_singleton.mp hg) ▸ h
  | not f => simpa [conjuncts] using (List.mem_singleton.mp hg) ▸ h

/-- The conjuncts of filters without text conditions have none. -/
theorem hasText_of_mem_conjunctsAll {fs : List Filter} {g : Filter} (h : anyHasText fs = false)
    (hg : g ∈ conjunctsAll fs) : g.hasText = false := by
  cases fs with
  | nil => simp [conjunctsAll] at hg
  | cons f fs =>
    rw [anyHasText, Bool.or_eq_false_iff] at h
    rw [conjunctsAll, List.mem_append] at hg
    rcases hg with hg | hg
    · exact hasText_of_mem_conjuncts h.1 hg
    · exact hasText_of_mem_conjunctsAll h.2 hg

end

end Filter

namespace Plan

variable {d : Document} {terms : List Filter}

/-- The residual filter of some terms is evaluated as the terms are in turn. -/
theorem apply_residualOf (d : Document) (terms : List Filter) :
    (residualOf terms).elim (.ok true) (·.apply d) = Filter.applyAll d terms := by
  rw [← Filter.apply_all, residualOf]
  split
  · rename_i hall
    rw [hall]
    rfl
  · rfl

/-- The residual filter of some terms passes a document when all the terms do. -/
theorem residualOf_iff : (∀ f, residualOf terms = some f → f.apply d = .ok true)
    ↔ ∀ g ∈ terms, g.apply d = .ok true := by
  rw [← Filter.applyAll_eq_true_iff, ← apply_residualOf]
  cases residualOf terms with
  | none => simp
  | some f => simp

end Plan

end DocumentDb
