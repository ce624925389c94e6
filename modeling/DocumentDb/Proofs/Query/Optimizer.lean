import DocumentDb.Proofs.Query.BestIndex
import DocumentDb.Proofs.Result

/-!
# `DocumentDb.Proofs.Query.Optimizer`: what plans scan

`Plan.mem_of_mem_indexes`: a plan scans no index that was not offered to the optimizer.
-/

set_option autoImplicit false

namespace DocumentDb.Plan

variable {f : Filter} {terms : List Filter} {ds : List IndexDescriptor} {d : IndexDescriptor}
  {p : Plan}

/-- The indexes of a plan are those of its source. -/
theorem indexes_eq (p : Plan) : p.indexes = indexesOf p.source := by
  cases p
  rw [indexes]

/-- Plans with one source have the same indexes. -/
theorem indexes_eq_of_source {q : Plan} (h : p.source = q.source) : p.indexes = q.indexes := by
  rw [indexes_eq, indexes_eq, h]

/-- The indexes of some plans are those of each. -/
theorem mem_indexesAll {ps : List Plan} : d ∈ indexesAll ps ↔ ∃ p ∈ ps, d ∈ p.indexes := by
  induction ps with
  | nil => simp [indexesAll]
  | cons p ps ih => simp [indexesAll, ih]

/-! ### Sources -/

/-- What is picked is the first that can be, and the others are left in their order. -/
theorem pick?_eq_some {α β : Type} {g : α → Option β} {xs rest : List α} {b : β}
    (h : pick? g xs = some (b, rest)) :
    ∃ before x after, xs = before ++ x :: after ∧ g x = some b ∧ rest = before ++ after := by
  induction xs generalizing rest with
  | nil => cases h
  | cons x xs ih =>
    rw [pick?] at h
    split at h
    · rename_i b' hx
      cases h
      exact ⟨[], x, xs, rfl, hx, rfl⟩
    · rw [Option.map_eq_some_iff] at h
      obtain ⟨⟨b', others⟩, hpick, heq⟩ := h
      cases heq
      obtain ⟨before, y, after, rfl, hy, rfl⟩ := ih hpick
      exact ⟨x :: before, y, after, rfl, hy, rfl⟩

/-- The full-text index that is found is one on the field alone. -/
theorem fullTextIndex?_eq_some {field : String} (h : fullTextIndex? field ds = some d) :
    d ∈ ds ∧ d.isFullText = true ∧ d.fields = FieldPath.single field := by
  have hfound := List.find?_some h
  rw [Bool.and_eq_true, beq_iff_eq] at hfound
  exact ⟨List.mem_of_find?_eq_some h, hfound⟩

/-- The plan that scans an index for the first condition about each leading field. -/
def scanOf (terms : List Filter) (d : IndexDescriptor) : Plan :=
  let conditions := terms.filterMap orderedTerm?
  let fields := d.fields.fields.take (covered conditions d)
  { source := .index d (scanConditions conditions fields)
    residual := residualOf (leftOver fields terms) }

/-- The plans of a conjunction: a lookup of the record id that a term fixes, a scan of a
full-text index for a text condition, a scan of an ordered index, or all records. -/
theorem ofConjunction_cases (h : ofConjunction f ds = .ok p) :
    (∃ v rest, pick? fixedId? f.conjuncts = some (v, rest) ∧
        p = { source := .byId v, residual := residualOf rest }) ∨
      (∃ c rest d, pick? textTerm? f.conjuncts = some (c, rest) ∧
        fullTextIndex? c.field ds = some d ∧
        p = { source := .index d [c], residual := residualOf rest }) ∨
      (∃ d, bestIndex? (f.conjuncts.filterMap orderedTerm?) ds = some d ∧
        p = scanOf f.conjuncts d) ∨
      p = { source := .collection, residual := residualOf f.conjuncts } := by
  unfold ofConjunction at h
  dsimp only at h
  -- in the order in which they are tried: a lookup, a full-text index, an ordered index
  split at h
  · rename_i q hbyId
    cases h
    obtain ⟨⟨v, rest⟩, hpick, rfl⟩ := Option.map_eq_some_iff.mp hbyId
    exact Or.inl ⟨v, rest, hpick, rfl⟩
  · obtain ⟨text, htext, hp⟩ := Result.map_eq_ok_iff.mp h
    obtain ⟨-, -, hplan⟩ := Result.map_eq_ok_iff.mp htext
    cases text with
    | some q =>
      obtain rfl : q = p := hp
      obtain ⟨⟨c, rest⟩, hpick, hindex⟩ := Option.bind_eq_some_iff.mp hplan
      obtain ⟨d, hd, rfl⟩ := Option.map_eq_some_iff.mp hindex
      exact Or.inr (Or.inl ⟨c, rest, d, hpick, hd, rfl⟩)
    | none =>
      refine Or.inr (Or.inr ?_)
      cases hordered : orderedPlan? f.conjuncts ds with
      | none =>
        rw [hordered] at hp
        exact Or.inr hp.symm
      | some q =>
        rw [hordered] at hp
        obtain rfl : q = p := hp
        obtain ⟨d, hd, rfl⟩ := Option.map_eq_some_iff.mp hordered
        exact Or.inl ⟨d, hd, rfl⟩

/-! ### Indexes of a plan -/

/-- A conjunction is planned with indexes that were offered. -/
theorem mem_of_mem_indexes_conjunction (h : ofConjunction f ds = .ok p) (hd : d ∈ p.indexes) :
    d ∈ ds := by
  rw [indexes_eq] at hd
  rcases ofConjunction_cases h with
    ⟨v, rest, -, rfl⟩ | ⟨c, rest, d', -, hd', rfl⟩ | ⟨d', hd', rfl⟩ | rfl
  · simp [indexesOf] at hd
  · obtain rfl : d = d' := by simpa [indexesOf] using hd
    exact (fullTextIndex?_eq_some hd').1
  · obtain rfl : d = d' := by simpa [indexesOf, scanOf] using hd
    exact (bestIndex?_eq_some hd').1
  · simp [indexesOf] at hd

/-- The plans of the branches, in their order. -/
theorem ofBranches_eq_some {branches : List Filter} {ps : List Plan}
    (h : ofBranches ds branches = .ok (some ps)) :
    List.Forall₂ (fun f p => ofConjunction f ds = .ok p ∧ p.isCollectionScan = false)
      branches ps := by
  induction branches generalizing ps with
  | nil =>
    cases h
    exact List.Forall₂.nil
  | cons f rest ih =>
    rw [ofBranches] at h
    obtain ⟨p, hp, h⟩ := Result.bind_eq_ok_iff.mp h
    split at h
    · cases h
    · rename_i hscan
      obtain ⟨tail, htail, hmap⟩ := Result.map_eq_ok_iff.mp h
      obtain ⟨ps', rfl, rfl⟩ := Option.map_eq_some_iff.mp hmap
      exact List.Forall₂.cons ⟨hp, Bool.eq_false_iff.mpr hscan⟩ (ih htail)

/-- Every plan of a branch belongs to some branch. -/
theorem exists_branch {branches : List Filter} {ps : List Plan}
    (h : List.Forall₂ (fun f p => ofConjunction f ds = .ok p ∧ p.isCollectionScan = false)
      branches ps) (hp : p ∈ ps) :
    ∃ f ∈ branches, ofConjunction f ds = .ok p ∧ p.isCollectionScan = false := by
  induction h with
  | nil => cases hp
  | cons hone _ ih =>
    rcases List.mem_cons.mp hp with rfl | hp
    · exact ⟨_, List.mem_cons_self, hone⟩
    · obtain ⟨f, hf, hplan⟩ := ih hp
      exact ⟨f, List.mem_cons_of_mem _ hf, hplan⟩

/-- The plans of a filter: of a disjunction, the union of the plans of its branches unless
one of them reads all records; of any other filter, the plan of its conjunction. -/
theorem ofFilter_cases (h : ofFilter f ds = .ok p) :
    (∃ branches ps, f = .or branches ∧ ofBranches ds branches = .ok (some ps) ∧ p = unite ps) ∨
      (∃ branches, f = .or branches ∧ ofBranches ds branches = .ok none ∧
        p = { source := .collection, residual := some f }) ∨
      ((∀ branches, f ≠ .or branches) ∧ ofConjunction f ds = .ok p) := by
  unfold ofFilter at h
  split at h
  · rename_i branches
    obtain ⟨ps, hps, hp⟩ := Result.map_eq_ok_iff.mp h
    cases ps with
    | some ps => exact Or.inl ⟨branches, ps, rfl, hps, hp.symm⟩
    | none => exact Or.inr (Or.inl ⟨branches, rfl, hps, hp.symm⟩)
  · rename_i hor
    exact Or.inr (Or.inr ⟨hor, h⟩)

/-- Sorting a plan keeps its source. -/
theorem sorted_source (p : Plan) (sort : SortKeys) : (p.sorted sort).source = p.source := by
  unfold sorted
  split
  · rfl
  · split <;> rfl

/-- A plan scans no index that was not offered. -/
theorem mem_of_mem_indexes {collation : Text.Collation} {options : FindOptions}
    (h : optimize collation f options ds = .ok p) (hd : d ∈ p.indexes) : d ∈ ds := by
  obtain ⟨q, hq, rfl⟩ := Result.map_eq_ok_iff.mp h
  have hsource : d ∈ indexesOf q.source := by
    rw [indexes_eq] at hd
    rwa [sorted_source] at hd
  rcases ofFilter_cases hq with
    ⟨branches, ps, rfl, hps, rfl⟩ | ⟨branches, rfl, -, rfl⟩ | ⟨-, hconj⟩
  · unfold unite at hsource
    split at hsource
    · simp [indexesOf] at hsource
    · obtain ⟨p, hp, hd⟩ := mem_indexesAll.mp hsource
      obtain ⟨f, -, hf⟩ := exists_branch (ofBranches_eq_some hps) hp
      exact mem_of_mem_indexes_conjunction hf.1 hd
  · simp [indexesOf] at hsource
  · rw [← indexes_eq] at hsource
    exact mem_of_mem_indexes_conjunction hconj hsource

end DocumentDb.Plan
