import DocumentDb.Proofs.Query.Filter
import DocumentDb.Proofs.Query.Optimizer

/-!
# `DocumentDb.Proofs.Query.Meaning`: what a plan selects

The optimizer moves the terms of a filter to four places: the record id, the conditions of an
index scan, the residual filter, and the plans of branches. `Plan.Selects` reads a plan back
as a property of documents, up to what a lookup by id means, and `Plan.Divides` says that no
term was lost on the way and none is in two places.

* `divides_ofConjunction`, `selects_ofConjunction_iff`: both for the plan of a conjunction
  without text conditions.
* `selects_optimize_iff`: the plan of a whole query selects what `Filter.Selects` says of its
  filter. Which indexes there are counts only for a disjunction with a branch that would read
  all records.
* `satisfies_optimize_iff`: if a lookup is read as the equality on the record id that it came
  from (`Plan.Satisfies`), these are the documents that pass the filter. A disjunction without
  branches is the one exception: it passes no document, and its plan reads all records.
-/

set_option autoImplicit false

namespace DocumentDb

/-! ### Division of a list -/

/-- The elements of a list are dealt out to two lists, each one to exactly one of them, and
both keep the order. -/
inductive Dealt {α : Type} : List α → List α → List α → Prop
  | nil : Dealt [] [] []
  | left {x : α} {xs ls rs : List α} (h : Dealt xs ls rs) : Dealt (x :: xs) (x :: ls) rs
  | right {x : α} {xs ls rs : List α} (h : Dealt xs ls rs) : Dealt (x :: xs) ls (x :: rs)

namespace Dealt

variable {α : Type} {xs ls rs : List α}

/-- What holds of all elements is what holds of both lists that they are dealt out to. -/
theorem forall_mem_iff {P : α → Prop} (h : Dealt xs ls rs) :
    (∀ x ∈ xs, P x) ↔ (∀ x ∈ ls, P x) ∧ ∀ x ∈ rs, P x := by
  induction h with
  | nil => simp
  | left _ ih => simp [ih, and_assoc]
  | right _ ih => simp [ih, and_left_comm]

/-- What is dealt out to the right comes from the list. -/
theorem mem_right (h : Dealt xs ls rs) : ∀ x ∈ rs, x ∈ xs :=
  (h.forall_mem_iff.mp fun _ hx => hx).2

/-- All elements can be dealt out to the right. -/
theorem all_right (xs : List α) : Dealt xs [] xs := by
  induction xs with
  | nil => exact nil
  | cons x xs ih => exact ih.right

/-- Any one element can be dealt out to the left, and the others to the right. -/
theorem one_left {x : α} {before after : List α} :
    Dealt (before ++ x :: after) [x] (before ++ after) := by
  induction before with
  | nil => exact (all_right after).left
  | cons y before ih => exact ih.right

end Dealt

/-! ### Terms -/

namespace Filter

variable {f g : Filter} {terms : List Filter}

/-- Whether the filter is a single term of a conjunction. -/
def IsTerm (f : Filter) : Prop := f.conjuncts = [f] ∧ f.asTerms = [f]

mutual

/-- Nothing is left to take apart in a conjunct. -/
theorem isTerm_of_mem_conjuncts {f g : Filter} (h : g ∈ f.conjuncts) : g.IsTerm := by
  cases f with
  | everything => simp [conjuncts] at h
  | and terms =>
    rw [conjuncts] at h
    exact isTerm_of_mem_conjunctsAll h
  | compare c => simp_all [conjuncts, IsTerm, asTerms]
  | pattern field p => simp_all [conjuncts, IsTerm, asTerms]
  | or branches => simp_all [conjuncts, IsTerm, asTerms]
  | not f => simp_all [conjuncts, IsTerm, asTerms]

/-- Nothing is left to take apart in a conjunct of several filters. -/
theorem isTerm_of_mem_conjunctsAll {fs : List Filter} {g : Filter} (h : g ∈ conjunctsAll fs) :
    g.IsTerm := by
  cases fs with
  | nil => simp [conjunctsAll] at h
  | cons f fs =>
    rw [conjunctsAll, List.mem_append] at h
    cases h with
    | inl h => exact isTerm_of_mem_conjuncts h
    | inr h => exact isTerm_of_mem_conjunctsAll h

end

/-- Terms are their own conjuncts. -/
theorem conjunctsAll_eq_self (h : ∀ g ∈ terms, g.IsTerm) : conjunctsAll terms = terms := by
  induction terms with
  | nil => rfl
  | cons g terms ih =>
    rw [List.forall_mem_cons] at h
    rw [conjunctsAll, h.1.1, ih h.2]
    rfl

/-- The flattening conjunction of terms has just these conjuncts. -/
theorem conjuncts_all (h : ∀ g ∈ terms, g.IsTerm) : (all terms).conjuncts = terms := by
  have hflat : terms.flatMap asTerms = terms := by
    rw [List.flatMap_congr fun g hg => (h g hg).2]
    simp
  rw [all, hflat]
  split
  · rfl
  · rename_i f
    exact (h f (by simp)).1
  · rename_i terms _ _
    rw [conjuncts, conjunctsAll_eq_self h]

/-- A term that is a text condition makes the filter one with text conditions. -/
theorem not_isText_of_mem_conjuncts {c : Comparison} (h : f.hasText = false)
    (hc : Filter.compare c ∈ f.conjuncts) : c.isText = false := by
  have hone := hasText_of_mem_conjuncts h hc
  rwa [hasText] at hone

end Filter

namespace Plan

variable {f : Filter} {terms : List Filter} {ds : List IndexDescriptor} {p : Plan}
  {d : Document}

/-! ### Reading a plan back -/

/-- The terms of the residual filter. -/
def kept (p : Plan) : List Filter := (p.residual.map Filter.conjuncts).getD []

/-- The terms that the source of a plan answers. -/
def answered (p : Plan) : List Filter :=
  match p.source with
  | .byId v => [.compare ⟨idField, .eq v⟩]
  | .index _ conditions => conditions.map Filter.compare
  | .collection | .union _ => []

/-- A plan divides the terms of a conjunction: every term is either consumed or kept in the
residual filter, in its place. What is consumed is what the source answers, and nothing of
it was consumed twice. -/
def Divides (p : Plan) (terms : List Filter) : Prop :=
  ∃ consumed, Dealt terms consumed p.kept ∧ consumed.Nodup ∧ ∀ g, g ∈ consumed ↔ g ∈ p.answered

/-- Whether a document passes the residual filter, if there is one. -/
def Passes (d : Document) (residual : Option Filter) : Prop :=
  ∀ f, residual = some f → f.apply d = .ok true

mutual

/-- Whether a plan selects a document: some branch does, or else what the source answers is met
and the residual filter passed. `Named v` says that the value `v` of a lookup by id names the
record of the document. -/
def Selects (Named : Value → Prop) (d : Document) : Plan → Prop
  | { source, residual, .. } => SelectsFrom Named d residual source

/-- Whether a source selects a document, and the residual filter passes it. -/
def SelectsFrom (Named : Value → Prop) (d : Document) (residual : Option Filter) :
    Source Plan → Prop
  | .collection => Passes d residual
  | .byId v => Named v ∧ Passes d residual
  | .index _ conditions => (∀ c ∈ conditions, c.holds d = .ok true) ∧ Passes d residual
  | .union branches => SelectsSome Named d branches

/-- Whether some plan of a list selects a document. -/
def SelectsSome (Named : Value → Prop) (d : Document) : List Plan → Prop
  | [] => False
  | p :: rest => Selects Named d p ∨ SelectsSome Named d rest

end

/-- Whether a document satisfies a plan, a lookup by id read as the equality it came from. -/
def Satisfies (d : Document) (p : Plan) : Prop :=
  p.Selects (fun v => (⟨idField, .eq v⟩ : Comparison).holds d = .ok true) d

variable {Named : Value → Prop}

/-- What a plan selects is what its source does, of which the residual filter passes some. -/
theorem selects_eq (Named : Value → Prop) (d : Document) (p : Plan) :
    p.Selects Named d = SelectsFrom Named d p.residual p.source := by
  cases p
  rw [Selects]

/-- Several plans select what one of them does. -/
theorem selectsSome_iff {ps : List Plan} :
    SelectsSome Named d ps ↔ ∃ p ∈ ps, p.Selects Named d := by
  induction ps with
  | nil => simp [SelectsSome]
  | cons p ps ih => simp [SelectsSome, ih]

/-- What a plan selects does not depend on its order and its bounds. -/
theorem selects_congr {q : Plan} (hsource : p.source = q.source)
    (hresidual : p.residual = q.residual) : p.Selects Named d ↔ q.Selects Named d := by
  rw [selects_eq, selects_eq, hsource, hresidual]

/-- What passes the residual filter passes each term that the plan keeps. -/
theorem passes_iff (p : Plan) : Passes d p.residual ↔ ∀ g ∈ p.kept, g.apply d = .ok true := by
  rw [kept, Passes]
  cases p.residual with
  | none => simp
  | some f => simp [Filter.apply_eq_true_iff d f]

/-- A plan without branches and lookups selects the documents that pass all terms it answers or
keeps. -/
theorem selects_iff_of_scan (hunion : ∀ branches, p.source ≠ .union branches)
    (hlookup : ∀ v, p.source ≠ .byId v) :
    p.Selects Named d ↔
      (∀ g ∈ p.answered, g.apply d = .ok true) ∧ ∀ g ∈ p.kept, g.apply d = .ok true := by
  rw [← passes_iff, selects_eq, answered]
  cases hsource : p.source with
  | collection => simp [SelectsFrom]
  | byId v => exact absurd hsource (hlookup v)
  | index e conditions => simp [SelectsFrom, Filter.apply]
  | union branches => exact absurd hsource (hunion branches)

/-- If such a plan divides the terms of a filter, it selects what passes the filter. -/
theorem Divides.selects_iff (h : p.Divides f.conjuncts)
    (hunion : ∀ branches, p.source ≠ .union branches) (hlookup : ∀ v, p.source ≠ .byId v) :
    p.Selects Named d ↔ f.apply d = .ok true := by
  obtain ⟨consumed, hdealt, -, hsame⟩ := h
  rw [selects_iff_of_scan hunion hlookup, Filter.apply_eq_true_iff, hdealt.forall_mem_iff]
  simp only [hsame]

/-- The terms that are left over are those that the residual filter is made of. -/
theorem kept_residualOf (hterms : ∀ g ∈ terms, g.IsTerm) :
    ((residualOf terms).map Filter.conjuncts).getD [] = terms := by
  have hall := Filter.conjuncts_all hterms
  rw [residualOf]
  split
  · rename_i heq
    rw [heq] at hall
    exact hall
  · exact hall

/-! ### Division of a conjunction -/

/-- A term fixes the record id when it is an equality on the field of the id. -/
theorem fixedId?_eq_some {v : Value} :
    fixedId? f = some v ↔ f = .compare ⟨idField, .eq v⟩ := by
  constructor
  · intro h
    unfold fixedId? at h
    split at h
    · rename_i field w
      split at h
      · rename_i hfield
        rw [hfield, Option.some.inj h]
      · cases h
    · cases h
  · rintro rfl
    simp [fixedId?]

/-- A term that a full-text index can answer is a text condition. -/
theorem textTerm?_eq_some {c : Comparison} (h : textTerm? f = some c) :
    f = .compare c ∧ c.isText = true := by
  obtain ⟨hc, htext⟩ := Option.filter_eq_some_iff.mp h
  unfold Filter.comparison? at hc
  split at hc
  · split at hc
    · exact ⟨congrArg _ (Option.some.inj hc), htext⟩
    · cases hc
  · cases hc

/-- A term that an ordered index can answer is a condition with keys for operands. -/
theorem orderedTerm?_eq_some {c : Comparison} :
    orderedTerm? f = some c ↔ f = .compare c ∧ c.isIndexable = true ∧ c.isText = false := by
  unfold orderedTerm? Filter.comparison?
  rw [Option.filter_eq_some_iff, Bool.not_eq_true']
  cases f with
  | compare e =>
    by_cases he : e.isIndexable = true
    · simp only [if_pos he, Option.some.injEq, Filter.compare.injEq]
      constructor
      · rintro ⟨rfl, htext⟩
        exact ⟨rfl, he, htext⟩
      · rintro ⟨rfl, -, htext⟩
        exact ⟨rfl, htext⟩
    · simp only [if_neg he, reduceCtorEq, false_and, Filter.compare.injEq, false_iff]
      rintro ⟨rfl, hindexable, -⟩
      exact he hindexable
  | everything => simp
  | pattern field p => simp
  | and terms => simp
  | or branches => simp
  | not f => simp

/-- The conditions that a scan answers are the first ones about the covered fields. -/
theorem mem_scanConditions {conditions : List Comparison} {fields : List String} {c : Comparison} :
    c ∈ scanConditions conditions fields ↔
      c.field ∈ fields ∧ conditions.find? (·.field == c.field) = some c := by
  rw [scanConditions, List.mem_filterMap]
  constructor
  · rintro ⟨field, hfield, hfind⟩
    have heq : c.field = field := by simpa using List.find?_some hfind
    subst heq
    exact ⟨hfield, hfind⟩
  · intro h
    exact ⟨c.field, h⟩

/-- Taking the first condition about each of some fields divides the terms. -/
theorem dealt_leftOver (fields : List String) (terms : List Filter) :
    ∃ consumed : List Comparison,
      Dealt terms (consumed.map Filter.compare) (leftOver fields terms) ∧
      consumed.Pairwise (·.field ≠ ·.field) ∧
      ∀ c, c ∈ consumed ↔ c ∈ scanConditions (terms.filterMap orderedTerm?) fields := by
  induction terms generalizing fields with
  | nil => exact ⟨[], Dealt.nil, List.Pairwise.nil, by simp [mem_scanConditions]⟩
  | cons f terms ih =>
    rw [leftOver]
    split
    · -- the first condition about a wanted field is consumed, and the field wanted no more
      rename_i c hwanted
      obtain ⟨hc, hfield⟩ := Option.filter_eq_some_iff.mp hwanted
      rw [List.contains_iff_mem] at hfield
      obtain ⟨consumed, hdealt, hpairwise, hsame⟩ := ih (fields.filter (· != c.field))
      have hothers : ∀ e ∈ consumed, c.field ≠ e.field := by
        intro e he
        have hmem := (mem_scanConditions.mp ((hsame e).mp he)).1
        have hne : e.field ≠ c.field := by simpa using (List.mem_filter.mp hmem).2
        exact hne.symm
      obtain ⟨rfl, -⟩ := orderedTerm?_eq_some.mp hc
      refine ⟨c :: consumed, hdealt.left, hpairwise.cons hothers, fun e => ?_⟩
      rw [List.filterMap_cons_some hc, List.mem_cons, hsame e, mem_scanConditions,
        mem_scanConditions, List.find?_cons, List.mem_filter]
      -- this condition is the first one about its field, and no first one about another
      by_cases heq : c.field = e.field
      · rw [beq_iff_eq.mpr heq]
        simp only [heq, bne_self_eq_false, Bool.false_eq_true, and_false, false_and, or_false,
          Option.some.injEq]
        rw [← heq]
        constructor
        · rintro rfl
          exact ⟨hfield, rfl⟩
        · rintro ⟨-, rfl⟩
          rfl
      · have hne : e ≠ c := fun h => heq (h ▸ rfl)
        rw [beq_eq_false_iff_ne.mpr heq]
        simp [hne, Ne.symm heq]
    · -- any other term stays, and is no first condition about a wanted field
      rename_i hnone
      obtain ⟨consumed, hdealt, hpairwise, hsame⟩ := ih fields
      refine ⟨consumed, hdealt.right, hpairwise, fun e => ?_⟩
      rw [hsame e, mem_scanConditions, mem_scanConditions]
      cases hc : orderedTerm? f with
      | none => rw [List.filterMap_cons_none hc]
      | some c =>
        have hfield : c.field ∉ fields := by
          intro hmem
          rw [hc, Option.filter_some, if_pos (by simpa using hmem)] at hnone
          cases hnone
        refine and_congr_right fun he => ?_
        have hne : c.field ≠ e.field := fun h => hfield (h ▸ he)
        rw [List.filterMap_cons_some hc, List.find?_cons, beq_eq_false_iff_ne.mpr hne]

/-- The plan of a conjunction has no branches. -/
theorem ofConjunction_simple (h : ofConjunction f ds = .ok p) (branches : List Plan) :
    p.source ≠ .union branches := by
  rcases ofConjunction_cases h with
    ⟨v, rest, -, rfl⟩ | ⟨c, rest, e, -, -, rfl⟩ | ⟨e, -, rfl⟩ | rfl <;> simp [scanOf]

/-- The plan of a conjunction divides its terms. -/
theorem divides_ofConjunction (htext : f.hasText = false) (h : ofConjunction f ds = .ok p) :
    p.Divides f.conjuncts := by
  have hterm : ∀ g ∈ f.conjuncts, g.IsTerm := fun g hg => Filter.isTerm_of_mem_conjuncts hg
  rcases ofConjunction_cases h with
    ⟨v, rest, hpick, rfl⟩ | ⟨c, rest, e, hpick, -, rfl⟩ | ⟨e, -, rfl⟩ | rfl
  · obtain ⟨before, g, after, hterms, hg, rfl⟩ := pick?_eq_some hpick
    obtain rfl := fixedId?_eq_some.mp hg
    refine ⟨[.compare ⟨idField, .eq v⟩], ?_, List.pairwise_singleton _ _, fun g => Iff.rfl⟩
    have hdealt : Dealt f.conjuncts [.compare ⟨idField, .eq v⟩] (before ++ after) :=
      hterms ▸ Dealt.one_left
    rw [kept, kept_residualOf fun g hg => hterm g (hdealt.mem_right g hg)]
    exact hdealt
  · -- a filter without text conditions has no term for a full-text index
    obtain ⟨before, g, after, hterms, hg, -⟩ := pick?_eq_some hpick
    obtain ⟨rfl, hc⟩ := textTerm?_eq_some hg
    have hmem : Filter.compare c ∈ f.conjuncts := by simp [hterms]
    rw [Filter.not_isText_of_mem_conjuncts htext hmem] at hc
    cases hc
  · obtain ⟨consumed, hdealt, hpairwise, hsame⟩ := dealt_leftOver
      (e.fields.fields.take (covered (f.conjuncts.filterMap orderedTerm?) e)) f.conjuncts
    refine ⟨consumed.map Filter.compare, ?_, ?_, fun g => ?_⟩
    · rw [kept, scanOf, kept_residualOf fun g hg => hterm g (hdealt.mem_right g hg)]
      exact hdealt
    · rw [List.Nodup, List.pairwise_map]
      refine hpairwise.imp fun hne heq => hne ?_
      rw [Filter.compare.inj heq]
    · show g ∈ consumed.map Filter.compare ↔ g ∈ (scanConditions _ _).map Filter.compare
      simp only [List.mem_map, hsame]
  · refine ⟨[], ?_, List.nodup_nil, fun _ => Iff.rfl⟩
    rw [kept, kept_residualOf hterm]
    exact Dealt.all_right _

/-- A term that fixes the record id becomes a lookup. -/
theorem ofConjunction_of_fixed {v : Value} {rest : List Filter}
    (hpick : pick? fixedId? f.conjuncts = some (v, rest)) :
    ofConjunction f ds = .ok { source := .byId v, residual := residualOf rest } := by
  simp [ofConjunction, byIdPlan?, hpick]

/-- Without a term that fixes the id, a plan looks nothing up by id. -/
theorem source_ne_byId (hpick : pick? fixedId? f.conjuncts = none)
    (h : ofConjunction f ds = .ok p) (v : Value) : p.source ≠ .byId v := by
  rcases ofConjunction_cases h with
    ⟨w, rest, hsome, rfl⟩ | ⟨c, rest, e, -, -, rfl⟩ | ⟨e, -, rfl⟩ | rfl
  · rw [hpick] at hsome
    cases hsome
  · simp
  · simp [scanOf]
  · simp

end Plan

/-- Whether a disjunction is taken apart: no branch of it reads all records. -/
def Plan.Splits (ds : List IndexDescriptor) (branches : List Filter) : Prop :=
  ∃ ps, ofBranches ds branches = .ok (some ps)

namespace Filter

/-- Whether some term of a conjunction fixes the record id. -/
def FixesId (f : Filter) : Prop := ∃ v, compare ⟨idField, .eq v⟩ ∈ f.conjuncts

/-- Whether a document is selected by a conjunction: if a term fixes the record id, by the lookup
and the other terms, and otherwise by all terms. -/
def SelectsAlone (Named : Value → Prop) (d : Document) (f : Filter) : Prop :=
  match Plan.pick? Plan.fixedId? f.conjuncts with
  | some (v, rest) => Named v ∧ ∀ g ∈ rest, g.apply d = .ok true
  | none => f.apply d = .ok true

/-- Whether a document is selected by the filter of a query. A disjunction that is not taken apart
is one condition on all records, and one without branches is no condition. -/
def Selects (ds : List IndexDescriptor) (Named : Value → Prop) (d : Document) : Filter → Prop
  | .or [] => True
  | .or (g :: branches) =>
    (Plan.Splits ds (g :: branches) → ∃ k ∈ g :: branches, k.SelectsAlone Named d) ∧
      (¬ Plan.Splits ds (g :: branches) → (or (g :: branches)).apply d = .ok true)
  | f => f.SelectsAlone Named d

end Filter

namespace Plan

variable {f : Filter} {terms : List Filter} {ds : List IndexDescriptor} {p : Plan}
  {d : Document} {Named : Value → Prop}

/-- What the plan of a conjunction selects. -/
theorem selects_ofConjunction_iff (htext : f.hasText = false) (h : ofConjunction f ds = .ok p) :
    p.Selects Named d ↔ f.SelectsAlone Named d := by
  unfold Filter.SelectsAlone
  split
  · rename_i v rest hpick
    rw [ofConjunction_of_fixed hpick] at h
    cases h
    exact and_congr_right fun _ => residualOf_iff
  · rename_i hpick
    exact (divides_ofConjunction htext h).selects_iff (ofConjunction_simple h)
      (source_ne_byId hpick h)

/-- A lookup read as the equality it came from selects what passes the filter. -/
theorem selectsAlone_equality_iff :
    f.SelectsAlone (fun v => (⟨idField, .eq v⟩ : Comparison).holds d = .ok true) d ↔
      f.apply d = .ok true := by
  unfold Filter.SelectsAlone
  split
  · rename_i v rest hpick
    obtain ⟨before, g, after, hterms, hg, rfl⟩ := pick?_eq_some hpick
    obtain rfl := fixedId?_eq_some.mp hg
    rw [Filter.apply_eq_true_iff, hterms, Dealt.one_left.forall_mem_iff]
    simp [Filter.apply]
  · rfl

/-- Without a term that fixes the record id there is no lookup. -/
theorem selectsAlone_iff_of_not_fixesId (h : ¬ f.FixesId) :
    f.SelectsAlone Named d ↔ f.apply d = .ok true := by
  unfold Filter.SelectsAlone
  split
  · rename_i v rest hpick
    obtain ⟨before, g, after, hterms, hg, -⟩ := pick?_eq_some hpick
    obtain rfl := fixedId?_eq_some.mp hg
    exact absurd ⟨v, by simp [hterms]⟩ h
  · rfl

/-! ### Whole filters -/

/-- The plans of the branches that are looked up or scanned select what some branch selects. -/
theorem selectsSome_ofBranches_iff {branches : List Filter} {ps : List Plan}
    (htext : Filter.anyHasText branches = false)
    (h : ofBranches ds branches = .ok (some ps)) :
    SelectsSome Named d ps ↔ ∃ f ∈ branches, f.SelectsAlone Named d := by
  have hbranches := ofBranches_eq_some h
  clear h
  induction hbranches with
  | nil => simp [SelectsSome]
  | cons hone _ ih =>
    rw [Filter.anyHasText, Bool.or_eq_false_iff] at htext
    have hrest := ih htext.2
    simp [SelectsSome, hrest, selects_ofConjunction_iff htext.1 hone.1]

/-- A disjunction that splits selects what a branch selects. One that does not selects what passes
it as a whole. -/
theorem selects_or_iff {branches : List Filter} (hne : branches ≠ []) :
    (Filter.or branches).Selects ds Named d ↔
      (Splits ds branches → ∃ g ∈ branches, g.SelectsAlone Named d) ∧
        (¬ Splits ds branches → (Filter.or branches).apply d = .ok true) := by
  cases branches with
  | nil => exact absurd rfl hne
  | cons g branches => rw [Filter.Selects]

/-- Filters other than disjunctions select as conjunctions do. -/
theorem selects_iff_of_ne_or (hor : ∀ branches, f ≠ .or branches) :
    f.Selects ds Named d ↔ f.SelectsAlone Named d := by
  cases f with
  | or branches => exact absurd rfl (hor branches)
  | _ => rfl

/-- A query whose lookups find just what passes the filter selects that. -/
theorem selects_iff_of_agrees {b : Bool} (hb : f.apply d = .ok b)
    (hself : f.SelectsAlone Named d ↔ f.apply d = .ok true)
    (hbranches : ∀ branches, f = .or branches → ∀ g ∈ branches,
      (g.SelectsAlone Named d ↔ g.apply d = .ok true)) :
    f.Selects ds Named d ↔ b = true ∨ f = .or [] := by
  by_cases hor : ∃ branches, f = .or branches
  · obtain ⟨branches, rfl⟩ := hor
    by_cases hne : branches = []
    · simp [hne, Filter.Selects]
    rw [selects_or_iff hne]
    -- a disjunction that splits selects branch by branch, any other reads all records
    by_cases hsplits : Splits ds branches
    · simp only [hsplits, not_true_eq_false, false_implies, forall_const, and_true,
        Filter.or.injEq, hne, or_false]
      rw [Filter.apply] at hb
      constructor
      · rintro ⟨g, hg, hselects⟩
        rw [hbranches branches rfl g hg] at hselects
        cases b with
        | true => rfl
        | false =>
          rw [Filter.applyAny_false hb g hg] at hselects
          cases hselects
      · rintro rfl
        obtain ⟨g, hg, hpass⟩ := Filter.applyAny_true hb
        exact ⟨g, hg, (hbranches branches rfl g hg).mpr hpass⟩
    · simp [hsplits, hb, hne]
  · rw [not_exists] at hor
    rw [selects_iff_of_ne_or hor, hself, hb]
    simp [hor []]

/-- What the plan of a filter selects. -/
theorem selects_ofFilter_iff (htext : f.hasText = false) (h : ofFilter f ds = .ok p) :
    p.Selects Named d ↔ f.Selects ds Named d := by
  rcases ofFilter_cases h with
    ⟨branches, ps, rfl, hps, rfl⟩ | ⟨branches, rfl, hnone, rfl⟩ | ⟨hor, hconj⟩
  · cases branches with
    | nil =>
      -- without branches there is nothing to unite, and nothing to filter the records by
      cases hps
      simp [unite, selects_eq, SelectsFrom, Passes, Filter.Selects]
    | cons g branches =>
      have hne : ps.isEmpty = false := by
        cases ofBranches_eq_some hps
        rfl
      have hsplits : Splits ds (g :: branches) := ⟨ps, hps⟩
      rw [Filter.hasText] at htext
      rw [selects_eq, unite, hne]
      show SelectsSome Named d ps ↔ _
      rw [selectsSome_ofBranches_iff htext hps, Filter.Selects]
      simp [hsplits]
  · -- one scan for all branches, filtered by the whole disjunction
    cases branches with
    | nil => cases hnone
    | cons g branches =>
      have hsplits : ¬ Splits ds (g :: branches) := by
        rintro ⟨ps, hps⟩
        rw [hnone] at hps
        cases hps
      simp [selects_eq, SelectsFrom, Passes, Filter.Selects, hsplits]
  · rw [selects_ofConjunction_iff htext hconj, selects_iff_of_ne_or hor]

/-- Whether a plan divides some terms is a matter of its source and its residual filter. -/
theorem Divides.congr {q : Plan} (h : q.Divides terms) (hsource : p.source = q.source)
    (hresidual : p.residual = q.residual) : p.Divides terms := by
  unfold Divides kept answered at h ⊢
  rwa [hsource, hresidual]

/-- Sorting a plan leaves its residual filter as it is. -/
theorem sorted_residual (p : Plan) (sort : SortKeys) : (p.sorted sort).residual = p.residual := by
  unfold sorted
  split
  · rfl
  · split <;> rfl

/-- Source and residual filter of the plan of a query are those of its filter. -/
theorem optimize_eq_ok {collation : Text.Collation} {options : FindOptions}
    (h : optimize collation f options ds = .ok p) :
    ∃ q, ofFilter f ds = .ok q ∧ p.source = q.source ∧ p.residual = q.residual := by
  obtain ⟨q, hq, rfl⟩ := Result.map_eq_ok_iff.mp h
  exact ⟨q, hq, sorted_source q _, sorted_residual q _⟩

/-- What the plan of a query selects. -/
theorem selects_optimize_iff {collation : Text.Collation} {options : FindOptions}
    (htext : f.hasText = false) (h : optimize collation f options ds = .ok p) :
    p.Selects Named d ↔ f.Selects ds Named d := by
  obtain ⟨q, hq, hsource, hresidual⟩ := optimize_eq_ok h
  rw [selects_congr hsource hresidual]
  exact selects_ofFilter_iff htext hq

/-- The plan of a conjunction divides its terms into those it answers and those it keeps, and so
does each branch of a union. -/
theorem divides_ofFilter (htext : f.hasText = false) (h : ofFilter f ds = .ok p) :
    ((∀ branches, f ≠ .or branches) → p.Divides f.conjuncts) ∧
      ∀ branches ps, f = .or branches → p.source = .union ps →
        List.Forall₂ (fun (f : Filter) (p : Plan) => p.Divides f.conjuncts) branches ps := by
  constructor
  · intro hor
    rcases ofFilter_cases h with ⟨branches, ps, rfl, -, -⟩ | ⟨branches, rfl, -, -⟩ | ⟨-, hconj⟩
    · exact absurd rfl (hor branches)
    · exact absurd rfl (hor branches)
    · exact divides_ofConjunction htext hconj
  · rintro branches ps rfl hsource
    rcases ofFilter_cases h with ⟨bs, qs, hf, hqs, rfl⟩ | ⟨bs, hf, -, rfl⟩ | ⟨hor, -⟩
    · cases hf
      -- the plan is a union, so the branches were planned one by one
      have hps : qs = ps := by
        unfold unite at hsource
        split at hsource
        · cases hsource
        · exact Source.union.inj hsource
      subst hps
      rw [Filter.hasText] at htext
      have hbranches := ofBranches_eq_some hqs
      clear hqs hsource h
      induction hbranches with
      | nil => exact List.Forall₂.nil
      | cons hone _ ih =>
        rw [Filter.anyHasText, Bool.or_eq_false_iff] at htext
        exact List.Forall₂.cons (divides_ofConjunction htext.1 hone.1) (ih htext.2)
    · cases hsource
    · exact absurd rfl (hor branches)

/-- The optimizer preserves the meaning of a filter without text conditions: of the documents on
which the filter is decided, the plan selects those that pass, and of a disjunction without
branches every one. No term of a conjunction is lost or answered twice, be it the filter or
one of the branches that a plan unites. -/
theorem satisfies_optimize_iff {collation : Text.Collation} {options : FindOptions}
    (htext : f.hasText = false) (h : optimize collation f options ds = .ok p) :
    (∀ d b, f.apply d = .ok b → (p.Satisfies d ↔ b = true ∨ f = .or [])) ∧
      ((∀ branches, f ≠ .or branches) → p.Divides f.conjuncts) ∧
      ∀ branches ps, f = .or branches → p.source = .union ps →
        List.Forall₂ (fun (f : Filter) (p : Plan) => p.Divides f.conjuncts) branches ps := by
  obtain ⟨q, hq, hsource, hresidual⟩ := optimize_eq_ok h
  have hdivides := divides_ofFilter htext hq
  refine ⟨fun d b hb => ?_, fun hor => ?_, fun branches ps hor hps => ?_⟩
  · rw [Satisfies, selects_optimize_iff htext h]
    exact selects_iff_of_agrees hb selectsAlone_equality_iff fun _ _ _ _ =>
      selectsAlone_equality_iff
  · exact (hdivides.1 hor).congr hsource hresidual
  · exact hdivides.2 branches ps hor (hsource ▸ hps)

/-- A document that a disjunction without branches turns down satisfies its plan. -/
theorem satisfies_optimize_no_branches :
    ∃ p, optimize .binary (.or []) {} [] = .ok p ∧
      (Filter.or []).apply ⟨[("_id", .string "1")]⟩ = .ok false ∧
      p.Satisfies ⟨[("_id", .string "1")]⟩ := by
  have hplan : optimize .binary (.or []) {} [] =
      .ok { source := .collection, collation := some .binary } := rfl
  have hdown : (Filter.or []).apply ⟨[("_id", .string "1")]⟩ = .ok false := rfl
  refine ⟨_, hplan, hdown, ?_⟩
  exact ((satisfies_optimize_iff rfl hplan).1 _ false hdown).mpr (Or.inr rfl)

end Plan

end DocumentDb
