import DocumentDb.Proofs.Query.BranchOrder
import Mathlib.Data.List.TakeWhile

/-!
# `DocumentDb.Proofs.Query.IndexChoice`: the index that a conjunction scans

A conjunction that neither fixes the record id nor has a text condition is answered by an ordered
index, if there is one whose first field some term asks about. `Plan.index_choice_best` says which
one that is and what it is scanned for.

* `Leads` says which fields of an index count as covered: the leading ones, up to the first that no
  term asks about. A term asks about a field if it is a condition on it that an ordered index can
  answer (`Asks`).
* The chosen index is the first one of those with the highest rank (`FirstBest`), be it among the
  indexes that cover something or among all ordered ones: an index without a covered field ranks
  below any other (`FirstBest.of_filter`).
* For each covered field the scan takes the first term that asks about it (`FirstAbout`,
  `scanConditions_first`).
-/

set_option autoImplicit false

namespace DocumentDb

namespace Plan

variable {f : Filter} {terms : List Filter} {ds : List IndexDescriptor} {d : IndexDescriptor}
  {field : String} {c : Comparison}

/-! ### Covered fields -/

/-- Whether a condition is a term about a field that an ordered index can answer. -/
def Asks (terms : List Filter) (field : String) (c : Comparison) : Prop :=
  .compare c ∈ terms ∧ c.isIndexable = true ∧ c.isText = false ∧ c.field = field

/-- A number of leading fields: some term asks about each of them, and none about the next field. -/
structure Leads (terms : List Filter) (fields : List String) (n : Nat) : Prop where
  le_length : n ≤ fields.length
  asked : ∀ field ∈ fields.take n, ∃ c, Asks terms field c
  ends : ∀ field, fields[n]? = some field → ¬ ∃ c, Asks terms field c

/-- The conditions of a conjunction that an ordered index can answer. -/
abbrev conditionsOf (terms : List Filter) : List Comparison := terms.filterMap orderedTerm?

/-- The conditions are the terms that an ordered index can answer. -/
theorem mem_conditionsOf :
    c ∈ conditionsOf terms ↔ .compare c ∈ terms ∧ c.isIndexable = true ∧ c.isText = false := by
  rw [conditionsOf, List.mem_filterMap]
  constructor
  · rintro ⟨g, hg, hc⟩
    obtain ⟨rfl, hfit⟩ := orderedTerm?_eq_some.mp hc
    exact ⟨hg, hfit⟩
  · rintro ⟨hg, hfit⟩
    exact ⟨_, hg, orderedTerm?_eq_some.mpr ⟨rfl, hfit⟩⟩

/-- A field is asked about if some condition is on it. -/
theorem exists_asks_iff :
    (∃ c, Asks terms field c) ↔ (conditionsOf terms).any (·.field == field) = true := by
  rw [List.any_eq_true]
  refine exists_congr fun c => ?_
  rw [mem_conditionsOf, beq_iff_eq, Asks, and_assoc, and_assoc]

/-- The fields that count as covered are the leading ones that terms ask about. -/
theorem leads_covered (terms : List Filter) (d : IndexDescriptor) :
    Leads terms d.fields.fields (covered (conditionsOf terms) d) := by
  rw [covered]
  generalize d.fields.fields = fields
  let asked (field : String) : Bool := (conditionsOf terms).any (·.field == field)
  have hprefix : fields.takeWhile asked <+: fields := List.takeWhile_prefix asked
  constructor
  case le_length => exact hprefix.length_le
  case asked =>
    intro field hfield
    rw [← List.prefix_iff_eq_take.mp hprefix] at hfield
    exact exists_asks_iff.mpr (List.mem_takeWhile_imp (p := asked) hfield)
  case ends =>
    intro field hfield
    have hsplit : fields.takeWhile asked ++ fields.dropWhile asked = fields :=
      List.takeWhile_append_dropWhile
    -- the first field that is not covered is the first one that no condition is on
    have hnext : (fields.dropWhile asked).head? = some field := by
      have hrest : (fields.takeWhile asked
        ++ fields.dropWhile asked)[(fields.takeWhile asked).length]?
          = (fields.dropWhile asked).head? := by
        rw [List.getElem?_append_right (Nat.le_refl _), Nat.sub_self, List.head?_eq_getElem?]
      rw [hsplit] at hrest
      exact hrest.symm.trans hfield
    have hnot := List.head?_dropWhile_not asked fields
    rw [hnext] at hnot
    rw [exists_asks_iff]
    exact Bool.eq_false_iff.mp hnot

/-! ### Conditions of the scan -/

/-- The first term that asks about a field. -/
def FirstAbout (terms : List Filter) (field : String) (c : Comparison) : Prop :=
  ∃ before after, terms = before ++ .compare c :: after ∧ Asks [.compare c] field c ∧
    ¬ ∃ c', Asks before field c'

/-- The condition that is found is the first one about the field. -/
theorem firstAbout_of_find? (h : (conditionsOf terms).find? (·.field == field) = some c) :
    FirstAbout terms field c := by
  obtain ⟨hfield, front, rest, hsplit, hfront⟩ := List.find?_eq_some_iff_append.mp h
  obtain ⟨before, back, rfl, rfl, hback⟩ := List.filterMap_eq_append_iff.mp hsplit
  obtain ⟨skipped, g, after, rfl, hskipped, hg, -⟩ := List.filterMap_eq_cons_iff.mp hback
  obtain ⟨rfl, hindexable, htext⟩ := orderedTerm?_eq_some.mp hg
  refine ⟨before ++ skipped, after, by simp,
    ⟨List.mem_singleton_self _, hindexable, htext, by simpa using hfield⟩, ?_⟩
  -- what is skipped in front of it is no condition, or one about another field
  rw [exists_asks_iff, conditionsOf, List.filterMap_append,
    List.filterMap_eq_nil_iff.mpr hskipped, List.append_nil, List.any_eq_true]
  rintro ⟨c', hc', hsame⟩
  have hother := hfront c' hc'
  rw [hsame] at hother
  cases hother

/-- A scan takes for each field the first term that asks about it. -/
theorem scanConditions_first {fields : List String}
    (h : ∀ field ∈ fields, ∃ c, Asks terms field c) :
    List.Forall₂ (FirstAbout terms) fields (scanConditions (conditionsOf terms) fields) := by
  induction fields with
  | nil => exact List.Forall₂.nil
  | cons field fields ih =>
    rw [List.forall_mem_cons, exists_asks_iff, List.any_eq_true, ← List.find?_isSome,
      Option.isSome_iff_exists] at h
    obtain ⟨⟨c, hc⟩, hrest⟩ := h
    have hstep : scanConditions (conditionsOf terms) (field :: fields)
        = c :: scanConditions (conditionsOf terms) fields := List.filterMap_cons_some hc
    rw [hstep]
    exact List.Forall₂.cons (firstAbout_of_find? hc) (ih hrest)

/-! ### The choice -/

/-- The index that is chosen is the first of the best among all ordered ones. -/
theorem firstBest_of_bestIndex? {conditions : List Comparison}
    (h : bestIndex? conditions ds = some d) :
    FirstBest (rank conditions) (ds.filter (!·.isFullText)) d := by
  have hcovered := (bestIndex?_eq_some h).2.2
  have hkeeps : FirstBest (rank conditions) (suitable conditions ds) d := by
    have hbest := keeps_bestIndex? conditions ds
    rwa [h] at hbest
  have hsuitable : suitable conditions ds
      = (ds.filter (!·.isFullText)).filter fun e => covered conditions e ≠ 0 := by
    rw [suitable, List.filter_filter]
    exact List.filter_congr fun e _ => Bool.and_comm _ _
  rw [hsuitable] at hkeeps
  refine hkeeps.of_filter fun e _ he => ?_
  -- an index that covers nothing ranks below one that covers something
  have hnone : covered conditions e = 0 := by simpa using he
  rw [rank, rank, Prod.Lex.toLex_lt_toLex, hnone]
  exact Or.inl (Nat.pos_of_ne_zero hcovered)

/-- Where neither the record id nor a text condition decides, the ordered indexes do. -/
theorem ofConjunction_of_neither (hid : ¬ f.FixesId)
    (htext : ∀ c, .compare c ∈ f.conjuncts → c.isText = false) :
    ofConjunction f ds = .ok ((orderedPlan? f.conjuncts ds).getD
      { source := .collection, residual := residualOf f.conjuncts }) := by
  have hbyId : byIdPlan? f.conjuncts = none := by
    rw [byIdPlan?, Option.map_eq_none_iff]
    by_contra hsome
    obtain ⟨⟨v, rest⟩, hpick⟩ := Option.ne_none_iff_exists'.mp hsome
    exact hid (fixesId_iff.mpr ⟨v, rest, hpick⟩)
  have hterm : ∀ g ∈ f.conjuncts, textTerm? g = none := by
    intro g hg
    by_contra hsome
    obtain ⟨c, hc⟩ := Option.ne_none_iff_exists'.mp hsome
    obtain ⟨rfl, htrue⟩ := textTerm?_eq_some hc
    rw [htext c hg] at htrue
    cases htrue
  have hplan : textPlan? f.conjuncts ds = .ok none := by
    rw [textPlan?, List.filterMap_eq_nil_iff.mpr hterm, pick?_eq_none.mpr hterm]
    rfl
  simp [ofConjunction, hbyId, hplan, Except.map]

/-- The choice of an ordered index. There is none exactly if no term asks about the first field of
an ordered index. Otherwise the index is the first one of those that rank highest among all ordered
indexes, where the number of covered fields counts first, then uniqueness, and then fewer fields.
Its scan takes for each covered field, in the order of the index, the first term that asks about it.
A conjunction is planned so if no term fixes the record id or is a text condition. -/
theorem index_choice_best (terms : List Filter) (ds : List IndexDescriptor) :
    (∀ d : IndexDescriptor, Leads terms d.fields.fields (covered (conditionsOf terms) d)) ∧
    (orderedPlan? terms ds = none ↔ ∀ d ∈ ds, d.isFullText = false →
      ∀ field, d.fields.fields.head? = some field → ¬ ∃ c, Asks terms field c) ∧
    (∀ p, orderedPlan? terms ds = some p → ∃ d cs,
      p.source = .index d cs ∧
      FirstBest (rank (conditionsOf terms)) (ds.filter (!·.isFullText)) d ∧
      List.Forall₂ (FirstAbout terms)
        (d.fields.fields.take (covered (conditionsOf terms) d)) cs) ∧
    ∀ f : Filter, f.conjuncts = terms → ¬ f.FixesId →
      (∀ c, .compare c ∈ terms → c.isText = false) →
      ofConjunction f ds = .ok ((orderedPlan? terms ds).getD
        { source := .collection, residual := residualOf terms }) := by
  refine ⟨leads_covered terms, ?_, fun p hp => ?_, ?_⟩
  · rw [orderedPlan?_eq_none]
    refine forall₂_congr fun d _ => forall_congr' fun _ => ?_
    constructor
    · rintro h field hfield ⟨c, hc, hindexable, htext, rfl⟩
      exact h c hc hindexable htext hfield
    · exact fun h c hc hindexable htext hfield => h c.field hfield ⟨c, hc, hindexable, htext, rfl⟩
  · obtain ⟨d, hd, rfl⟩ := Option.map_eq_some_iff.mp hp
    exact ⟨d, _, rfl, firstBest_of_bestIndex? hd,
      scanConditions_first (leads_covered terms d).asked⟩
  · rintro f rfl hid htext
    exact ofConjunction_of_neither hid htext

/-- Three indexes with one first field: on two fields, on the first field alone, and unique on
two. -/
def threeIndexes : List IndexDescriptor :=
  [⟨.nonUnique, ⟨["a", "b"]⟩, "c"⟩, ⟨.nonUnique, ⟨["a"]⟩, "c"⟩, ⟨.unique, ⟨["a", "c"]⟩, "c"⟩]

/-- The unique index is scanned although it has more fields and comes last. -/
theorem index_choice_best_unique_first :
    ∃ p d, ofConjunction (.compare ⟨"a", .eq (.int 1)⟩) threeIndexes = .ok p ∧
      p.source = .index d [⟨"a", .eq (.int 1)⟩] ∧ d.isUnique = true ∧
      FirstBest (rank [⟨"a", .eq (.int 1)⟩]) threeIndexes d := by
  obtain ⟨-, -, hchoice, hconjunction⟩ :=
    index_choice_best [.compare ⟨"a", .eq (.int 1)⟩] threeIndexes
  have hplan : orderedPlan? [.compare ⟨"a", .eq (.int 1)⟩] threeIndexes
      = some (scanOf [.compare ⟨"a", .eq (.int 1)⟩] ⟨.unique, ⟨["a", "c"]⟩, "c"⟩) := rfl
  obtain ⟨d, cs, hsource, hbest, -⟩ := hchoice _ hplan
  cases hsource
  have hid : ¬ (Filter.compare ⟨"a", .eq (.int 1)⟩).FixesId := by
    rintro ⟨v, hv⟩
    simp [Filter.conjuncts, idField, Error.idFieldText] at hv
  have htext : ∀ c, .compare c ∈ [Filter.compare ⟨"a", .eq (.int 1)⟩] → c.isText = false := by
    intro c hc
    cases List.mem_singleton.mp hc
    rfl
  have hconj := hconjunction _ rfl hid htext
  rw [hplan] at hconj
  exact ⟨_, _, hconj, rfl, rfl, hbest⟩

end Plan

end DocumentDb
