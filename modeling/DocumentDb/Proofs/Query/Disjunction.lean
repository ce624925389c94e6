import DocumentDb.Proofs.Opening
import DocumentDb.Proofs.Query.Answers

/-!
# `DocumentDb.Proofs.Query.Disjunction`: disjunctions against their branches

A disjunction should find what its branches find as queries of their own. It does if it is
taken apart. If not, one of the branches reads all records, and the whole disjunction is
evaluated on each of them. Then a term that fixes the record id is no lookup any more but an
equality of values, and the two differ: the text `"1"` and the integer 1 name one record
and are not equal.

`disjunction_differs_iff` says which records are lost by that, and which are found although no
branch finds them.
-/

set_option autoImplicit false

namespace DocumentDb

/-- Whether a conjunction finds a record by a lookup: one of its terms names the record, and the
others let it pass. -/
def Filter.LooksUp (f : Filter) (e : Entry) : Prop :=
  ∃ v rest, Plan.pick? Plan.fixedId? f.conjuncts = some (v, rest) ∧
    RecordId.ofValue? v = some e.1 ∧ ∀ g ∈ rest, g.apply e.2 = .ok true

/-- Whether a query finds a record by a lookup, be it that of a branch. -/
def Filter.FindsById (ds : List IndexDescriptor) (f : Filter) (e : Entry) : Prop :=
  match f with
  | .or branches => Plan.Splits ds branches ∧ ∃ g ∈ branches, g.LooksUp e
  | f => f.LooksUp e

namespace Plan

variable {f g : Filter} {branches : List Filter} {ds : List IndexDescriptor} {e : Entry}

/-- As one term of a conjunction, a disjunction is answered by reading all records. -/
theorem isCollectionScan_of_or {p : Plan} (h : ofConjunction (.or branches) ds = .ok p) :
    p.isCollectionScan = true := by
  rcases ofConjunction_cases h with
    ⟨v, rest, hpick, -⟩ | ⟨c, rest, d, hpick, -, -⟩ | ⟨d, hbest, -⟩ | rfl
  · cases hpick
  · cases hpick
  · -- there is no condition that an index could cover
    obtain ⟨-, -, hcovered⟩ := bestIndex?_eq_some hbest
    cases hfields : d.fields.fields <;>
      simp [covered, hfields, Filter.conjuncts, orderedTerm?, Filter.comparison?] at hcovered
  · rfl

/-- So it is no branch of a disjunction that is taken apart. -/
theorem Splits.ne_or (h : Splits ds branches) (hg : g ∈ branches) (inner : List Filter) :
    g ≠ .or inner := by
  rintro rfl
  obtain ⟨ps, hps⟩ := h
  have hbranches := ofBranches_eq_some hps
  clear hps
  induction hbranches with
  | nil => cases hg
  | cons hone _ ih =>
    cases hg with
    | tail _ hg => exact ih hg
    | head =>
      rw [isCollectionScan_of_or hone.1] at hone
      cases hone.2

/-- A conjunction that turns a record down finds it by a lookup or not at all. -/
theorem selectsAlone_iff_looksUp (hdown : f.apply e.2 = .ok false) :
    f.SelectsAlone (fun v => RecordId.ofValue? v = some e.1) e.2 ↔ f.LooksUp e := by
  unfold Filter.SelectsAlone Filter.LooksUp
  split
  · rename_i v rest hpick
    simp [hpick]
  · rename_i hnone
    simp [hnone, hdown]

/-- A query whose filter turns a record down finds it by a lookup or not at all. -/
theorem fetches_iff_findsById (hdown : f.apply e.2 = .ok false) (hne : f ≠ .or []) :
    f.Fetches ds e ↔ f.FindsById ds e := by
  unfold Filter.Fetches Filter.FindsById
  split
  · rename_i branches
    have hbranches : branches ≠ [] := fun h => hne (h ▸ rfl)
    have hall := Filter.applyAny_false (by rwa [Filter.apply] at hdown)
    rw [selects_or_iff hbranches, hdown]
    by_cases hsplits : Splits ds branches
    · simp only [hsplits, forall_const, not_true_eq_false, false_implies, and_true, true_and]
      exact exists_congr fun g => and_congr_right fun hg => selectsAlone_iff_looksUp (hall g hg)
    · simp [hsplits]
  · rename_i hor
    rw [selects_iff_of_ne_or hor, selectsAlone_iff_looksUp hdown]

end Plan

namespace Session

variable {σ : Type} {s : Session σ} {branches : List Filter} {docs : List Document}
  {alone : List (List Document)}

/-- What some branch finds alone. -/
theorem mem_flatten_iff_fetches (h : s.Sound) (hp : s.view.Plain) (hc : s.view.Consistent)
    (htext : ∀ g ∈ branches, g.hasText = false)
    (halone : List.Forall₂ (fun g docs => s.Finds g {} docs) branches alone) {e : Entry}
    (he : e ∈ s.view.records) :
    e.2 ∈ alone.flatten ↔ ∃ g ∈ branches, g.Fetches s.view.offered e := by
  induction halone with
  | nil => simp
  | cons hone _ ih =>
    rw [List.forall_mem_cons] at htext
    rw [List.flatten_cons, List.mem_append, hone.mem_iff h hp hc htext.1 rfl rfl he, ih htext.2]
    simp

/-- A disjunction that is taken apart finds what its branches find. -/
theorem disjunction_of_splits (h : s.Sound) (hp : s.view.Plain) (hc : s.view.Consistent)
    (hne : branches ≠ []) (htext : ∀ g ∈ branches, g.hasText = false)
    (hsplits : Plan.Splits s.view.offered branches) (hor : s.Finds (.or branches) {} docs)
    {e : Entry} (he : e ∈ s.view.records) :
    e.2 ∈ docs ↔ ∃ g ∈ branches, g.Fetches s.view.offered e := by
  have htext' : (Filter.or branches).hasText = false := Filter.anyHasText_eq_false_iff.mpr htext
  rw [hor.mem_iff h hp hc htext' rfl rfl he, Filter.Fetches, Plan.selects_or_iff hne]
  simp only [hsplits, forall_const, not_true_eq_false, false_implies, and_true]
  refine exists_congr fun g => and_congr_right fun hg => ?_
  rw [Filter.Fetches, Plan.selects_iff_of_ne_or (hsplits.ne_or hg)]

/-- A disjunction that is not taken apart is decided on every record, and finds those that some
branch lets pass. -/
theorem disjunction_of_not_splits (h : s.Sound) (hp : s.view.Plain) (hc : s.view.Consistent)
    (hne : branches ≠ []) (htext : ∀ g ∈ branches, g.hasText = false)
    (hsplits : ¬ Plan.Splits s.view.offered branches) (hor : s.Finds (.or branches) {} docs)
    {e : Entry} (he : e ∈ s.view.records) :
    (e.2 ∈ docs ↔ ∃ g ∈ branches, g.apply e.2 = .ok true) ∧
      (e.2 ∉ docs ↔ ∀ g ∈ branches, g.apply e.2 = .ok false) := by
  have htext' : (Filter.or branches).hasText = false := Filter.anyHasText_eq_false_iff.mpr htext
  rw [hor.mem_iff h hp hc htext' rfl rfl he, Filter.Fetches, Plan.selects_or_iff hne]
  -- all records were read with the disjunction, so it is decided on each of them
  obtain ⟨b, hb⟩ := hor.decided h hp hc rfl rfl hsplits e he
  simp only [hsplits, false_implies, not_false_eq_true, forall_const, true_and]
  rw [hb]
  rw [Filter.apply] at hb
  cases b with
  | true =>
    obtain ⟨g, hg, hpass⟩ := Filter.applyAny_true hb
    refine ⟨iff_of_true rfl ⟨g, hg, hpass⟩, iff_of_false (not_not_intro rfl) fun hall => ?_⟩
    rw [hall g hg] at hpass
    cases hpass
  | false =>
    have hall := Filter.applyAny_false hb
    refine ⟨iff_of_false (by simp) ?_, iff_of_true (by simp) hall⟩
    rintro ⟨g, hg, hpass⟩
    rw [hall g hg] at hpass
    cases hpass

/-- A disjunction finds what its branches find, with two exceptions, both of which need a branch
that would read all records. A record is lost if no branch lets it pass but one finds it by a
lookup of its id. A record is gained if a branch lets it pass and none finds it. -/
theorem disjunction_differs_iff (h : s.Sound) (hp : s.view.Plain) (hc : s.view.Consistent)
    (hne : branches ≠ []) (htext : ∀ g ∈ branches, g.hasText = false)
    (hsome : ∀ g ∈ branches, g ≠ .or []) (hor : s.Finds (.or branches) {} docs)
    (halone : List.Forall₂ (fun g docs => s.Finds g {} docs) branches alone) :
    ∀ e ∈ s.view.records,
      (e.2 ∈ alone.flatten ∧ e.2 ∉ docs ↔
        ¬ Plan.Splits s.view.offered branches ∧ (∀ g ∈ branches, g.apply e.2 = .ok false) ∧
          ∃ g ∈ branches, g.FindsById s.view.offered e) ∧
      (e.2 ∈ docs ∧ e.2 ∉ alone.flatten ↔
        ¬ Plan.Splits s.view.offered branches ∧ (∃ g ∈ branches, g.apply e.2 = .ok true) ∧
          ∀ g ∈ branches, ¬ g.Fetches s.view.offered e) := by
  intro e he
  rw [mem_flatten_iff_fetches h hp hc htext halone he]
  -- a disjunction that is split finds what its branches find
  by_cases hsplits : Plan.Splits s.view.offered branches
  · rw [disjunction_of_splits h hp hc hne htext hsplits hor he]
    simp [hsplits]
  · obtain ⟨hpass, hdown⟩ := disjunction_of_not_splits h hp hc hne htext hsplits hor he
    rw [hdown, hpass]
    constructor
    · constructor
      · rintro ⟨⟨g, hg, hfetches⟩, hall⟩
        exact ⟨hsplits, hall, g, hg,
          (Plan.fetches_iff_findsById (hall g hg) (hsome g hg)).mp hfetches⟩
      · rintro ⟨-, hall, g, hg, hfinds⟩
        exact ⟨⟨g, hg, (Plan.fetches_iff_findsById (hall g hg) (hsome g hg)).mpr hfinds⟩, hall⟩
    · simp [hsplits]

/-- A query that reads all records finds nothing if none of them passes. -/
theorem finds_nothing (h : s.Sound) {f : Filter}
    (hplan : Plan.optimize s.view.config.collation f {} s.view.offered
      = .ok { source := .collection, residual := some f, collation := some .binary })
    (hdown : ∀ e ∈ s.view.records, f.apply e.2 = .ok false) : s.Finds f {} [] := by
  have hstream : s.view.streamOf
    { source := .collection, residual := some f, collation := some .binary }
      = .ok (.filtered (.walk (Walk.start s.view.recordMap false)) f) := rfl
  refine finds_of_fit h hplan ?_ hstream fun store hread => ?_
  · intro d hd
    cases hd
  · have hnone := RecordStream.runFiltered_eq_nil (RecordStream.walk_items hread) hdown
    rw [Cursor.toList, Cursor.drain, Cursor.run, RecordStream.run, hnone]
    rfl

/-- A record that has nothing but its id. -/
def loneRecord : Entry := (⟨1⟩, ⟨[("_id", .string "1")]⟩)

/-- The lookup of record 1 finds it, another branch finds nothing, and the disjunction of the two
finds nothing either. -/
theorem disjunction_differs_lone_record :
    ∃ (s : Session Unit) (branches : List Filter) (alone : List (List Document)),
      s.Sound ∧ s.view.Plain ∧ s.view.Consistent ∧ branches ≠ [] ∧
        (∀ g ∈ branches, g.hasText = false) ∧ (∀ g ∈ branches, g ≠ .or []) ∧
        s.Finds (.or branches) {} [] ∧
        List.Forall₂ (fun g docs => s.Finds g {} docs) branches alone ∧
        loneRecord ∈ s.view.records ∧ loneRecord.2 ∈ alone.flatten ∧
        ¬ Plan.Splits s.view.offered branches ∧
        ∃ g ∈ branches, g.FindsById s.view.offered loneRecord := by
  let byId : Filter := .compare ⟨idField, .eq (.int 1)⟩
  let other : Filter := .compare ⟨"a", .eq (.string "z")⟩
  obtain ⟨s, h, hview⟩ := exists_unbuilt "c" {} [] (by decide) rfl
    (List.pairwise_singleton _ loneRecord) List.Pairwise.nil
  have hp : s.view.Plain := by
    rw [hview]
    exact ⟨rfl, rfl⟩
  have hc : s.view.Consistent := by
    rw [hview]
    exact {
      sorted := List.pairwise_singleton _ loneRecord
      distinct := List.nodup_nil
      own := by
        rw [List.forall_mem_singleton]
        rfl
      keeps := by simp }
  have hrecords : s.view.records = [loneRecord] := by
    rw [hview]
  -- alone, the lookup finds the record
  have hbyId : s.Finds byId {} [loneRecord.2] := by
    refine finds_of_fit h (p := { source := .byId (.int 1), collation := some .binary })
      (by rw [hview]; rfl) (by intro d hd; cases hd) (by rw [hview]; rfl) fun store hread => ?_
    rw [hview] at hread ⊢
    have hread' : (store.map ⟨0⟩).read = .ok [loneRecord] := hread
    have hstream : RecordStream.run store (.lookup ⟨0⟩ [⟨1⟩])
        = [(.ok loneRecord, .lookup ⟨0⟩ [])] := by
      simp only [RecordStream.run, RecordStream.runLookup, hread']
      rfl
    rw [Cursor.toList, Cursor.drain, Cursor.run]
    exact congrArg (fun run => ((Cursor.readRun [] run).map (·.1)).mapM id) hstream
  -- the other branch is a scan of all records, and none of them passes
  have hother : s.Finds other {} [] := by
    refine finds_nothing h (by rw [hview]; rfl) ?_
    rw [hrecords, List.forall_mem_singleton]
    show other.apply ⟨[("_id", .string "1")]⟩ = .ok false
    cbv
  -- together they are one scan, where the integer is compared with the text of the id
  have hor : s.Finds (.or [byId, other]) {} [] := by
    refine finds_nothing h (by rw [hview]; rfl) ?_
    rw [hrecords, List.forall_mem_singleton]
    show (Filter.or [byId, other]).apply ⟨[("_id", .string "1")]⟩ = .ok false
    cbv
  have halone : List.Forall₂ (fun g docs => s.Finds g {} docs) [byId, other]
      [[loneRecord.2], []] := .cons hbyId (.cons hother .nil)
  have htext : ∀ g ∈ [byId, other], g.hasText = false := by
    simp [byId, other, Filter.hasText, Comparison.isText, Condition.isText]
  have hsome : ∀ g ∈ [byId, other], g ≠ .or [] := by simp [byId, other]
  have hthere : loneRecord ∈ s.view.records := by simp [hrecords]
  have hfound : loneRecord.2 ∈ [[loneRecord.2], []].flatten := by simp
  obtain ⟨hlost, -⟩ := disjunction_differs_iff h hp hc (List.cons_ne_nil _ _) htext hsome hor halone
    loneRecord hthere
  obtain ⟨hsplits, -, hreason⟩ := hlost.mp ⟨hfound, List.not_mem_nil⟩
  exact ⟨s, [byId, other], [[loneRecord.2], []], h, hp, hc, List.cons_ne_nil _ _, htext, hsome,
    hor, halone, hthere, hfound, hsplits, hreason⟩

end Session

end DocumentDb
