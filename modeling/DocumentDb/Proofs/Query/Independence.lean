import DocumentDb.Proofs.FailedWrites
import DocumentDb.Proofs.Query.Answers

/-!
# `DocumentDb.Proofs.Query.Independence`: queries do not depend on indexes

A query may take its records from an index, from the union of several scans, or from all
records, and dirty indexes are rebuilt on the way. `found_iff_passes` says that none of this
shows: if no term is a lookup by id, the records found are those that pass the filter. Patterns
may test texts in any way, as they are part of no index.

A scan reads more documents than the ones it hands out, and fewer than there are. So a
filter may be undecided on a stored record, with an error, and the query succeed: then it is
left open whether the record is found.
-/

set_option autoImplicit false

namespace DocumentDb

/-- Whether a query has no lookup by id: neither the filter nor a branch of it fixes the
record id. -/
def Filter.LooksNothingUp (f : Filter) : Prop :=
  ¬ f.FixesId ∧ ∀ branches, f = .or branches → ∀ g ∈ branches, ¬ g.FixesId

/-- Without lookups, the records that pass the filter are fetched. -/
theorem Filter.fetches_iff_of_looksNothingUp {f : Filter} {ds : List IndexDescriptor} {e : Entry}
    {b : Bool} (hlookups : f.LooksNothingUp) (hb : f.apply e.2 = .ok b) :
    f.Fetches ds e ↔ b = true ∨ f = .or [] := by
  refine Plan.selects_iff_of_agrees hb ?_ fun branches hor g hg => ?_
  · exact Plan.selectsAlone_iff_of_not_fixesId hlookups.1
  · exact Plan.selectsAlone_iff_of_not_fixesId (hlookups.2 branches hor g hg)

namespace Session

variable {σ : Type} {s : Session σ} {f : Filter} {options : FindOptions} {docs : List Document}

/-- Whatever the indexes are, a query without lookups by id finds the stored records that pass
its filter, each of them once. -/
theorem found_iff_passes (h : s.Sound) (hp : s.view.Plain) (hc : s.view.Consistent)
    (htext : f.hasText = false) (hlookups : f.LooksNothingUp) (hne : f ≠ .or [])
    (hskip : options.skip = none) (hlimit : options.limit = none)
    (hfinds : s.Finds f options docs) :
    (docs.map Document.id).Nodup ∧ (∀ d ∈ docs, ∃ e ∈ s.view.records, e.2 = d) ∧
      ∀ e ∈ s.view.records, ∀ b, f.apply e.2 = .ok b → (e.2 ∈ docs ↔ b = true) := by
  obtain ⟨hnodup, hstored⟩ := hfinds.stored h hp hc htext hskip hlimit
  refine ⟨hnodup, hstored, fun e he b hb => ?_⟩
  rw [hfinds.mem_iff h hp hc htext hskip hlimit he,
    Filter.fetches_iff_of_looksNothingUp hlookups hb, or_iff_left hne]

/-- A scan of the index on `a`, beside an index on `b` that is still to be built, finds one of
two records. -/
theorem found_iff_passes_rival_records :
    ∃ (s : Session Unit) (f : Filter) (docs : List Document), s.Sound ∧ s.view.Plain ∧
      s.view.Consistent ∧ f.hasText = false ∧ f.LooksNothingUp ∧ f ≠ .or [] ∧
      s.Finds f {} docs ∧ s.view.records = rivalRecords ∧
      (∃ e ∈ s.view.records, f.apply e.2 = .ok true ∧ e.2 ∈ docs) ∧
      ∃ e ∈ s.view.records, f.apply e.2 = .ok false ∧ e.2 ∉ docs := by
  let a : IndexDescriptor := ⟨.unique, ⟨["a"]⟩, "c"⟩
  let b : IndexDescriptor := ⟨.nonUnique, ⟨["b"]⟩, "c"⟩
  let v : View := .halfBuilt rivalRecords a b
  let c : Comparison := ⟨"a", .eq (.bool true)⟩
  let p : Plan := { source := .index a [c], collation := some .binary }
  let one : Document := ⟨[("_id", .string "1"), ("a", .bool false)]⟩
  let two : Document := ⟨[("_id", .string "2"), ("a", .bool true)]⟩
  obtain ⟨s, h, hp, hc, hview⟩ : ∃ s : Session Unit, s.Sound ∧ s.view.Plain ∧ s.view.Consistent ∧
      s.view = v :=
    Session.exists_half_built (by decide) rivalRecords_own (by decide)
  -- the index on `a` is clean, so the query is planned with it and goes by its entries
  have hfinds : s.Finds (.compare c) {} [two] := by
    have htrusted : ∃ i ∈ v.indexes, i.descriptor = a ∧ v.trusts i = true := by decide +kernel
    have hoffered : v.offered = [a, b] := by decide +kernel
    have hplan : Plan.optimize v.config.collation (.compare c) {} v.offered = .ok p := by
      rw [hoffered]
      rfl
    have hstream : v.streamOf p = .ok (.lookup ⟨0⟩ [⟨2⟩]) := rfl
    rw [← hview] at htrusted hplan hstream
    refine finds_of_fit h (p := p) hplan ?_ hstream fun store hread => ?_
    · intro d hd
      rw [List.mem_singleton.mp hd]
      exact htrusted
    · rw [hview] at hread ⊢
      have hread' : (store.map ⟨0⟩).read = .ok rivalRecords := hread
      simp only [Cursor.toList, Cursor.drain, Cursor.run, RecordStream.run,
        RecordStream.runLookup, hread']
      rfl
  -- the only term is about another field than the id
  have hlookups : (Filter.compare c).LooksNothingUp := by
    constructor
    · rintro ⟨v, hmem⟩
      have hfield : "_id" = "a" :=
        congrArg Comparison.field (Filter.compare.inj (List.mem_singleton.mp hmem))
      exact absurd hfield (by decide)
    · intro branches hor
      cases hor
  have hbranches : Filter.compare c ≠ .or [] := by
    intro hor
    cases hor
  obtain ⟨-, -, hfound⟩ := found_iff_passes h hp hc rfl hlookups hbranches rfl rfl hfinds
  have hrecords : s.view.records = rivalRecords := by
    rw [hview]
    rfl
  have hone : ((⟨1⟩, one) : Entry) ∈ s.view.records := by
    rw [hrecords]
    exact List.mem_cons_self
  have htwo : ((⟨2⟩, two) : Entry) ∈ s.view.records := by
    rw [hrecords]
    exact List.mem_cons_of_mem _ List.mem_cons_self
  have hfails : (Filter.compare c).apply one = .ok false := by cbv
  have hpasses : (Filter.compare c).apply two = .ok true := by cbv
  have hnot : one ∉ [two] := fun hmem => Bool.noConfusion ((hfound _ hone false hfails).mp hmem)
  exact ⟨s, .compare c, [two], h, hp, hc, rfl, hlookups, hbranches, hfinds, hrecords,
    ⟨_, htwo, hpasses, (hfound _ htwo true hpasses).mpr rfl⟩, ⟨_, hone, hfails, hnot⟩⟩

end Session

end DocumentDb
