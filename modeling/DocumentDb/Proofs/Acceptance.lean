import DocumentDb.Proofs.FailedWrites
import DocumentDb.Proofs.Index.Admission

/-!
# `DocumentDb.Proofs.Acceptance`: which writes succeed

While all indexes are clean and none is being built, a write is refused for reasons that the
documents give: the id, a value that an index does not admit, or another record with the same
values in a unique index. `accepted_iff` says that there are no other reasons, and that each
of these is one. An update does not clash with the version that it replaces.
-/

set_option autoImplicit false

namespace DocumentDb

namespace View

variable {v : View} {id : RecordId} {doc old : Document} {i : IndexState}

/-- Whether the indexes of a collection accept a document under an id: they all admit it, and no
other record clashes with it in a unique index. -/
structure Accepts (v : View) (id : RecordId) (doc : Document) : Prop where
  admitted : ∀ i ∈ v.indexes, i.descriptor.admits doc = true
  unclaimed : ∀ i ∈ v.indexes, i.descriptor.isUnique = true → ∀ e ∈ v.records, e.1 ≠ id →
    i.descriptor.clashes doc e.2 = false

/-- Whether all indexes can be relied on: they are clean, and no build is running. -/
structure Ready (v : View) : Prop where
  clean : ∀ i ∈ v.indexes, i.dirty = false
  idle : v.held = []

/-- An index that can be relied on is not waiting for a rebuild. -/
theorem Ready.not_atRest (h : v.Ready) (hi : i ∈ v.indexes) : v.atRest i = false :=
  atRest_of_clean (h.clean i hi)

/-- An index that can be relied on is exact. -/
theorem Ready.exact (h : v.Ready) (hc : v.Consistent) (hi : i ∈ v.indexes) :
    i.Exact v.config v.records :=
  hc.exact_of_rest h.idle hi (h.not_atRest hi)

/-- The indexes accept a document when each of them takes it. -/
theorem Ready.accepts_iff (h : v.Ready) (hc : v.Consistent) (hid : doc.id = .ok (some id)) :
    v.Accepts id doc ↔ ∀ i ∈ v.indexes, i.Takes v.config id doc := by
  have htakes := fun i hi => (h.exact hc (i := i) hi).takes_iff_admits hc.own hid
  constructor
  · intro haccepts i hi
    refine (htakes i hi).mpr ⟨haccepts.admitted i hi, fun hunique e he hclashes => ?_⟩
    by_contra hne
    rw [haccepts.unclaimed i hi hunique e he hne] at hclashes
    cases hclashes
  · intro hall
    refine ⟨fun i hi => ((htakes i hi).mp (hall i hi)).1, fun i hi hunique e he hne => ?_⟩
    rw [Bool.eq_false_iff]
    exact fun hclashes => hne (((htakes i hi).mp (hall i hi)).2 hunique e he hclashes)

/-- Storing a new document succeeds when each index takes it. -/
theorem Ready.insert_ok_iff (h : v.Ready) (hc : v.Consistent)
    (hplain : v.config.customExtractor = none) (hid : doc.id = .ok (some id)) :
    (v.insert id doc).1 = .ok () ↔ ∀ i ∈ v.indexes, i.Takes v.config id doc := by
  have hloop : (v.insert id doc).1 = ((v.setRecord id doc).writeEach doc v.indexes).1 := by
    unfold insert
    rcases (v.setRecord id doc).writeEach doc v.indexes with ⟨_ | _, _⟩ <;> rfl
  rw [hloop]
  rcases (v.setRecord id doc).writeEach_cases doc v.indexes with
    ⟨hall, hrun⟩ | ⟨before, k, after, e, hsplit, -, hk, hrun⟩
  · rw [hrun]
    refine iff_of_true rfl fun i hi => ?_
    -- the loop goes through if no index refuses
    by_contra hnot
    obtain ⟨e, hrefused⟩ := bringUp_refuses (v := v.setRecord id doc) hplain
      (hc.keeps i hi).wellFormed hid (h.not_atRest hi) hnot
    obtain ⟨has, hok⟩ := hall i hi
    rw [hrefused] at hok
    cases hok
  · rw [hrun]
    refine iff_of_false nofun fun hall => ?_
    have hmem : k ∈ v.indexes := by simp [hsplit]
    obtain ⟨i', hadded, -⟩ := bringUp_adds (v := v.setRecord id doc) hplain
      (hc.keeps k hmem).wellFormed hid (h.not_atRest hmem) (hall k hmem)
    rw [hadded] at hk
    cases hk

/-- Replacing a record is refused when some index does not take the new version. No index refuses
to forget the old one. -/
theorem Ready.update_refused_iff (h : v.Ready) (hc : v.Consistent) {new : Document}
    (hold : v.record id = some old) (hnew : new.id = .ok (some id)) :
    (∃ i ∈ v.indexes, (v.setRecord id new).RefusesRemoval old i ∨
        (v.setRecord id new).RefusesWrite id new i) ↔ ¬ v.Accepts id new := by
  rw [h.accepts_iff hc hnew, not_forall]
  refine exists_congr fun i => ?_
  rw [Classical.not_imp]
  refine and_congr_right fun hi => ?_
  have hrest : (v.setRecord id new).atRest i = false := h.not_atRest hi
  have hstored : (id, old) ∈ v.records := hc.sorted.get?_eq_some_iff_mem.mp hold
  have hindexable : old.Indexable v.config.tokenizer i.descriptor :=
    (h.exact hc hi).indexable _ hstored
  rw [RefusesRemoval, RefusesWrite, hrest, if_neg Bool.false_ne_true]
  constructor
  · rintro (hnot | ⟨-, hnot⟩)
    · exact absurd hindexable hnot
    · exact hnot
  · exact fun hnot => Or.inr ⟨rfl, hnot⟩

end View

namespace Session

variable {σ : Type} {s : Session σ} {id : RecordId}

/-- An update that does not fail succeeds. -/
theorem update_succeeds_iff (id : RecordId) (d : Document) :
    (∃ s', (Collection.update Listener.silent id d).perform s = (.ok (), s')) ↔
      ¬ ∃ e s', (Collection.update Listener.silent id d).perform s = (.error e, s') := by
  rcases (Collection.update Listener.silent id d).perform s with ⟨e | _, s'⟩ <;> simp

/-- While every index is ready, documents are inserted exactly if they name an id or get one, no
record has that id, and the indexes accept them, and records are updated exactly if they are
there and the indexes accept the new version. -/
theorem accepted_iff (h : s.Sound) (hp : s.view.Plain) (hc : s.view.Consistent)
    (hready : s.view.Ready) (d : Document) (id : RecordId) :
    ((∃ s', (Collection.insert Listener.silent d).perform s = (.ok id, s')) ↔
        ∃ doc, s.assigned d = .ok (id, doc) ∧ s.view.record id = none ∧ s.view.Accepts id doc) ∧
      ((∃ s', (Collection.update Listener.silent id d).perform s = (.ok (), s')) ↔
        (∃ old, s.view.record id = some old) ∧ s.view.Accepts id (d.setId id)) := by
  constructor
  · rcases insert_spec h hp.processors d with
      ⟨⟨e, s', hs', -⟩, htaken⟩ | ⟨id', doc, hassigned, hnew, s', hs', -⟩
    · rw [hs']
      refine iff_of_false (by simp) ?_
      rintro ⟨doc, hassigned, hnone, -⟩
      obtain ⟨old, hold⟩ := htaken id doc hassigned
      rw [hnone] at hold
      cases hold
    · rw [hs', hassigned]
      -- the record is written whatever comes, so the indexes decide
      have hok := hready.insert_ok_iff hc hp.extractor (id_of_assigned hassigned)
      rw [← hready.accepts_iff hc (id_of_assigned hassigned)] at hok
      constructor
      · rintro ⟨s'', hdone⟩
        obtain ⟨_, hinsert, rfl⟩ := Result.map_eq_ok_iff.mp (Prod.mk.inj hdone).1
        exact ⟨doc, rfl, hnew, hok.mp hinsert⟩
      · rintro ⟨doc', heq, -, haccepts⟩
        cases heq
        rw [hok.mpr haccepts]
        exact ⟨s', rfl⟩
  · rw [update_succeeds_iff, update_fails_iff h hp hc d]
    cases hrecord : s.view.record id with
    | none => simp
    | some old =>
      have hrefused := hready.update_refused_iff hc hrecord (d.id_setId id)
      simp only [Option.some.injEq, forall_eq', exists_eq', true_and]
      rw [hrefused, not_not]

/-- With a unique index on `a`, a document whose array has the value of record 2 is not inserted,
and record 1 can be updated to an array that has its own value, but not to that of record 2. -/
theorem accepted_iff_rival_records :
    ∃ s : Session Unit, s.Sound ∧ s.view.Plain ∧ s.view.Consistent ∧ s.view.Ready ∧
      (∃ s', (Collection.insert Listener.silent
        ⟨[("_id", .string "3"), ("a", .array [.null, .string "x"])]⟩).perform s = (.ok ⟨3⟩, s')) ∧
      (¬ ∃ s', (Collection.insert Listener.silent
        ⟨[("_id", .string "3"), ("a", .array [.null, .bool true])]⟩).perform s = (.ok ⟨3⟩, s')) ∧
      (∃ s', (Collection.update Listener.silent ⟨1⟩
        ⟨[("a", .array [.bool false, .null])]⟩).perform s = (.ok (), s')) ∧
      ¬ ∃ s', (Collection.update Listener.silent ⟨1⟩ ⟨[("a", .bool true)]⟩).perform s
        = (.ok (), s') := by
  let v : View := .firstBuilt rivalRecords ⟨.unique, ⟨["a"]⟩, "c"⟩ []
  obtain ⟨s, h, hp, hc, hview⟩ : ∃ s : Session Unit, s.Sound ∧ s.view.Plain ∧ s.view.Consistent ∧
      s.view = v :=
    exists_first_built (by decide) rivalRecords_own (by simp)
  have hready : s.view.Ready := by
    rw [hview]
    exact ⟨by decide +kernel, rfl⟩
  have haccepted := accepted_iff h hp hc hready
  have hfree : s.view.record ⟨3⟩ = none := by
    rw [hview]
    rfl
  have hthere : s.view.record ⟨1⟩ = some ⟨[("_id", .string "1"), ("a", .bool false)]⟩ := by
    rw [hview]
    rfl
  rw [hview] at haccepted hfree hthere
  -- new values, a value of another record, own values with a new one, a value of another record
  refine ⟨s, h, hp, hc, hready, ?_, ?_, ?_, ?_⟩
  · refine (haccepted _ _).1.mpr ⟨_, rfl, hfree, ?_⟩
    exact ⟨by decide +kernel, by decide +kernel⟩
  · intro hinserted
    obtain ⟨doc, hassigned, -, haccepts⟩ := (haccepted _ _).1.mp hinserted
    cases hassigned
    exact absurd haccepts.unclaimed (by decide +kernel)
  · refine (haccepted _ _).2.mpr ⟨⟨_, hthere⟩, ?_⟩
    exact ⟨by decide +kernel, by decide +kernel⟩
  · intro hupdated
    have haccepts := ((haccepted _ _).2.mp hupdated).2
    exact absurd haccepts.unclaimed (by decide +kernel)

end Session

end DocumentDb
