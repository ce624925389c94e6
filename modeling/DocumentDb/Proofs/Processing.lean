import DocumentDb.Proofs.FailedWrites

/-!
# `DocumentDb.Proofs.Processing`: failed writes of collections with processors

A processor may refuse a document before it is written or after it is read. Inserts and updates ask
the processors before they change anything. A removal asks them at its very end, for the document
that it gives back, when the record and its index entries are gone, and does not put them back.

`failed_write_keeps_records_iff`: the records survive every insert and update that fails, and a
removal that fails takes its record with it exactly if the indexes have forgotten the record and a
processor then refuses to read it.
-/

set_option autoImplicit false

namespace DocumentDb

/-! ### Records of views -/

namespace View

variable {v : View} {id : RecordId} {old : Document}

/-- A removal that is not refused takes the record out, and no other. -/
theorem remove_records (v : View) (id : RecordId) (old : Document) :
    ((v.remove id old).1 = .ok () ∧ (v.remove id old).2.records = (v.eraseRecord id).records) ∨
      ∃ e, (v.remove id old).1 = .error e ∧ (v.remove id old).2.records = v.records := by
  unfold View.remove
  rcases (v.eraseRecord id).forgetEach old v.indexes with ⟨e | _, is⟩
  · exact Or.inr ⟨e, rfl, rfl⟩
  · exact Or.inl ⟨rfl, rfl⟩

/-- Clean indexes forget a record if they can make entries of its document. -/
theorem Consistent.remove_eq_ok_iff (h : v.Consistent) (hplain : v.config.customExtractor = none)
    (hclean : ∀ i ∈ v.indexes, i.dirty = false) (hrecord : v.record id = some old) :
    (v.remove id old).1 = .ok () ↔
      ∀ i ∈ v.indexes, old.Indexable v.config.tokenizer i.descriptor := by
  have hrefuses : ∀ i ∈ v.indexes, ¬ (v.eraseRecord id).RefusesRemoval old i ↔
      old.Indexable v.config.tokenizer i.descriptor := by
    intro i hi
    rw [RefusesRemoval, atRest_of_clean (hclean i hi), if_neg Bool.false_ne_true, not_not]
    rfl
  rcases h.remove_cases hplain hrecord with
    ⟨hnone, hok⟩ | ⟨before, after, e, next, hstops, hrun, -⟩
  · exact iff_of_true hok fun i hi => (hrefuses i hi).mp (hnone i hi)
  · obtain ⟨k, hk, hstop⟩ := hstops.exists_refuses
    rw [hrun]
    exact iff_of_false (by simp) fun hall => (hrefuses k hk).mpr (hall k hk) hstop

end View

/-! ### Failed writes -/

namespace Session

variable {σ : Type} {s s' : Session σ} {id : RecordId} {d : Document} {e : Error}

/-- A refused insert leaves the records of the session as they were. -/
theorem insert_keeps_records (h : s.Sound)
    (hrun : (Collection.insert Listener.silent d).perform s = (.error e, s')) :
    s'.view.records = s.view.records := by
  cases hwritten : Processor.writeAll s.view.processors d with
  | error e' =>
    obtain ⟨-, hreach⟩ := (does_insert_unwritten h hwritten).elim hrun
    rw [hreach.view]
  | ok w =>
    rcases insert_written h hwritten with ⟨⟨e', hrefused⟩, -⟩ | ⟨id, doc, -, -, hinsert⟩
    · obtain ⟨-, hreach⟩ := hrefused.elim hrun
      rw [hreach.view]
    · obtain ⟨herror, hreach⟩ := hinsert.elim hrun
      rw [hreach.view]
      exact View.insert_records_of_error (Result.map_eq_error_iff.mp herror.symm)

/-- A refused update leaves the records of the session as they were. -/
theorem update_keeps_records (h : s.Sound)
    (hrun : (Collection.update Listener.silent id d).perform s = (.error e, s')) :
    s'.view.records = s.view.records := by
  cases hrecord : s.view.record id with
  | none =>
    obtain ⟨-, hreach⟩ := (does_update_missing h hrecord d).elim hrun
    rw [hreach.view]
  | some old =>
    cases hwritten : Processor.writeAll s.view.processors d with
    | error e' =>
      obtain ⟨-, hreach⟩ := (does_update_unwritten h hwritten hrecord).elim hrun
      rw [hreach.view]
    | ok w =>
      obtain ⟨herror, hreach⟩ := (does_update_written h hwritten hrecord).elim hrun
      rw [hreach.view]
      exact View.update_records_of_error herror.symm

/-- A removal that fails: an index has refused it and the records are as they were, or all of it has
taken place and the document cannot be read. -/
theorem remove_fails (h : s.Sound)
    (hrun : (Collection.remove Listener.silent id).perform s = (.error e, s')) :
    s'.view.records = s.view.records ∨
      ∃ old, s.view.record id = some old ∧ (s.view.remove id old).1 = .ok () ∧
        Processor.readAll s.view.processors old = .error e ∧
        s'.view.records = (s.view.eraseRecord id).records := by
  cases hrecord : s.view.record id with
  | none =>
    obtain ⟨hok, -⟩ := (does_remove_missing h hrecord).elim hrun
    cases hok
  | some old =>
    obtain ⟨herror, hreach⟩ := (does_remove_read h hrecord).elim hrun
    rw [hreach.view]
    rcases s.view.remove_records id old with ⟨hok, hrecords⟩ | ⟨e', -, hrecords⟩
    · rw [hok] at herror
      exact Or.inr ⟨old, rfl, hok, Result.map_eq_error_iff.mp herror.symm, hrecords⟩
    · exact Or.inl hrecords

/-- A record that is there is not among the others. -/
theorem eraseRecord_records_ne (h : s.Sound) {old : Document}
    (hrecord : s.view.record id = some old) :
    (s.view.eraseRecord id).records ≠ s.view.records := by
  intro hsame
  have hmem : (id, old) ∈ s.view.records := h.recordsSorted.get?_eq_some_iff_mem.mp hrecord
  rw [← hsame] at hmem
  exact View.apart_eraseRecord h.recordsSorted id _ hmem rfl

end Session

/-- Writes that fail and the records. Inserts and updates leave them as they were, whatever the
processors do. Removals of an id do so exactly if the processors can read its document, or some
index refuses to forget it before they are asked. -/
theorem failed_write_keeps_records_iff {σ : Type} {s : Session σ} (h : s.Sound)
    (hextractor : s.view.config.customExtractor = none) (hc : s.view.Consistent)
    (hclean : ∀ i ∈ s.view.indexes, i.dirty = false) :
    (∀ d e s', (Collection.insert Listener.silent d).perform s = (.error e, s') →
        s'.view.records = s.view.records) ∧
      (∀ id d e s', (Collection.update Listener.silent id d).perform s = (.error e, s') →
        s'.view.records = s.view.records) ∧
      ∀ id, (∀ e s', (Collection.remove Listener.silent id).perform s = (.error e, s') →
          s'.view.records = s.view.records) ↔
        ∀ old, s.view.record id = some old →
          (∀ i ∈ s.view.indexes, old.Indexable s.view.config.tokenizer i.descriptor) →
            ∃ d, Processor.readAll s.view.processors old = .ok d := by
  refine ⟨fun d e s' => Session.insert_keeps_records h,
    fun id d e s' => Session.update_keeps_records h, fun id => ⟨fun hkeeps old hold hall => ?_, ?_⟩⟩
  · cases hread : Processor.readAll s.view.processors old with
    | ok d => exact ⟨d, rfl⟩
    | error e =>
      -- the removal has taken place by then
      have hok := (hc.remove_eq_ok_iff hextractor hclean hold).mpr hall
      obtain ⟨s', hs', hreach⟩ := Session.does_remove_read h hold
      rw [hok, hread] at hs'
      have hsame := hkeeps e s' hs'
      rw [hreach.view] at hsame
      rcases s.view.remove_records id old with ⟨-, hrecords⟩ | ⟨e', herror, -⟩
      · exact absurd (hrecords.symm.trans hsame) (Session.eraseRecord_records_ne h hold)
      · rw [hok] at herror
        cases herror
  · intro hreads e s' hrun
    rcases Session.remove_fails h hrun with hsame | ⟨old, hold, hok, hfails, -⟩
    · exact hsame
    · obtain ⟨d, hd⟩ := hreads old hold ((hc.remove_eq_ok_iff hextractor hclean hold).mp hok)
      rw [hd] at hfails
      cases hfails

/-- A processor that refuses to read the second of two records: its removal fails, and it is
gone. -/
theorem failed_write_keeps_records_iff_unreadable :
    ∃ s : Session Unit, s.Sound ∧ s.view.config.customExtractor = none ∧ s.view.Consistent ∧
      (∀ i ∈ s.view.indexes, i.dirty = false) ∧ s.view.processors.length = 1 ∧
        ∃ e s', (Collection.remove Listener.silent ⟨2⟩).perform s = (.error e, s') ∧
          s'.view.records ≠ s.view.records := by
  let old : Document := ⟨[("_id", .string "2"), ("a", .bool true)]⟩
  let a : IndexDescriptor := ⟨.unique, ⟨["a"]⟩, "c"⟩
  obtain ⟨s, h, hp, hc, hview⟩ : ∃ s : Session Unit, s.Sound ∧ s.view.Plain ∧ s.view.Consistent ∧
      s.view = .firstBuilt rivalRecords a [] :=
    Session.exists_first_built (by decide) rivalRecords_own (by decide)
  -- the same session with a processor
  let s₁ : Session Unit :=
    { s with collection := { s.collection with processors := [Processor.failRead "a"] } }
  have h₁ : s₁.Sound := { h with }
  have hview₁ : s₁.view = { s.view with processors := [Processor.failRead "a"] } := rfl
  have hc₁ : s₁.view.Consistent :=
    ⟨hc.sorted, hc.distinct, hc.own,
      fun i hi => ⟨(hc.keeps i hi).wellFormed, (hc.keeps i hi).exact⟩⟩
  have hclean : ∀ i ∈ s₁.view.indexes, i.dirty = false := by
    rw [hview₁, hview]
    decide +kernel
  have hold : s₁.view.record ⟨2⟩ = some old := by
    rw [hview₁, hview]
    rfl
  have hindexable : ∀ i ∈ s₁.view.indexes,
      old.Indexable s₁.view.config.tokenizer i.descriptor := by
    intro i hi
    rw [hview₁, hview] at hi
    obtain rfl : i = _ := List.mem_singleton.mp hi
    exact ⟨[.path [⟨.bool true, rfl⟩]], rfl⟩
  have hlost := (failed_write_keeps_records_iff h₁ hp.extractor hc₁ hclean).2.2 ⟨2⟩
  have hfails : ¬ ∀ e s', (Collection.remove Listener.silent ⟨2⟩).perform s₁ = (.error e, s') →
      s'.view.records = s₁.view.records := by
    intro hkeeps
    obtain ⟨d, hd⟩ := hlost.mp hkeeps old hold hindexable
    cases hd
  push Not at hfails
  exact ⟨s₁, h₁, hp.extractor, hc₁, hclean, rfl, hfails⟩

end DocumentDb
