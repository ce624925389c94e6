import DocumentDb.Proofs.Operation
import DocumentDb.Proofs.Refusal

/-!
# `DocumentDb.Proofs.FailedWrites`: what a failed write leaves behind

A removal or an update that fails puts the record back, but not always the index entries.

* `lost_entries_iff`: where a clean index has lost entries of the record. A removal does not
  go back over the indexes that have forgotten the record before another one refuses to.
* `stale_entries_iff`: where an index that is clean in the end has entries that the stored
  version does not have. While an update runs the records hold the new version, so an index
  that is rebuilt in the first loop has the places of the new version, and only the second
  loop takes them away again.
-/

set_option autoImplicit false

namespace DocumentDb

namespace View

variable {v : View} {id : RecordId} {old new : Document} {i : IndexState}

/-! ### What is lost, and what is stale -/

/-- Whether a failed removal loses the entry of a document at a place of an index: the document
belongs there, and the index stands before the one that refused. -/
def RemovalLoses (v : View) (id : RecordId) (old : Document) (i : IndexState) (p : Place) : Prop :=
  ∃ before after, StopsAt ((v.eraseRecord id).RefusesRemoval old) v.indexes before after ∧
    i ∈ before ∧ old.BelongsAt v.config.tokenizer i.descriptor p

/-- Whether a failed update loses the entry of a record at a place of an index. -/
def UpdateLoses (v : View) (id : RecordId) (old new : Document) (i : IndexState) (p : Place) :
    Prop :=
  (∃ before after, StopsAt ((v.setRecord id new).RefusesRemoval old) v.indexes before after ∧
      i ∈ before ∧ old.BelongsAt v.config.tokenizer i.descriptor p) ∨
    (∀ j ∈ v.indexes, ¬ (v.setRecord id new).RefusesRemoval old j) ∧
      ∃ before after, StopsAt ((v.setRecord id new).RefusesWrite id new) v.indexes before after ∧
        (old.BelongsAt v.config.tokenizer i.descriptor p ∧
            (∃ j ∈ v.indexes, (v.setRecord id new).RefusesRestore id old j) ∨
          ¬ old.BelongsAt v.config.tokenizer i.descriptor p ∧
            i ∈ before ∧ new.BelongsAt v.config.tokenizer i.descriptor p)

/-- Whether a failed update leaves an entry of the new version at a place of an index: the index
was rebuilt in the first loop, and the second loop did not go back over it. -/
def UpdateLeaves (v : View) (id : RecordId) (old new : Document) (i : IndexState) (p : Place) :
    Prop :=
  v.atRest i = true ∧ v.config.rebuildDirtyOnWrite = true ∧
    new.BelongsAt v.config.tokenizer i.descriptor p ∧
    ¬ old.BelongsAt v.config.tokenizer i.descriptor p ∧
    ((∃ before after,
        StopsAt ((v.setRecord id new).RefusesRemoval old) v.indexes before after ∧ i ∈ before) ∨
      (∀ j ∈ v.indexes, ¬ (v.setRecord id new).RefusesRemoval old j) ∧
        ∃ before after,
          StopsAt ((v.setRecord id new).RefusesWrite id new) v.indexes before after ∧ i ∉ before)

/-- The second view lacks the entries of an id that the predicate tells, of those that the clean
indexes of the first view have, and no others. -/
def Loses (v v' : View) (id : RecordId) (loses : IndexState → Place → Prop) : Prop :=
  ∀ i ∈ v.indexes, i.dirty = false → ∀ i' ∈ v'.indexes, i'.descriptor = i.descriptor →
    ∀ p, id ∈ i.content.idsAt p → (id ∉ i'.content.idsAt p ↔ loses i p)

section stopped

variable {p : Place} {before after : List IndexState}

/-! A loop stops at one index, so what is said of the indexes before some stop is said of those
before this one. -/

/-- What a removal that has been stopped loses, in terms of where it was stopped. -/
theorem removalLoses_iff
    (hstops : StopsAt ((v.eraseRecord id).RefusesRemoval old) v.indexes before after) :
    v.RemovalLoses id old i p ↔ i ∈ before ∧ old.BelongsAt v.config.tokenizer i.descriptor p :=
  hstops.exists_before_iff

/-- What an update loses that has been stopped in its first loop. -/
theorem updateLoses_iff_of_removal
    (hstops : StopsAt ((v.setRecord id new).RefusesRemoval old) v.indexes before after) :
    v.UpdateLoses id old new i p ↔
      i ∈ before ∧ old.BelongsAt v.config.tokenizer i.descriptor p := by
  rw [UpdateLoses, hstops.exists_before_iff, or_iff_left]
  rintro ⟨hnone, -⟩
  exact hstops.not_forall_not hnone

/-- What an update loses that has been stopped in its second loop. -/
theorem updateLoses_iff_of_write
    (hnone : ∀ j ∈ v.indexes, ¬ (v.setRecord id new).RefusesRemoval old j)
    (hstops : StopsAt ((v.setRecord id new).RefusesWrite id new) v.indexes before after) :
    v.UpdateLoses id old new i p ↔
      old.BelongsAt v.config.tokenizer i.descriptor p ∧
          (∃ j ∈ v.indexes, (v.setRecord id new).RefusesRestore id old j) ∨
        ¬ old.BelongsAt v.config.tokenizer i.descriptor p ∧
          i ∈ before ∧ new.BelongsAt v.config.tokenizer i.descriptor p := by
  rw [UpdateLoses, hstops.exists_before_iff, or_iff_right, and_iff_right hnone]
  rintro ⟨_, _, hremoval, -⟩
  exact hremoval.not_forall_not hnone

/-- What an update leaves that has been stopped in its first loop. -/
theorem updateLeaves_iff_of_removal
    (hstops : StopsAt ((v.setRecord id new).RefusesRemoval old) v.indexes before after) :
    v.UpdateLeaves id old new i p ↔
      v.atRest i = true ∧ v.config.rebuildDirtyOnWrite = true ∧
        new.BelongsAt v.config.tokenizer i.descriptor p ∧
        ¬ old.BelongsAt v.config.tokenizer i.descriptor p ∧ i ∈ before := by
  rw [UpdateLeaves, hstops.exists_before_iff, or_iff_left]
  rintro ⟨hnone, -⟩
  exact hstops.not_forall_not hnone

/-- What an update leaves that has been stopped in its second loop. -/
theorem updateLeaves_iff_of_write
    (hnone : ∀ j ∈ v.indexes, ¬ (v.setRecord id new).RefusesRemoval old j)
    (hstops : StopsAt ((v.setRecord id new).RefusesWrite id new) v.indexes before after) :
    v.UpdateLeaves id old new i p ↔
      v.atRest i = true ∧ v.config.rebuildDirtyOnWrite = true ∧
        new.BelongsAt v.config.tokenizer i.descriptor p ∧
        ¬ old.BelongsAt v.config.tokenizer i.descriptor p ∧ i ∉ before := by
  rw [UpdateLeaves, hstops.exists_before_iff, or_iff_right, and_iff_right hnone]
  rintro ⟨_, _, hremoval, -⟩
  exact hremoval.not_forall_not hnone

end stopped

/-- A failed removal loses the entries that `RemovalLoses` tells. -/
theorem Consistent.remove_loses (h : v.Consistent) (hplain : v.config.customExtractor = none)
    (hrecord : v.record id = some old) {e : Error} (herror : (v.remove id old).1 = .error e) :
    v.Loses (v.remove id old).2 id (v.RemovalLoses id old) := by
  rcases h.remove_cases hplain hrecord with
    ⟨-, hok⟩ | ⟨before, after, e', next, hstops, hrun, hhalted⟩
  · rw [hok] at herror
    cases herror
  rw [hrun]
  intro i hi hclean i' hi' hd p hmem
  obtain rfl := h.eq_of_mem_map (fun j hj => (hhalted j hj).descriptor_eq) hi hi' hd
  rw [(hhalted i hi).mem_iff (atRest_of_clean hclean), removalLoses_iff hstops]
  exact ⟨fun hnot => not_not.mp fun hlost => hnot ⟨hmem, hlost⟩, fun hlost hnot => hnot.2 hlost⟩

/-- A failed update loses the entries that `UpdateLoses` tells. -/
theorem Consistent.update_loses (h : v.Consistent) (hplain : v.config.customExtractor = none)
    (hrecord : v.record id = some old) (hnew : new.id = .ok (some id)) {e : Error}
    (herror : (v.update id old new).1 = .error e) :
    v.Loses (v.update id old new).2 id (v.UpdateLoses id old new) := by
  rcases h.update_cases hplain hrecord hnew with ⟨-, hok⟩ |
    ⟨before, after, e', next, hstops, hrun, hhalted⟩ |
    ⟨hnone, before, after, e', next, hstops, hrun, hundone⟩
  · rw [hok] at herror
    cases herror
  · rw [hrun]
    intro i hi hclean i' hi' hd p hmem
    obtain rfl := h.eq_of_mem_map (fun j hj => (hhalted j hj).descriptor_eq) hi hi' hd
    rw [(hhalted i hi).mem_iff (atRest_of_clean hclean), updateLoses_iff_of_removal hstops]
    exact ⟨fun hnot => not_not.mp fun hlost => hnot ⟨hmem, hlost⟩, fun hlost hnot => hnot.2 hlost⟩
  · rw [hrun]
    intro i hi hclean i' hi' hd p hmem
    obtain rfl := h.eq_of_mem_map (fun j hj => (hundone j hj).descriptor_eq) hi hi' hd
    have hmem' := (hundone i hi).mem_iff (atRest_of_clean hclean) p
    rw [setRecord_config] at hmem'
    rw [hmem', updateLoses_iff_of_write hnone hstops]
    -- Entries of the old version are all back or all lost, others are lost before the stop.
    by_cases hp : old.BelongsAt v.config.tokenizer i.descriptor p
    · simp [hp]
    · simp [hp, hmem]

/-- The entries of an id that the clean indexes of a view have where a document does not belong
are those that the predicate tells. -/
def Leaves (v v' : View) (id : RecordId) (stored : Option Document)
    (leaves : IndexState → Place → Prop) : Prop :=
  ∀ i ∈ v.indexes, ∀ i' ∈ v'.indexes, i'.descriptor = i.descriptor → i'.dirty = false →
    ∀ p, (id ∈ i'.content.idsAt p ∧
        ¬ ∃ doc, stored = some doc ∧ doc.BelongsAt v.config.tokenizer i.descriptor p) ↔
      leaves i p

/-- While no build is running, an index that is not at rest is exact. -/
theorem Consistent.exact_of_rest (h : v.Consistent) (hheld : v.held = []) (hi : i ∈ v.indexes)
    (hrest : v.atRest i = false) : i.Exact v.config v.records := by
  refine (h.keeps i hi).exact ?_
  have hbuilding : v.isBuilding i.descriptor.fields = false := by
    rw [isBuilding, hheld]
    rfl
  rw [atRest, hbuilding] at hrest
  rw [trusts, hbuilding]
  simpa using hrest

/-- Without the indexes at rest, the stored version is all there is to find. -/
theorem Consistent.belongsAt_of_mem (h : v.Consistent) (hheld : v.held = [])
    (hrecord : v.record id = some old) (hi : i ∈ v.indexes) (hrest : v.atRest i = false)
    {p : Place} (hmem : id ∈ i.content.idsAt p) :
    old.BelongsAt v.config.tokenizer i.descriptor p :=
  ((h.extends_self hrecord).self_mem_iff (apart_eraseRecord h.sorted id)
    (h.exact_of_rest hheld hi hrest) p).mp hmem

/-- What an update that was stopped in the first loop leaves in an index. -/
theorem Consistent.halted_leaves (h : v.Consistent) (hheld : v.held = [])
    (hrecord : v.record id = some old) (hnew : new.id = .ok (some id)) {before : Prop}
    {i' : IndexState} (hi : i ∈ v.indexes)
    (hhalted : (v.setRecord id new).Halted id old before i i') (hclean : i'.dirty = false)
    (p : Place) :
    (id ∈ i'.content.idsAt p ∧ ¬ old.BelongsAt v.config.tokenizer i.descriptor p) ↔
      v.atRest i = true ∧ v.config.rebuildDirtyOnWrite = true ∧
        new.BelongsAt v.config.tokenizer i.descriptor p ∧
        ¬ old.BelongsAt v.config.tokenizer i.descriptor p ∧ before := by
  cases hrest : v.atRest i with
  | false =>
    refine iff_of_false ?_ (by simp)
    rintro ⟨hmem, hnot⟩
    exact hnot (h.belongsAt_of_mem hheld hrecord hi hrest (((hhalted.mem_iff hrest p).mp hmem).1))
  | true =>
    -- An index at rest that the loop has not rebuilt would still be dirty.
    have hrebuilt : before ∧ v.config.rebuildDirtyOnWrite = true := by
      by_contra hnot
      rw [hhalted.dirty hrest hnot] at hclean
      cases hclean
    have hmem := (extends_setRecord h.sorted hnew).self_mem_iff (apart_eraseRecord h.sorted id)
      (hhalted.exact hrest hrebuilt.1 hrebuilt.2) p
    rw [hhalted.descriptor_eq, setRecord_config] at hmem
    rw [hmem]
    simp [hrebuilt.1, hrebuilt.2]

/-- What an update that was stopped in the second loop leaves in an index. -/
theorem Consistent.undone_leaves (h : v.Consistent) (hheld : v.held = [])
    (hrecord : v.record id = some old) {before restored : Prop} {i' : IndexState}
    (hi : i ∈ v.indexes) (hundone : (v.setRecord id new).Undone id old new before restored i i')
    (hclean : i'.dirty = false) (p : Place) :
    (id ∈ i'.content.idsAt p ∧ ¬ old.BelongsAt v.config.tokenizer i.descriptor p) ↔
      v.atRest i = true ∧ v.config.rebuildDirtyOnWrite = true ∧
        new.BelongsAt v.config.tokenizer i.descriptor p ∧
        ¬ old.BelongsAt v.config.tokenizer i.descriptor p ∧ ¬ before := by
  cases hrest : v.atRest i with
  | false =>
    refine iff_of_false ?_ (by simp)
    rintro ⟨hmem, hnot⟩
    rcases (hundone.mem_iff hrest p).mp hmem with ⟨hp, -⟩ | ⟨-, hmem, -⟩
    · exact hnot hp
    · exact hnot (h.belongsAt_of_mem hheld hrecord hi hrest hmem)
  | true =>
    cases hrebuild : v.config.rebuildDirtyOnWrite with
    | false =>
      rw [hundone.passed hrest hrebuild, dirty_of_atRest hrest] at hclean
      cases hclean
    | true =>
      have hmem := and_congr_left (hundone.rebuilt hrest hrebuild p)
      rw [setRecord_config] at hmem
      rw [hmem]
      tauto

/-- A failed update leaves the entries that `UpdateLeaves` tells. -/
theorem Consistent.update_leaves (h : v.Consistent) (hplain : v.config.customExtractor = none)
    (hheld : v.held = []) (hrecord : v.record id = some old) (hnew : new.id = .ok (some id))
    {e : Error} (herror : (v.update id old new).1 = .error e) :
    v.Leaves (v.update id old new).2 id (some old) (v.UpdateLeaves id old new) := by
  intro i hi i' hi' hd hclean p
  simp only [Option.some.injEq, exists_eq_left']
  rcases h.update_cases hplain hrecord hnew with ⟨-, hok⟩ |
    ⟨before, after, e', next, hstops, hrun, hhalted⟩ |
    ⟨hnone, before, after, e', next, hstops, hrun, hundone⟩
  · rw [hok] at herror
    cases herror
  · rw [hrun] at hi'
    obtain rfl := h.eq_of_mem_map (fun j hj => (hhalted j hj).descriptor_eq) hi hi' hd
    rw [updateLeaves_iff_of_removal hstops]
    exact h.halted_leaves hheld hrecord hnew hi (hhalted i hi) hclean p
  · rw [hrun] at hi'
    obtain rfl := h.eq_of_mem_map (fun j hj => (hundone j hj).descriptor_eq) hi hi' hd
    rw [updateLeaves_iff_of_write hnone hstops]
    exact h.undone_leaves hheld hrecord hi (hundone i hi) hclean p

end View

/-! ### Sessions -/

section sessions

variable {σ : Type} {s s' : Session σ} {id : RecordId}

open Session (does_remove_there does_remove_missing does_update does_update_missing)

/-- A removal fails exactly if the record is there and an index refuses to forget it. -/
theorem remove_fails_iff (h : s.Sound) (hp : s.view.Plain) (hc : s.view.Consistent) :
    (∃ e s', (Collection.remove Listener.silent id).perform s = (.error e, s')) ↔
      ∃ old, s.view.record id = some old ∧
        ∃ i ∈ s.view.indexes, (s.view.eraseRecord id).RefusesRemoval old i := by
  cases hrecord : s.view.record id with
  | none =>
    obtain ⟨s₁, hs₁, -⟩ := does_remove_missing h hrecord
    rw [hs₁]
    simp
  | some old =>
    obtain ⟨s₁, hs₁, -⟩ := does_remove_there h hp.processors hrecord
    rw [hs₁]
    rcases hc.remove_cases hp.extractor hrecord with
      ⟨hnone, hok⟩ | ⟨before, after, e, next, hstops, hrun, -⟩
    · rw [hok]
      simp only [Option.some.injEq, exists_eq_left']
      refine iff_of_false (by simp [Except.map]) ?_
      rintro ⟨i, hi, hrefuses⟩
      exact hnone i hi hrefuses
    · rw [hrun]
      refine iff_of_true ⟨e, s₁, rfl⟩ ⟨old, rfl, hstops.exists_refuses⟩

/-- An update fails exactly if the record is missing, or an index refuses to forget it or to take
the new version. -/
theorem update_fails_iff (h : s.Sound) (hp : s.view.Plain) (hc : s.view.Consistent)
    (d : Document) :
    (∃ e s', (Collection.update Listener.silent id d).perform s = (.error e, s')) ↔
      ∀ old, s.view.record id = some old → ∃ i ∈ s.view.indexes,
        (s.view.setRecord id (d.setId id)).RefusesRemoval old i ∨
          (s.view.setRecord id (d.setId id)).RefusesWrite id (d.setId id) i := by
  cases hrecord : s.view.record id with
  | none =>
    -- updating a record that is not there fails
    obtain ⟨s₁, hs₁, -⟩ := does_update_missing h hrecord d
    rw [hs₁]
    simp
  | some old =>
    obtain ⟨s₁, hs₁, -⟩ := does_update h hp.processors hrecord d
    rw [hs₁]
    simp only [Option.some.injEq, forall_eq']
    rcases hc.update_cases hp.extractor hrecord (d.id_setId id) with ⟨hnone, hok⟩ |
      ⟨before, after, e, next, hstops, hrun, -⟩ | ⟨-, before, after, e, next, hstops, hrun, -⟩
    · rw [hok]
      refine iff_of_false (by simp) ?_
      rintro ⟨i, hi, hrefuses⟩
      exact hrefuses.elim (hnone i hi).1 (hnone i hi).2
    · rw [hrun]
      obtain ⟨k, hk, hrefuses⟩ := hstops.exists_refuses
      exact iff_of_true ⟨e, s₁, rfl⟩ ⟨k, hk, Or.inl hrefuses⟩
    · rw [hrun]
      obtain ⟨k, hk, hrefuses⟩ := hstops.exists_refuses
      exact iff_of_true ⟨e, s₁, rfl⟩ ⟨k, hk, Or.inr hrefuses⟩

end sessions

/-- A view of some records and some indexes, of which the first has been built. -/
def View.firstBuilt (records : List (RecordId × Document)) (d : IndexDescriptor)
    (ds : List IndexDescriptor) : View :=
  ⟨"c", {}, [], ⟨0⟩, [], records,
    ((IndexState.fill {} (records.map (·.2)) true).perform ⟨d, true, .empty d⟩).2 ::
      ds.map fun d => ⟨d, true, .empty d⟩⟩

/-- There are collections that show it. -/
theorem Session.exists_first_built {records : List (RecordId × Document)}
    (hsorted : SortedEntries.Sorted records) (hown : ∀ e ∈ records, e.2.id = .ok (some e.1))
    {d : IndexDescriptor} {ds : List IndexDescriptor}
    (hds : (d :: ds).Pairwise fun d d' => compare d'.fields d.fields = .gt) :
    ∃ s : Session Unit, s.Sound ∧ s.view.Plain ∧ s.view.Consistent ∧
      s.view = .firstBuilt records d ds := by
  obtain ⟨s, hsound, hview⟩ := exists_unbuilt "c" {} (d :: ds) (by decide) rfl hsorted hds
  have hne : ∀ d' ∈ ds, d'.fields ≠ d.fields := by
    intro d' hd' heq
    have hgt := (List.pairwise_cons.mp hds).1 d' hd'
    rw [heq, Std.ReflOrd.compare_self] at hgt
    cases hgt
  have hc : s.view.Consistent := by
    have hdistinct := hsound.nodup_fields
    rw [hview] at hdistinct ⊢
    exact {
      sorted := hsorted
      distinct := hdistinct
      own := hown
      keeps := by
        intro i hi
        obtain ⟨d, -, rfl⟩ := List.mem_map.mp hi
        exact View.keeps_of_dirty (Content.wellFormed_empty d) rfl }
  have hi : ⟨d, true, .empty d⟩ ∈ s.view.indexes := by simp [hview]
  -- All indexes are there and empty. Now the first one is built.
  obtain ⟨s₁, -, hreach⟩ := does_tryBuild hsound hi (by rw [hview]; rfl) true
  have hc₁ := hc.rebuild (by rw [hview]) hi
  have hput : s.view.put ((IndexState.fill s.view.config s.view.documents true).perform
      ⟨d, true, .empty d⟩).2 = .firstBuilt records d ds := by
    rw [hview]
    simp only [View.put, View.documents, View.firstBuilt, List.map_cons, List.map_map,
      IndexState.fill_descriptor, if_true]
    congr 2
    exact List.map_congr_left fun d' hd' => if_neg (hne d' hd')
  rw [← hreach.view] at hput
  refine ⟨s₁, hreach.sound, ?_, ?_, hput⟩
  · rw [hput]
    exact ⟨rfl, rfl⟩
  · rw [hreach.view]
    exact hc₁

/-- A view of some records and two indexes, of which the first has been built and the second has
not. -/
def View.halfBuilt (records : List (RecordId × Document)) (d₁ d₂ : IndexDescriptor) : View :=
  ⟨"c", {}, [], ⟨0⟩, [], records,
    [((IndexState.fill {} (records.map (·.2)) true).perform ⟨d₁, true, .empty d₁⟩).2,
      ⟨d₂, true, .empty d₂⟩]⟩

/-- Some session that can be reached shows the first of two indexes built and the second not. -/
theorem Session.exists_half_built {records : List (RecordId × Document)}
    (hsorted : SortedEntries.Sorted records) (hown : ∀ e ∈ records, e.2.id = .ok (some e.1))
    {d₁ d₂ : IndexDescriptor} (hd : compare d₂.fields d₁.fields = .gt) :
    ∃ s : Session Unit, s.Sound ∧ s.view.Plain ∧ s.view.Consistent ∧
      s.view = .halfBuilt records d₁ d₂ := by
  have hds : [d₁, d₂].Pairwise fun d d' => compare d'.fields d.fields = .gt := by simpa using hd
  exact exists_first_built hsorted hown hds

/-- Which entries of a record the clean indexes lose when a removal or an update of it fails.
A removal loses the entries in all indexes before the one that refused. An update loses these
if it is stopped at the same point. Later on it loses the entries of the old version if some
index does not take it again, and those that an index being built has where only the new
version belongs, if that index stands before the one that refused the new version. -/
theorem lost_entries_iff {σ : Type} {s s' : Session σ} (h : s.Sound) (hp : s.view.Plain)
    (hc : s.view.Consistent) (id : RecordId) {e : Error} :
    ((Collection.remove Listener.silent id).perform s = (.error e, s') →
        s.view.Loses s'.view id fun i p =>
          ∃ old, s.view.record id = some old ∧ s.view.RemovalLoses id old i p) ∧
      ∀ d, (Collection.update Listener.silent id d).perform s = (.error e, s') →
        s.view.Loses s'.view id fun i p =>
          ∃ old, s.view.record id = some old ∧ s.view.UpdateLoses id old (d.setId id) i p := by
  cases hrecord : s.view.record id with
  | none =>
    refine ⟨fun hrun => ?_, fun d hrun => ?_⟩
    · -- removing a record that is not there succeeds
      obtain ⟨s₁, hs₁, -⟩ := Session.does_remove_missing h hrecord
      rw [hs₁] at hrun
      cases hrun
    · obtain ⟨s₁, hs₁, hreach⟩ := Session.does_update_missing h hrecord d
      obtain ⟨-, rfl⟩ := Prod.mk.inj (hs₁.symm.trans hrun)
      intro i hi hclean i' hi' hd p hmem
      rw [hreach.view] at hi'
      obtain rfl := hc.eq_of_descriptor_eq hi hi' hd
      simpa using hmem
  | some old =>
    simp only [Option.some.injEq, exists_eq_left']
    refine ⟨fun hrun => ?_, fun d hrun => ?_⟩
    · obtain ⟨s₁, hs₁, hreach⟩ := Session.does_remove_there h hp.processors hrecord
      obtain ⟨herror, rfl⟩ := Prod.mk.inj (hs₁.symm.trans hrun)
      rw [hreach.view]
      rcases hfailed : (s.view.remove id old).1 with e' | _
      · exact hc.remove_loses hp.extractor hrecord hfailed
      · rw [hfailed] at herror
        cases herror
    · obtain ⟨s₁, hs₁, hreach⟩ := Session.does_update h hp.processors hrecord d
      obtain ⟨herror, rfl⟩ := Prod.mk.inj (hs₁.symm.trans hrun)
      rw [hreach.view]
      exact hc.update_loses hp.extractor hrecord (d.id_setId id) herror

/-- Three records that have nothing but their ids. -/
def bareRecords : List (RecordId × Document) :=
  [(⟨1⟩, ⟨[("_id", .string "1")]⟩), (⟨2⟩, ⟨[("_id", .string "2")]⟩),
    (⟨3⟩, ⟨[("_id", .string "3")]⟩)]

/-- Each record is stored under its own id. -/
theorem bareRecords_own : ∀ e ∈ bareRecords, e.2.id = .ok (some e.1) := by
  simp only [bareRecords, List.forall_mem_cons]
  exact ⟨rfl, rfl, rfl, List.forall_mem_nil _⟩

/-- A unique index on `b` cannot be built from these records, as all of them have null there.
So the third one cannot be removed, and the index on `a` has lost its entry afterwards. -/
theorem lost_entries_third_record :
    ∃ (s s' : Session Unit) (e : Error) (i i' : IndexState) (p : Place),
      s.Sound ∧ s.view.Plain ∧ s.view.Consistent ∧
        (Collection.remove Listener.silent ⟨3⟩).perform s = (.error e, s') ∧
        i ∈ s.view.indexes ∧ i' ∈ s'.view.indexes ∧ i'.descriptor = i.descriptor ∧
        i.dirty = false ∧ i'.dirty = false ∧ ⟨3⟩ ∈ i.content.idsAt p ∧
        ⟨3⟩ ∉ i'.content.idsAt p ∧
        ∃ old, s.view.record ⟨3⟩ = some old ∧ s.view.RemovalLoses ⟨3⟩ old i p := by
  let a : IndexDescriptor := ⟨.nonUnique, ⟨["a"]⟩, "c"⟩
  let old : Document := ⟨[("_id", .string "3")]⟩
  let p : Place := .path [⟨.null, rfl⟩]
  let v : View := .halfBuilt bareRecords a ⟨.unique, ⟨["b"]⟩, "c"⟩
  obtain ⟨s, h, hp, hc, hview⟩ : ∃ s : Session Unit, s.Sound ∧ s.view.Plain ∧ s.view.Consistent ∧
      s.view = v :=
    Session.exists_half_built (by decide) bareRecords_own (by decide)
  have hold : s.view.record ⟨3⟩ = some old := by
    rw [hview]
    rfl
  obtain ⟨s', hs', hreach⟩ := Session.does_remove_there h hp.processors hold
  rw [hview] at hs' hreach
  have hbefore : ∃ i ∈ v.indexes, i.descriptor = a ∧ i.dirty = false ∧
      ⟨3⟩ ∈ i.content.idsAt p := by decide +kernel
  have hafter : ∃ i' ∈ (v.remove ⟨3⟩ old).2.indexes, i'.descriptor = a ∧
      i'.dirty = false ∧ ⟨3⟩ ∉ i'.content.idsAt p := by decide +kernel
  -- the index on `b` would have to be rebuilt before it forgets the record, and cannot be
  obtain ⟨e, herror⟩ := Result.toOption_eq_none_iff.mp
    (show (v.remove ⟨3⟩ old).1.toOption = none by decide +kernel)
  rw [herror] at hs'
  obtain ⟨i, hi, hd, hclean, hmem⟩ := hbefore
  obtain ⟨i', hi', hd', hclean', hlost⟩ := hafter
  rw [← hview] at hi
  rw [← hreach.view] at hi'
  have hd'' : i'.descriptor = i.descriptor := hd'.trans hd.symm
  have hloses := (lost_entries_iff h hp hc ⟨3⟩).1 hs' i hi hclean i' hi' hd'' p hmem
  exact ⟨s, s', e, i, i', p, h, hp, hc, hs', hi, hi', hd'', hclean, hclean', hmem, hlost,
    hloses.mp hlost⟩

/-- Which entries a failed update leaves in the indexes that are clean in the end, among those
that the version stored in the end does not have. There are none unless an index at rest was
rebuilt while the records held the new version. These are left if the update was stopped in
the first loop after that, or in the second loop before it came to the index. -/
theorem stale_entries_iff {σ : Type} {s s' : Session σ} (h : s.Sound) (hp : s.view.Plain)
    (hc : s.view.Consistent) (hheld : s.view.held = []) (id : RecordId) (d : Document) {e : Error}
    (hrun : (Collection.update Listener.silent id d).perform s = (.error e, s')) :
    s'.view.record id = s.view.record id ∧
      s.view.Leaves s'.view id (s.view.record id) fun i p =>
        ∃ old, s.view.record id = some old ∧ s.view.UpdateLeaves id old (d.setId id) i p := by
  cases hrecord : s.view.record id with
  | none =>
    obtain ⟨s₁, hs₁, hreach⟩ := Session.does_update_missing h hrecord d
    obtain ⟨-, rfl⟩ := Prod.mk.inj (hs₁.symm.trans hrun)
    rw [hreach.view]
    refine ⟨hrecord, fun i hi i' hi' hd hclean p => iff_of_false ?_ (by simp)⟩
    obtain rfl := hc.eq_of_descriptor_eq hi hi' hd
    rintro ⟨hmem, -⟩
    -- An exact index has no entries of a record that is not there.
    have hexact := hc.exact_of_rest hheld hi (View.atRest_of_clean hclean)
    obtain ⟨entry, hentry, rfl, -⟩ := (hexact.mem_iff p id).mp hmem
    have hthere : s.view.record entry.1 = some entry.2 :=
      hc.sorted.get?_eq_some_iff_mem.mpr hentry
    rw [hrecord] at hthere
    cases hthere
  | some old =>
    obtain ⟨s₁, hs₁, hreach⟩ := Session.does_update h hp.processors hrecord d
    obtain ⟨herror, rfl⟩ := Prod.mk.inj (hs₁.symm.trans hrun)
    have hback : (s.view.update id old (d.setId id)).2.record id = some old := by
      unfold View.update at herror ⊢
      rcases hloop : (s.view.setRecord id (d.setId id)).replaceEach old (d.setId id) s.view.indexes
        with ⟨_ | _, is⟩
      · exact hrecord
      · rw [hloop] at herror
        cases herror
    rw [hreach.view]
    refine ⟨hback, ?_⟩
    simp only [Option.some.injEq, exists_eq_left']
    exact hc.update_leaves hp.extractor hheld hrecord (d.id_setId id) herror

/-- A record that takes the place of the second one in the unique index on `a`. -/
def rivalRecords : List (RecordId × Document) :=
  [(⟨1⟩, ⟨[("_id", .string "1"), ("a", .bool false)]⟩),
    (⟨2⟩, ⟨[("_id", .string "2"), ("a", .bool true)]⟩)]

/-- Each record is stored under its own id. -/
theorem rivalRecords_own : ∀ e ∈ rivalRecords, e.2.id = .ok (some e.1) := by
  simp only [rivalRecords, List.forall_mem_cons]
  exact ⟨rfl, rfl, List.forall_mem_nil _⟩

/-- The first of these records cannot be updated to have the same `a` as the second, but the
index on `b`, which was rebuilt meanwhile, has the value that it was to get there. -/
theorem stale_entries_rival_record :
    ∃ (s s' : Session Unit) (e : Error) (i i' : IndexState) (p : Place) (d : Document),
      s.Sound ∧ s.view.Plain ∧ s.view.Consistent ∧ s.view.held = [] ∧
        (Collection.update Listener.silent ⟨1⟩ d).perform s = (.error e, s') ∧
        i ∈ s.view.indexes ∧ i' ∈ s'.view.indexes ∧ i'.descriptor = i.descriptor ∧
        i'.dirty = false ∧ ⟨1⟩ ∈ i'.content.idsAt p ∧
        ∃ old, s.view.record ⟨1⟩ = some old ∧ s'.view.record ⟨1⟩ = some old ∧
          ¬ old.BelongsAt s.view.config.tokenizer i.descriptor p ∧
          s.view.UpdateLeaves ⟨1⟩ old (d.setId ⟨1⟩) i p := by
  let b : IndexDescriptor := ⟨.nonUnique, ⟨["b"]⟩, "c"⟩
  let old : Document := ⟨[("_id", .string "1"), ("a", .bool false)]⟩
  let d : Document := ⟨[("a", .bool true), ("b", .bool true)]⟩
  let p : Place := .path [⟨.bool true, rfl⟩]
  let v : View := .halfBuilt rivalRecords ⟨.unique, ⟨["a"]⟩, "c"⟩ b
  obtain ⟨s, h, hp, hc, hview⟩ : ∃ s : Session Unit, s.Sound ∧ s.view.Plain ∧ s.view.Consistent ∧
      s.view = v :=
    Session.exists_half_built (by decide) rivalRecords_own (by decide)
  have hold : s.view.record ⟨1⟩ = some old := by
    rw [hview]
    rfl
  have hheld : s.view.held = [] := by
    rw [hview]
    rfl
  obtain ⟨s', hs', hreach⟩ := Session.does_update h hp.processors hold d
  rw [hview] at hs' hreach
  have hbefore : ∃ i ∈ v.indexes, i.descriptor = b := by decide +kernel
  have hafter : ∃ i' ∈ (v.update ⟨1⟩ old (d.setId ⟨1⟩)).2.indexes, i'.descriptor = b ∧
      i'.dirty = false ∧ ⟨1⟩ ∈ i'.content.idsAt p := by decide +kernel
  -- the index on `a` refuses the new version, after the one on `b` has been rebuilt with it
  obtain ⟨e, herror⟩ := Result.toOption_eq_none_iff.mp
    (show (v.update ⟨1⟩ old (d.setId ⟨1⟩)).1.toOption = none by decide +kernel)
  rw [herror] at hs'
  have hnot : ¬ old.BelongsAt v.config.tokenizer b p := by
    rintro ⟨ps, hps, hp⟩
    have hplaces : old.placesIn v.config.tokenizer b = .ok [.path [⟨.null, rfl⟩]] := rfl
    rw [hplaces] at hps
    obtain rfl := Except.ok.inj hps
    revert hp
    decide
  obtain ⟨i, hi, hd⟩ := hbefore
  obtain ⟨i', hi', hd', hclean', hmem⟩ := hafter
  rw [← hview] at hi
  rw [← hreach.view] at hi'
  have hd'' : i'.descriptor = i.descriptor := hd'.trans hd.symm
  obtain ⟨hback, hleaves⟩ := stale_entries_iff h hp hc hheld ⟨1⟩ d hs'
  have hstale : ¬ old.BelongsAt s.view.config.tokenizer i.descriptor p := by
    rw [hview, hd]
    exact hnot
  obtain ⟨old', hold', hleft⟩ := (hleaves i hi i' hi' hd'' hclean' p).mp
    ⟨hmem, fun ⟨doc, hdoc, hbelongs⟩ =>
      hstale (Option.some.inj (hold.symm.trans hdoc) ▸ hbelongs)⟩
  obtain rfl := Option.some.inj (hold.symm.trans hold')
  exact ⟨s, s', e, i, i', p, d, h, hp, hc, hheld, hs', hi, hi', hd'', hclean', hmem, _, hold,
    hback.trans hold, hstale, hleft⟩

end DocumentDb
