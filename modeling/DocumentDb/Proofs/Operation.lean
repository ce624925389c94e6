import DocumentDb.Proofs.Dropping
import DocumentDb.Proofs.Opening
import DocumentDb.Proofs.Querying

/-!
# `DocumentDb.Proofs.Operation`: what every operation keeps up

`Session.Invariant` holds of a collection that has just been opened and is kept up by every
operation that reads or changes records and indexes, as `Operation.run_keeps` says. The
operations that replace or remove records keep it when they fail only if all indexes were
clean and at rest when they began.

The statements are about collections with the default extractor and without processors, and
about a listener that does nothing.
-/

set_option autoImplicit false

namespace DocumentDb

open SortedEntries (Sorted)

/-! ### Views in one setting -/

namespace View

variable {v w u : View} {i : IndexState}

/-- What no operation on records and indexes changes. -/
def setting (v : View) : View := { v with records := [], indexes := [] }

/-- Views in one setting have one configuration. -/
theorem config_eq_of_setting_eq (h : w.setting = v.setting) : w.config = v.config :=
  (congrArg config h :)

/-- They have one map of records. -/
theorem recordMap_eq_of_setting_eq (h : w.setting = v.setting) : w.recordMap = v.recordMap :=
  (congrArg recordMap h :)

/-- They have the same processors. -/
theorem processors_eq_of_setting_eq (h : w.setting = v.setting) :
    w.processors = v.processors :=
  (congrArg processors h :)

/-- The same flags are held in them. -/
theorem held_eq_of_setting_eq (h : w.setting = v.setting) : w.held = v.held :=
  (congrArg held h :)

/-- Rebuilding indexes leaves the setting as it is. -/
theorem Refreshes.setting_eq (h : v.Refreshes w) : w.setting = v.setting := by
  rw [h.eq_withIndexes]
  rfl

/-- While every index is to be relied on, there is nothing to rebuild. -/
theorem Refreshes.eq_of_trusts (h : v.Refreshes w)
    (htrusts : ∀ i ∈ v.indexes, v.trusts i = true) : w = v := by
  induction h with
  | refl => rfl
  | rebuilt h hi hrest ih =>
    subst ih
    rw [atRest_of_trusts (htrusts _ hi)] at hrest
    cases hrest

/-- Collections whose documents reach records and indexes as they are: nothing stands between, and
the entries are those of the default extractor. -/
structure Plain (v : View) : Prop where
  extractor : v.config.customExtractor = none
  processors : v.processors = []

/-- Being plain is a matter of the setting. -/
theorem Plain.of_setting (h : v.Plain) (hsame : w.setting = v.setting) : w.Plain :=
  ⟨config_eq_of_setting_eq hsame ▸ h.extractor, processors_eq_of_setting_eq hsame ▸ h.processors⟩

/-- Whether an operation that fails may leave indexes behind that disagree with the records:
some index is dirty or being built. -/
def Unsettled (v : View) : Prop := ∃ i ∈ v.indexes, v.trusts i = false

/-- If no index is unsettled, every index is to be relied on. -/
theorem trusts_of_not_unsettled (h : ¬ v.Unsettled) : ∀ i ∈ v.indexes, v.trusts i = true := by
  intro i hi
  cases htrusts : v.trusts i with
  | true => rfl
  | false => exact absurd ⟨i, hi, htrusts⟩ h

variable {id : RecordId} {doc old new : Document}

/-- An insertion leaves the setting as it is. -/
@[simp] theorem insert_setting (v : View) (id : RecordId) (doc : Document) :
    (v.insert id doc).2.setting = v.setting := by
  unfold insert
  rcases (v.setRecord id doc).writeEach doc v.indexes with ⟨_ | _, _⟩ <;> rfl

/-- So does an update, whether it succeeds or not. -/
@[simp] theorem update_setting (v : View) (id : RecordId) (old new : Document) :
    (v.update id old new).2.setting = v.setting := by
  unfold update
  rcases (v.setRecord id new).replaceEach old new v.indexes with ⟨_ | _, _⟩ <;> rfl

/-- So does a removal. -/
@[simp] theorem remove_setting (v : View) (id : RecordId) (old : Document) :
    (v.remove id old).2.setting = v.setting := by
  unfold remove
  rcases (v.eraseRecord id).forgetEach old v.indexes with ⟨_ | _, _⟩ <;> rfl

/-- A successful update has put the new version into the records. -/
theorem update_records {v : View} {id : RecordId} {old new : Document}
    (hok : (v.update id old new).1 = .ok ()) :
    (v.update id old new).2.records = (v.setRecord id new).records := by
  unfold update at hok ⊢
  rcases hrun : (v.setRecord id new).replaceEach old new v.indexes with ⟨_ | _, is⟩
  · rw [hrun] at hok
    cases hok
  · rfl

/-- A refused insert leaves the records as they were. -/
theorem insert_records_of_error {e : Error} (herror : (v.insert id doc).1 = .error e) :
    (v.insert id doc).2.records = v.records := by
  unfold insert at herror ⊢
  rcases hloop : (v.setRecord id doc).writeEach doc v.indexes with ⟨_ | _, is⟩
  · rfl
  · rw [hloop] at herror
    cases herror

/-- A refused update leaves the records as they were. -/
theorem update_records_of_error {e : Error} (herror : (v.update id old new).1 = .error e) :
    (v.update id old new).2.records = v.records := by
  unfold update at herror ⊢
  rcases hloop : (v.setRecord id new).replaceEach old new v.indexes with ⟨_ | _, is⟩
  · rfl
  · rw [hloop] at herror
    cases herror

/-- A removal leaves clean indexes clean. -/
theorem settled_remove (h : ¬ v.Unsettled) : ¬ (v.remove id old).2.Unsettled := by
  have hloop : ∀ i ∈ ((v.eraseRecord id).forgetEach old v.indexes).2, v.trusts i = true :=
    trusts_forgetEach (v := v.eraseRecord id) old (trusts_of_not_unsettled h)
  rintro ⟨i, hi, hnot⟩
  unfold remove at hi hnot
  rcases hrun : (v.eraseRecord id).forgetEach old v.indexes with ⟨_ | _, is⟩ <;>
    · rw [hrun] at hloop hi hnot
      have htrusts : v.trusts i = true := hloop i hi
      exact absurd (htrusts.symm.trans hnot) (by decide)

end View

namespace Session

variable {σ : Type} {s : Session σ}

/-! ### Writes -/

/-- Inserting a document keeps the view consistent, whatever comes of it. -/
theorem insert_keeps (h : s.Sound) (hp : s.view.Plain) (hc : s.view.Consistent) (d : Document) :
    ∃ r v, Does (Collection.insert Listener.silent d) s r v ∧
      v.setting = s.view.setting ∧ v.Consistent := by
  rcases insert_spec h hp.processors d with ⟨⟨e, hrefused⟩, -⟩ | ⟨id, doc, hassigned, hnew, hinsert⟩
  · exact ⟨_, _, hrefused, rfl, hc⟩
  · exact ⟨_, _, hinsert, View.insert_setting _ _ _,
      hc.insert hp.extractor (id_of_assigned hassigned) hnew⟩

/-- Inserting documents keeps it consistent, also when one of them is refused. -/
theorem insertMany_keeps (h : s.Sound) (hp : s.view.Plain) (hc : s.view.Consistent)
    (ds : List Document) :
    ∃ r v, Does (Collection.insertMany Listener.silent ds) s r v ∧
      v.setting = s.view.setting ∧ v.Consistent := by
  refine upholds_insertMany (I := fun v => v.setting = s.view.setting ∧ v.Consistent) ?_ ds s h
    ⟨rfl, hc⟩
  rintro d t ht ⟨hsame, hct⟩
  obtain ⟨r, v, hinsert, hsame', hv⟩ := insert_keeps ht (hp.of_setting hsame) hct d
  exact ⟨r, v, hinsert, hsame'.trans hsame, hv⟩

/-- Replacing a record keeps the view consistent if it succeeds, or if every index was to be relied
on. -/
theorem update_keeps (h : s.Sound) (hp : s.view.Plain) (hc : s.view.Consistent) (id : RecordId)
    (d : Document) :
    ∃ r v, Does (Collection.update Listener.silent id d) s r v ∧
      v.setting = s.view.setting ∧ (r = .ok () ∨ ¬ s.view.Unsettled → v.Consistent) := by
  cases hrecord : s.view.record id with
  | none => exact ⟨_, _, does_update_missing h hrecord d, rfl, fun _ => hc⟩
  | some old =>
    refine ⟨_, _, does_update h hp.processors hrecord d, View.update_setting _ _ _ _, ?_⟩
    rintro (hok | hsettled)
    · exact hc.update hp.extractor hrecord (d.id_setId id) hok
    · exact hc.update_of_trusts hp.extractor hrecord (d.id_setId id)
        (View.trusts_of_not_unsettled hsettled)

/-- Removing a record keeps the view consistent if it succeeds. While every index is to be relied on
it does succeed, and leaves every index to be relied on. -/
theorem remove_keeps (h : s.Sound) (hp : s.view.Plain) (hc : s.view.Consistent) (id : RecordId) :
    ∃ r v, Does (Collection.remove Listener.silent id) s r v ∧ v.setting = s.view.setting ∧
      ((∃ a, r = .ok a) → v.Consistent) ∧
      (¬ s.view.Unsettled → (∃ a, r = .ok a) ∧ ¬ v.Unsettled) := by
  cases hrecord : s.view.record id with
  | none =>
    exact ⟨_, _, does_remove_missing h hrecord, rfl, fun _ => hc, fun hs => ⟨⟨_, rfl⟩, hs⟩⟩
  | some old =>
    refine ⟨_, _, does_remove_there h hp.processors hrecord, View.remove_setting _ _ _, ?_, ?_⟩
    · rintro ⟨a, ha⟩
      obtain ⟨⟨⟩, hok, -⟩ := Result.map_eq_ok_iff.mp ha
      exact hc.remove hp.extractor hrecord hok
    · intro hsettled
      have hok := hc.remove_ok hp.extractor hrecord (View.trusts_of_not_unsettled hsettled)
      exact ⟨⟨some old, by rw [hok]; rfl⟩, View.settled_remove hsettled⟩

/-- Removing records in turn. While every index is to be relied on, no removal fails. -/
theorem removeEach_keeps (h : s.Sound) (hp : s.view.Plain) (hc : s.view.Consistent)
    (ids : List RecordId) :
    ∃ r v, Does (Collection.removeEach Listener.silent ids) s r v ∧
      v.setting = s.view.setting ∧
      ((∃ n, r = .ok n) ∨ ¬ s.view.Unsettled → v.Consistent) := by
  induction ids generalizing s with
  | nil => exact ⟨_, _, does_pure h 0, rfl, fun _ => hc⟩
  | cons id ids ih =>
    obtain ⟨r, v, hone, hsame, hok, hsettled⟩ := remove_keeps h hp hc id
    cases r with
    -- the loop ends with the first record that cannot be removed
    | error e =>
      refine ⟨_, v, hone.bind_error, hsame, ?_⟩
      rintro (⟨n, hn⟩ | hs)
      · cases hn
      · obtain ⟨⟨a, ha⟩, -⟩ := hsettled hs
        cases ha
    | ok found =>
      obtain ⟨s₁, hs₁, hreach₁⟩ := hone
      have hrest := ih hreach₁.sound (by rw [hreach₁.view]; exact hp.of_setting hsame)
        (by rw [hreach₁.view]; exact hok ⟨found, rfl⟩)
      rw [hreach₁.view] at hrest
      obtain ⟨r', v', heach, hsame', hv'⟩ := hrest
      refine ⟨_, v', Does.bind_from hs₁ hreach₁
        (heach.then_map fun count => if found.isSome then count + 1 else count),
        hsame'.trans hsame, ?_⟩
      rintro (⟨n, hn⟩ | hs)
      · obtain ⟨m, hm, -⟩ := Result.map_eq_ok_iff.mp hn
        exact hv' (Or.inl ⟨m, hm⟩)
      · exact hv' (Or.inr (hsettled hs).2)

/-- Removing the records of a query. -/
theorem removeWhere_keeps (h : s.Sound) (hp : s.view.Plain) (hc : s.view.Consistent)
    (f : Filter) :
    ∃ r v, Does (Collection.removeWhere Listener.silent f) s r v ∧
      v.setting = s.view.setting ∧
      ((∃ n, r = .ok n) ∨ ¬ s.view.Unsettled → v.Consistent) := by
  obtain ⟨v₁, hv₁, hplan⟩ := explain_spec h f {}
  have hc₁ : v₁.Consistent := hv₁.consistent hp.extractor hc
  -- planning may rebuild indexes, which does not make the collection inconsistent
  rcases hplan with ⟨e, hfails⟩ | ⟨p, -, hexplain, -⟩
  · exact ⟨_, v₁, hfails.bind_error, hv₁.setting_eq, fun _ => hc₁⟩
  obtain ⟨s₁, hs₁, hreach₁⟩ := hexplain
  have hplan := does_ofPlan hreach₁.sound p
  rw [hreach₁.view] at hplan
  cases hstream : v₁.streamOf p with
  | error e =>
    rw [hstream] at hplan
    exact ⟨_, v₁, Does.bind_from hs₁ hreach₁ hplan.bind_error, hv₁.setting_eq, fun _ => hc₁⟩
  | ok stream =>
    rw [hstream] at hplan
    obtain ⟨s₂, hs₂, hreach₂⟩ := hplan
    cases hentries : (stream.drain s₂.store).mapM id with
    | error e =>
      refine ⟨.error e, v₁, Does.bind_from hs₁ hreach₁ (Does.bind_from hs₂ hreach₂ ?_),
        hv₁.setting_eq, fun _ => hc₁⟩
      refine does_get_bind ?_
      rw [hentries]
      rw [← hreach₂.view]
      exact (does_ofResult hreach₂.sound _).bind_error
    | ok entries =>
      have heach := removeEach_keeps hreach₂.sound
        (by rw [hreach₂.view]; exact hp.of_setting hv₁.setting_eq)
        (by rw [hreach₂.view]; exact hc₁) (entries.map (·.1))
      rw [hreach₂.view] at heach
      obtain ⟨r, v₃, hremove, hsame, hkept⟩ := heach
      refine ⟨r, v₃, Does.bind_from hs₁ hreach₁ (Does.bind_from hs₂ hreach₂ ?_),
        hsame.trans hv₁.setting_eq, ?_⟩
      · refine does_get_bind ?_
        rw [hentries]
        exact does_ofResult_bind hremove
      · rintro (hok | hsettled)
        · exact hkept (Or.inl hok)
        · have hsame₁ := hv₁.eq_of_trusts (View.trusts_of_not_unsettled hsettled)
          exact hkept (Or.inr (hsame₁ ▸ hsettled))

/-! ### Queries and the life of indexes -/

/-- A query keeps the view consistent, though it may rebuild indexes on the way. -/
theorem find_keeps (h : s.Sound) (hp : s.view.Plain) (hc : s.view.Consistent) (f : Filter)
    (options : FindOptions) :
    ∃ r v, Does (Collection.find Listener.silent f options) s r v ∧
      v.setting = s.view.setting ∧ v.Consistent := by
  obtain ⟨v, hv, ⟨e, hfails⟩ | ⟨p, stream, -, -, hfind, -⟩⟩ := find_spec h f options
  · exact ⟨_, v, hfails, hv.setting_eq, hv.consistent hp.extractor hc⟩
  · exact ⟨_, v, hfind, hv.setting_eq, hv.consistent hp.extractor hc⟩

/-- Creating an index keeps the view consistent: an index that could not be filled is dirty. -/
theorem createIndex_keeps (h : s.Sound) (hp : s.view.Plain) (hc : s.view.Consistent)
    (fields : FieldPath) (kind : IndexKind) :
    ∃ r v, Does (Collection.createIndex Listener.silent fields kind) s r v ∧
      v.setting = s.view.setting ∧ v.Consistent := by
  rcases does_create h fields kind with
    ⟨-, e, hrefused⟩ | ⟨d, before, after, -, hsplit, -, hcreate⟩
  · exact ⟨_, _, hrefused.opened h, rfl, hc⟩
  · refine ⟨_, _, hcreate.opened h, rfl, ?_⟩
    obtain ⟨s', -, hreach⟩ := hcreate
    have hdistinct := hreach.sound.nodup_fields
    rw [hreach.view] at hdistinct
    exact hc.create hp.extractor hsplit rfl hdistinct

/-- Rebuilding an index keeps the view consistent. -/
theorem rebuildIndex_keeps (h : s.Sound) (hp : s.view.Plain) (hc : s.view.Consistent)
    (fields : FieldPath) :
    ∃ r v, Does (Collection.rebuildIndex Listener.silent fields) s r v ∧
      v.setting = s.view.setting ∧ v.Consistent := by
  rcases does_rebuild h fields with ⟨e, hrefused⟩ | ⟨i, hi, -, -, hrebuild⟩
  · exact ⟨_, _, hrefused.opened h, rfl, hc⟩
  · exact ⟨_, _, hrebuild.opened h, rfl, hc.rebuild hp.extractor hi⟩

/-- Dropping an index keeps the view consistent. -/
theorem dropIndex_keeps (h : s.Sound) (hc : s.view.Consistent) (fields : FieldPath) :
    ∃ r v, Ends (Collection.dropIndex fields) s r v ∧ v.setting = s.view.setting ∧
      v.Consistent := by
  rcases ends_drop h fields with ⟨e, hrefused⟩ | hdrop
  · exact ⟨_, _, hrefused.opened h, rfl, hc⟩
  · exact ⟨_, _, hdrop.opened h, rfl, hc.dropped List.filter_sublist⟩

/-- So does dropping all of them. -/
theorem dropAllIndexes_keeps (h : s.Sound) (hc : s.view.Consistent) :
    ∃ r v, Ends (Collection.dropAllIndexes : SessionM σ Unit) s r v ∧
      v.setting = s.view.setting ∧ v.Consistent := by
  rcases ends_dropAll h with ⟨e, hrefused⟩ | hdrop
  · exact ⟨_, _, hrefused.opened h, rfl, hc⟩
  · exact ⟨_, _, hdrop.opened h, rfl, hc.dropped (List.nil_sublist _)⟩

end Session

/-! ### All operations -/

/-- The operations that read or change records and indexes. -/
inductive Operation
  | insert (d : Document)
  | insertMany (ds : List Document)
  | update (id : RecordId) (d : Document)
  | remove (id : RecordId)
  | removeWhere (f : Filter)
  | createIndex (fields : FieldPath) (kind : IndexKind)
  | rebuildIndex (fields : FieldPath)
  | dropIndex (fields : FieldPath)
  | dropAllIndexes
  | find (f : Filter) (options : FindOptions)

namespace Operation

variable {σ : Type}

/-- Performs an operation, and leaves its value out. -/
def run : Operation → SessionM σ Unit
  | insert d => do let _ ← Collection.insert Listener.silent d
  | insertMany ds => do let _ ← Collection.insertMany Listener.silent ds
  | update id d => Collection.update Listener.silent id d
  | remove id => do let _ ← Collection.remove Listener.silent id
  | removeWhere f => do let _ ← Collection.removeWhere Listener.silent f
  | createIndex fields kind => do let _ ← Collection.createIndex Listener.silent fields kind
  | rebuildIndex fields => Collection.rebuildIndex Listener.silent fields
  | dropIndex fields => Collection.dropIndex fields
  | dropAllIndexes => Collection.dropAllIndexes
  | find f options => do let _ ← Collection.find Listener.silent f options

/-- Whether an operation takes index entries of stored records away. -/
def replaces : Operation → Bool
  | update .. | remove _ | removeWhere _ => true
  | _ => false

end Operation

namespace Session

variable {σ : Type} {s : Session σ}

/-- What holds of a collection between operations. The records stand under their own ids, every
index is well formed, and every index that is clean and not being built is exact
(`View.Consistent`); so no two records share a place of such an index if it is unique. -/
structure Invariant (s : Session σ) : Prop where
  sound : s.Sound
  consistent : s.view.Consistent
  unshared : ∀ i ∈ s.view.indexes, s.view.trusts i = true → i.descriptor.isUnique = true →
    ∀ e ∈ s.view.records, ∀ e' ∈ s.view.records, ∀ p,
      e.2.BelongsAt s.view.config.tokenizer i.descriptor p →
      e'.2.BelongsAt s.view.config.tokenizer i.descriptor p → e = e'

/-- That no two records share a place of a unique index follows from the exactness of that index. -/
theorem Invariant.of_consistent (h : s.Sound) (hc : s.view.Consistent) : s.Invariant where
  sound := h
  consistent := hc
  unshared i hi htrusts hu e he e' he' p hp hp' := by
    have hid := ((hc.keeps i hi).exact htrusts).buildable.unshared hu e he e' he' p hp hp'
    exact List.inj_on_of_nodup_map hc.sorted.nodup_keys he he' hid

/-- Every operation leaves a sound session in the same setting. It keeps indexes and records in
agreement if it succeeds, if it takes no entries away, or if all indexes were clean and at rest
when it began. -/
theorem run_keeps (h : s.Invariant) (hp : s.view.Plain) (op : Operation) :
    ∃ r v, Ends op.run s r v ∧ v.setting = s.view.setting ∧
      (r = .ok () ∨ op.replaces = false ∨ ¬ s.view.Unsettled → v.Consistent) := by
  obtain ⟨h, hc, -⟩ := h
  cases op with
  | insert d =>
    obtain ⟨r, v, hrun, hsame, hv⟩ := insert_keeps h hp hc d
    exact ⟨_, v, (hrun.then_map fun _ => ()).ends, hsame, fun _ => hv⟩
  | insertMany ds =>
    obtain ⟨r, v, hrun, hsame, hv⟩ := insertMany_keeps h hp hc ds
    exact ⟨_, v, (hrun.then_map fun _ => ()).ends, hsame, fun _ => hv⟩
  | update id d =>
    obtain ⟨r, v, hrun, hsame, hv⟩ := update_keeps h hp hc id d
    refine ⟨_, v, hrun.ends, hsame, ?_⟩
    rintro (hok | hnot | hsettled)
    · exact hv (Or.inl hok)
    · -- it does replace entries, so this is not the case
      cases hnot
    · exact hv (Or.inr hsettled)
  | remove id =>
    obtain ⟨r, v, hrun, hsame, hok, hsettled⟩ := remove_keeps h hp hc id
    refine ⟨_, v, (hrun.then_map fun _ => ()).ends, hsame, ?_⟩
    rintro (hr | hnot | hs)
    · obtain ⟨a, ha, -⟩ := Result.map_eq_ok_iff.mp hr
      exact hok ⟨a, ha⟩
    · cases hnot
    · exact hok (hsettled hs).1
  | removeWhere f =>
    obtain ⟨r, v, hrun, hsame, hv⟩ := removeWhere_keeps h hp hc f
    refine ⟨_, v, (hrun.then_map fun _ => ()).ends, hsame, ?_⟩
    rintro (hr | hnot | hs)
    · obtain ⟨a, ha, -⟩ := Result.map_eq_ok_iff.mp hr
      exact hv (Or.inl ⟨a, ha⟩)
    · cases hnot
    · exact hv (Or.inr hs)
  | createIndex fields kind =>
    obtain ⟨r, v, hrun, hsame, hv⟩ := createIndex_keeps h hp hc fields kind
    exact ⟨_, v, (hrun.then_map fun _ => ()).ends, hsame, fun _ => hv⟩
  | rebuildIndex fields =>
    obtain ⟨r, v, hrun, hsame, hv⟩ := rebuildIndex_keeps h hp hc fields
    exact ⟨_, v, hrun.ends, hsame, fun _ => hv⟩
  | dropIndex fields =>
    obtain ⟨r, v, hrun, hsame, hv⟩ := dropIndex_keeps h hc fields
    exact ⟨_, v, hrun, hsame, fun _ => hv⟩
  | dropAllIndexes =>
    obtain ⟨r, v, hrun, hsame, hv⟩ := dropAllIndexes_keeps h hc
    exact ⟨_, v, hrun, hsame, fun _ => hv⟩
  | find f options =>
    obtain ⟨r, v, hrun, hsame, hv⟩ := find_keeps h hp hc f options
    exact ⟨_, v, (hrun.then_map fun _ => ()).ends, hsame, fun _ => hv⟩

/-- A new collection satisfies the invariant: there is nothing to disagree about. -/
theorem Invariant.opened {name : String} {config : Config} {store store' : Store} {c : Collection}
    (hnew : store.New name)
    (hopen : (Collection.openOn name config).perform store = (.ok c, store')) (clock : UInt64)
    (observer : σ) : (⟨store', clock, c, observer⟩ : Session σ).Invariant := by
  obtain ⟨hsound, hview⟩ := sound_openOn hnew hopen clock observer
  refine .of_consistent hsound ?_
  rw [hview]
  exact {
    sorted := SortedEntries.sorted_nil
    distinct := List.nodup_nil
    own := by simp
    keeps := by simp }

/-- An operation keeps the invariant, unless it replaces records, fails, and some index was
dirty or being built when it began. -/
theorem Invariant.step (h : s.Invariant) (hp : s.view.Plain) {op : Operation}
    {r : Result Unit} {s' : Session σ} (hrun : op.run.perform s = (r, s'))
    (hr : r = .ok () ∨ op.replaces = false ∨ ¬ s.view.Unsettled) : s'.Invariant := by
  obtain ⟨r₁, v, ⟨s₁, hrun₁, hsound, rfl⟩, -, hkept⟩ := run_keeps h hp op
  obtain ⟨rfl, rfl⟩ := Prod.mk.inj (hrun₁.symm.trans hrun)
  exact .of_consistent hsound (hkept hr)

/-- The setting of a collection stays as it is. -/
theorem Invariant.setting_eq (h : s.Invariant) (hp : s.view.Plain) {op : Operation}
    {r : Result Unit} {s' : Session σ} (hrun : op.run.perform s = (r, s')) :
    s'.view.setting = s.view.setting := by
  obtain ⟨r₁, v, ⟨s₁, hrun₁, -, rfl⟩, hsame, -⟩ := run_keeps h hp op
  obtain ⟨rfl, rfl⟩ := Prod.mk.inj (hrun₁.symm.trans hrun)
  exact hsame

/-- What operations make of a new collection, as long as none that replaces records fails while
some index is dirty. -/
inductive Reached : Session σ → Prop
  | opened {name : String} {config : Config} {store store' : Store} {c : Collection}
      (hnew : store.New name) (hplain : config.customExtractor = none)
      (hopen : (Collection.openOn name config).perform store = (.ok c, store'))
      (clock : UInt64) (observer : σ) : Reached ⟨store', clock, c, observer⟩
  | step {s s' : Session σ} {op : Operation} {r : Result Unit} (h : Reached s)
      (hrun : op.run.perform s = (r, s'))
      (hr : r = .ok () ∨ op.replaces = false ∨ ∀ i ∈ s.view.indexes, i.dirty = false) :
      Reached s'

/-- The invariant holds after every such run. No flag is held between its operations, so an
index that is not dirty is at rest. -/
theorem Reached.invariant_of_run (h : Reached s) :
    s.Invariant ∧ s.view.Plain ∧ s.view.held = [] := by
  induction h with
  | opened hnew hplain hopen clock observer =>
    have hview := (sound_openOn hnew hopen clock observer).2
    refine ⟨.opened hnew hopen clock observer, ?_, ?_⟩
    · rw [hview]
      exact ⟨hplain, rfl⟩
    · rw [hview]
  | step h hrun hr ih =>
    obtain ⟨hinv, hp, hheld⟩ := ih
    have hsame := hinv.setting_eq hp hrun
    refine ⟨hinv.step hp hrun (hr.imp_right (Or.imp_right ?_)), hp.of_setting hsame,
      (View.held_eq_of_setting_eq hsame).trans hheld⟩
    rintro hclean ⟨i, hi, hnot⟩
    rw [View.trusts, View.isBuilding, hheld, hclean i hi] at hnot
    cases hnot

/-- A run can go on with a document that names an id of its own. -/
theorem Reached.insert_named (h : Reached s) {d : Document} {id : RecordId}
    (hid : d.id = .ok (some id)) (hnew : s.view.record id = none) :
    ∃ s' : Session σ, Reached s' ∧ s'.view = (s.view.insert id d).2 := by
  obtain ⟨hinv, hp, -⟩ := h.invariant_of_run
  obtain ⟨s', hs', hreach⟩ :=
    (does_insert_named hinv.sound hp.processors hid hnew).then_map fun _ => ()
  have hrun : (Operation.insert d).run.perform s = (_, s') := hs'
  exact ⟨s', h.step hrun (Or.inr (Or.inl rfl)), hreach.view⟩

/-- A run can go on with an index that there can be, which is then filled from the records. -/
theorem Reached.create (h : Reached s) {fields : FieldPath} {kind : IndexKind}
    (hfree : s.view.Registrable fields kind) :
    ∃ (s' : Session σ) (before after : List IndexState), Reached s' ∧
      s.view.indexes = before ++ after ∧
      s'.view = { s.view with indexes := before ++ ((IndexState.fill s.view.config
        s.view.documents false).perform ⟨⟨kind, fields, s.view.name⟩, true,
          .empty ⟨kind, fields, s.view.name⟩⟩).2 :: after } := by
  obtain ⟨hinv, -, hheld⟩ := h.invariant_of_run
  have hidle : s.view.isBuilding fields = false := by
    rw [View.isBuilding, hheld]
    rfl
  rcases does_create hinv.sound fields kind with
    ⟨hnot, -⟩ | ⟨d, before, after, rfl, hindexes, -, hcreate⟩
  · exact absurd ⟨hidle, hfree⟩ hnot
  · obtain ⟨s', hs', hreach⟩ := (hcreate.opened hinv.sound).then_map fun _ => ()
    have hrun : (Operation.createIndex fields kind).run.perform s = (_, s') := hs'
    exact ⟨s', before, after, h.step hrun (Or.inr (Or.inl rfl)), hindexes, hreach.view⟩

end Session

/-- The index consistency invariant. It holds of a collection that has just been opened. Every
operation keeps it when it succeeds, and also when it fails, unless it replaces or removes
records and some index was dirty or being built when it began. No operation changes the
setting, so a collection on which no build was running between operations stays one. -/
theorem index_consistency {σ : Type} :
    (∀ (name : String) (config : Config) (store store' : Store) (c : Collection) (clock : UInt64)
        (observer : σ), store.New name →
        (Collection.openOn name config).perform store = (.ok c, store') →
        (⟨store', clock, c, observer⟩ : Session σ).Invariant) ∧
      (∀ (s s' : Session σ) (op : Operation) (r : Result Unit), s.Invariant → s.view.Plain →
        op.run.perform s = (r, s') →
        s'.view.setting = s.view.setting ∧
          (r = .ok () ∨ ¬(op.replaces = true ∧ s.view.Unsettled) → s'.Invariant)) ∧
      ∀ s : Session σ, Session.Reached s → s.Invariant := by
  refine ⟨fun name config store store' c clock observer hnew hopen => ?_, ?_, ?_⟩
  · exact .opened hnew hopen clock observer
  · intro s s' op r hinv hp hrun
    refine ⟨hinv.setting_eq hp hrun, fun hr => hinv.step hp hrun (hr.imp_right ?_)⟩
    intro hnot
    cases hreplaces : op.replaces with
    | false => exact Or.inl rfl
    | true => exact Or.inr fun hunsettled => hnot ⟨hreplaces, hunsettled⟩
  · exact fun s hs => hs.invariant_of_run.1

/-- What a view shows of its indexes: whether each of them is dirty, and the ids that it has under
each of some keys. -/
def View.shownAt (v : View) (keys : List Key) :
    List (IndexDescriptor × Bool × List (List RecordId)) :=
  v.indexes.map fun i => (i.descriptor, i.dirty, keys.map fun key => i.content.idsAt (.path [key]))

/-- Two documents are inserted into a new collection, and a unique index on `a` is built from them.
Record 1 is refused the value of record 2, and gets an array then in which it has its own value.
The invariant holds from the opening on: after the refusal the index has what it had before, and
after the update it has record 1 under both elements of the array. -/
theorem index_consistency_rival_values :
    ∃ (s₀ s s' s'' : Session Unit) (e : Error),
      s₀.Invariant ∧ s₀.view.records = [] ∧ s₀.view.indexes = [] ∧
      s.Reached ∧ s.Invariant ∧ s.view.records.map (·.1) = [⟨1⟩, ⟨2⟩] ∧
      s.view.shownAt [⟨.null, rfl⟩, ⟨.bool false, rfl⟩, ⟨.bool true, rfl⟩]
        = [(⟨.unique, ⟨["a"]⟩, "c"⟩, false, [[], [⟨1⟩], [⟨2⟩]])] ∧
      (Operation.update ⟨1⟩ ⟨[("a", .bool true)]⟩).run.perform s = (.error e, s') ∧
      s'.Invariant ∧
      s'.view.shownAt [⟨.null, rfl⟩, ⟨.bool false, rfl⟩, ⟨.bool true, rfl⟩]
        = [(⟨.unique, ⟨["a"]⟩, "c"⟩, false, [[], [⟨1⟩], [⟨2⟩]])] ∧
      (Operation.update ⟨1⟩ ⟨[("a", .array [.null, .bool false])]⟩).run.perform s'
        = (.ok (), s'') ∧
      s''.Invariant ∧
      s''.view.shownAt [⟨.null, rfl⟩, ⟨.bool false, rfl⟩, ⟨.bool true, rfl⟩]
        = [(⟨.unique, ⟨["a"]⟩, "c"⟩, false, [[⟨1⟩], [⟨1⟩], [⟨2⟩]])] := by
  obtain ⟨hopened, hstep, hreached⟩ := @index_consistency Unit
  let a : IndexDescriptor := ⟨.unique, ⟨["a"]⟩, "c"⟩
  let d₁ : Document := ⟨[("_id", .string "1"), ("a", .bool false)]⟩
  let d₂ : Document := ⟨[("_id", .string "2"), ("a", .bool true)]⟩
  let rival : Document := ⟨[("a", .bool true)]⟩
  let own : Document := ⟨[("a", .array [.null, .bool false])]⟩
  -- the views in the order in which the run comes to them
  let v₁ : View := (View.insert ⟨"c", {}, [], ⟨0⟩, [], [], []⟩ ⟨1⟩ d₁).2
  let v₂ : View := (v₁.insert ⟨2⟩ d₂).2
  let v₃ : View := { v₂ with
    indexes := [((IndexState.fill {} [d₁, d₂] false).perform ⟨a, true, .empty a⟩).2] }
  let v₄ : View := (v₃.update ⟨1⟩ d₁ (rival.setId ⟨1⟩)).2
  -- the collection is opened, the two documents are inserted, and the index is built
  have hopen := Collection.perform_openOn {} (Store.new_empty "c") (by decide)
  have hinv₀ := hopened _ _ _ _ _ 0 () (Store.new_empty "c") hopen
  have hview₀ := (Session.sound_openOn (Store.new_empty "c") hopen 0 ()).2
  have hreached₀ := Session.Reached.opened (Store.new_empty "c") rfl hopen 0 ()
  obtain ⟨s₁, hreached₁, hview₁⟩ := hreached₀.insert_named (rfl : d₁.id = .ok (some ⟨1⟩))
    (by rw [hview₀]; rfl)
  rw [hview₀] at hview₁
  obtain ⟨s₂, hreached₂, hview₂⟩ := hreached₁.insert_named (rfl : d₂.id = .ok (some ⟨2⟩))
    (by rw [hview₁]; rfl)
  rw [hview₁] at hview₂
  obtain ⟨s₃, before, after, hreached₃, hindexes, hview₃⟩ := hreached₂.create
    (show s₂.view.Registrable ⟨["a"]⟩ .unique by rw [hview₂]; exact ⟨rfl, nofun⟩)
  rw [hview₂] at hindexes hview₃
  obtain ⟨rfl, rfl⟩ := List.append_eq_nil_iff.mp hindexes.symm
  replace hview₃ : s₃.view = v₃ := hview₃
  have hinv₃ := hreached s₃ hreached₃
  have hplain₃ : s₃.view.Plain := by
    rw [hview₃]
    exact ⟨rfl, rfl⟩
  -- the refused update, while no index is dirty
  have hold₃ : s₃.view.record ⟨1⟩ = some d₁ := by
    rw [hview₃]
    rfl
  obtain ⟨s₄, hs₄, hreach₄⟩ := Session.does_update hinv₃.sound hplain₃.processors hold₃ rival
  rw [hview₃] at hs₄ hreach₄
  obtain ⟨e, herror⟩ := Result.toOption_eq_none_iff.mp
    (show (v₃.update ⟨1⟩ d₁ (rival.setId ⟨1⟩)).1.toOption = none by decide +kernel)
  rw [herror] at hs₄
  have hsettled : ¬ s₃.view.Unsettled := by
    rw [hview₃]
    have htrusts : ∀ i ∈ v₃.indexes, v₃.trusts i = true := by decide +kernel
    rintro ⟨i, hi, hnot⟩
    cases (htrusts i hi).symm.trans hnot
  obtain ⟨hsame₄, hkept₄⟩ := hstep s₃ s₄ (.update ⟨1⟩ rival) _ hinv₃ hplain₃ hs₄
  have hinv₄ := hkept₄ (Or.inr fun hnot => hsettled hnot.2)
  have hview₄ : s₄.view = v₄ := hreach₄.view
  have hplain₄ := hplain₃.of_setting hsame₄
  -- the update that succeeds
  have hold₄ : s₄.view.record ⟨1⟩ = some d₁ := by
    rw [hview₄, View.record, View.update_records_of_error herror]
    rfl
  obtain ⟨s₅, hs₅, hreach₅⟩ := Session.does_update hinv₄.sound hplain₄.processors hold₄ own
  rw [hview₄] at hs₅ hreach₅
  rw [Result.eq_ok_of_toOption
    (show (v₄.update ⟨1⟩ d₁ (own.setId ⟨1⟩)).1.toOption = some () by decide +kernel)] at hs₅
  have hinv₅ := (hstep s₄ s₅ (.update ⟨1⟩ own) _ hinv₄ hplain₄ hs₅).2 (Or.inl rfl)
  refine ⟨_, s₃, s₄, s₅, e, hinv₀, by rw [hview₀], by rw [hview₀], hreached₃, hinv₃, ?_, ?_, hs₄,
    hinv₄, ?_, hs₅, hinv₅, ?_⟩
  · rw [hview₃]
    rfl
  · rw [hview₃]
    decide +kernel
  · rw [hview₄]
    decide +kernel
  · rw [hreach₅.view]
    decide +kernel

end DocumentDb
