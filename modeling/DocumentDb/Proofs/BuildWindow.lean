import DocumentDb.Proofs.Building
import DocumentDb.Proofs.Operation

/-!
# `DocumentDb.Proofs.BuildWindow`: writes and queries while a build is about to walk the records

A build takes the flag of its fields, announces its start, and walks the records then. The
listener that hears of the start may change the whole session first: whatever it does comes in
the window between the flag and the walk. `Listener.during` is a listener that performs
operations on documents there.

`Operation.performAll_window` is the run lemma of the window. The operations may succeed or
fail; they keep `View.Window`, the invariant of `View.Underway` for a collection that has the
index in its catalog. `BuildCall.Start.run_spec` goes on with the walk: it comes to its end
exactly when the index can be built from the documents that are stored by then, and the index is
exact for these. While the flag is held, the index is out of the plans of all queries, and it is
neither built anew nor dropped (`Session.Protects`).
-/

set_option autoImplicit false

namespace DocumentDb

namespace View

/-! ### The window -/

/-- Indexes have the same descriptors before and after a write. -/
@[simp] theorem insert_descriptors (v : View) (id : RecordId) (doc : Document) :
    (v.insert id doc).2.indexes.map (·.descriptor) = v.indexes.map (·.descriptor) := by
  have hsame := writeEach_descriptors (v.setRecord id doc) doc v.indexes
  unfold insert
  rcases hrun : (v.setRecord id doc).writeEach doc v.indexes with ⟨_ | _, is⟩ <;>
    · rw [hrun] at hsame
      exact hsame

/-- An update keeps the descriptors. -/
@[simp] theorem update_descriptors (v : View) (id : RecordId) (old new : Document) :
    (v.update id old new).2.indexes.map (·.descriptor) = v.indexes.map (·.descriptor) := by
  have hsame := replaceEach_descriptors (v.setRecord id new) old new v.indexes
  unfold update
  rcases hrun : (v.setRecord id new).replaceEach old new v.indexes with ⟨_ | _, is⟩ <;>
    · rw [hrun] at hsame
      exact hsame

/-- A removal keeps the descriptors. -/
@[simp] theorem remove_descriptors (v : View) (id : RecordId) (old : Document) :
    (v.remove id old).2.indexes.map (·.descriptor) = v.indexes.map (·.descriptor) := by
  have hsame := forgetEach_descriptors (v.eraseRecord id) old v.indexes
  unfold remove
  rcases hrun : (v.eraseRecord id).forgetEach old v.indexes with ⟨_ | _, is⟩ <;>
    · rw [hrun] at hsame
      exact hsame

/-- A flag that has been taken is held. -/
theorem isBuilding_of_held_eq {v : View} {held : List (FieldPath × Guard)} {fields : FieldPath}
    {guard : Guard} (hheld : v.held = held ++ [(fields, guard)]) : v.isBuilding fields = true := by
  rw [View.isBuilding, hheld, List.any_append]
  simp

/-- A collection in the window of a build: it is in the setting in which the build started, and
has the index in its catalog. -/
structure Window (start : View) (first : List FieldPath) (d : IndexDescriptor) (v : View) :
    Prop where
  setting_eq : v.setting = start.setting
  indexed : d ∈ v.indexes.map (·.descriptor)
  underway : v.Underway first

end View

namespace Session

variable {σ : Type}

/-! ### Operations on documents in the window -/

section window

variable {start : View} {first : List FieldPath} {d : IndexDescriptor}
  (hp : start.Plain)

include hp

/-- An insert in the window leaves the window open. -/
theorem upholds_insert (doc : Document) :
    Upholds (View.Window start first d) (Collection.insert (σ := σ) Listener.silent doc) := by
  intro s h hw
  have hp' := hp.of_setting hw.setting_eq
  rcases insert_spec h hp'.processors doc with
    ⟨⟨e, hrefused⟩, -⟩ | ⟨id, doc', hassigned, hnew, hinsert⟩
  · exact ⟨_, _, hrefused, hw⟩
  · refine ⟨_, _, hinsert, (View.insert_setting _ _ _).trans hw.setting_eq, ?_, ?_⟩
    · rw [View.insert_descriptors]
      exact hw.indexed
    · exact hw.underway.insert hp'.extractor (id_of_assigned hassigned) hnew

/-- An update in the window leaves the window open. -/
theorem upholds_update (id : RecordId) (doc : Document) :
    Upholds (View.Window start first d) (Collection.update (σ := σ) Listener.silent id doc) := by
  intro s h hw
  have hp' := hp.of_setting hw.setting_eq
  cases hrecord : s.view.record id with
  | none => exact ⟨_, _, does_update_missing h hrecord doc, hw⟩
  | some old =>
    refine ⟨_, _, does_update h hp'.processors hrecord doc,
      (View.update_setting _ _ _ _).trans hw.setting_eq, ?_, ?_⟩
    · rw [View.update_descriptors]
      exact hw.indexed
    · exact hw.underway.update hp'.extractor hrecord (doc.id_setId id)

/-- A removal in the window leaves the window open. -/
theorem upholds_remove (id : RecordId) :
    Upholds (View.Window start first d) (Collection.remove (σ := σ) Listener.silent id) := by
  intro s h hw
  have hp' := hp.of_setting hw.setting_eq
  cases hrecord : s.view.record id with
  | none => exact ⟨_, _, does_remove_missing h hrecord, hw⟩
  | some old =>
    refine ⟨_, _, does_remove_there h hp'.processors hrecord,
      (View.remove_setting _ _ _).trans hw.setting_eq, ?_, ?_⟩
    · rw [View.remove_descriptors]
      exact hw.indexed
    · exact hw.underway.remove hp'.extractor hrecord

/-- Planning a query rebuilds indexes at rest only, so never the one that is being built. -/
theorem upholds_explain (f : Filter) (options : FindOptions) :
    Upholds (View.Window start first d)
      (Collection.explain (σ := σ) Listener.silent f options) := by
  intro s h hw
  have hp' := hp.of_setting hw.setting_eq
  obtain ⟨v, hv, hplan⟩ := explain_spec h f options
  have hw' : View.Window start first d v := by
    refine ⟨hv.setting_eq.trans hw.setting_eq, ?_, hw.underway.refreshes hp'.extractor hv⟩
    obtain ⟨i, hi, rfl⟩ := List.mem_map.mp hw.indexed
    obtain ⟨i', hi', hd⟩ := hv.exists_mem hi h.nodup_fields
    rw [← hd]
    exact List.mem_map_of_mem hi'
  rcases hplan with ⟨e, hfails⟩ | ⟨p, -, hexplain, -⟩
  · exact ⟨_, v, hfails, hw'⟩
  · exact ⟨_, v, hexplain, hw'⟩

/-- A query in the window leaves the window open. -/
theorem upholds_find (f : Filter) (options : FindOptions) :
    Upholds (View.Window start first d)
      (Collection.find (σ := σ) Listener.silent f options) := by
  refine (upholds_explain hp f options).bind fun p => (upholds_ofPlan p).bind fun stream => ?_
  exact fun s h hw => ⟨_, _, does_here_bind (does_pure h _), hw⟩

/-- Removing what a query finds leaves the window open. -/
theorem upholds_removeWhere (f : Filter) :
    Upholds (View.Window start first d)
      (Collection.removeWhere (σ := σ) Listener.silent f) := by
  refine (upholds_explain hp f {}).bind fun p => (upholds_ofPlan p).bind fun stream => ?_
  refine upholds_get_bind fun s => (upholds_ofResult _).bind fun entries => ?_
  exact upholds_removeEach (upholds_remove hp) _

end window

end Session

namespace Operation

variable {σ : Type}

/-- Whether an operation is one on documents, and not on the life of indexes. -/
def onDocuments : Operation → Bool
  | insert _ | insertMany _ | update .. | remove _ | removeWhere _ | find .. => true
  | createIndex .. | rebuildIndex _ | dropIndex _ | dropAllIndexes => false

/-- The session after operations, whether they succeed or fail. -/
def performAll (ops : List Operation) (s : Session σ) : Session σ :=
  ops.foldl (fun s op => (op.run.perform s).2) s

/-- Every operation on documents leaves the window open. -/
theorem upholds_run {start : View} {first : List FieldPath} {d : IndexDescriptor}
    (hp : start.Plain) {op : Operation} (hop : op.onDocuments = true) :
    Session.Upholds (View.Window start first d) (op.run : SessionM σ Unit) := by
  open Session in
  cases op with
  | insert doc => exact (upholds_insert hp doc).bind fun _ => upholds_pure ()
  | insertMany docs =>
    exact (upholds_insertMany (upholds_insert hp) docs).bind fun _ => upholds_pure ()
  | update id doc => exact upholds_update hp id doc
  | remove id => exact (upholds_remove hp id).bind fun _ => upholds_pure ()
  | removeWhere f => exact (upholds_removeWhere hp f).bind fun _ => upholds_pure ()
  | find f options => exact (upholds_find hp f options).bind fun _ => upholds_pure ()
  | createIndex | rebuildIndex | dropIndex | dropAllIndexes => cases hop

/-- Operations on documents keep the window as it has to be. -/
theorem performAll_window {start : View} {first : List FieldPath} {d : IndexDescriptor}
    (hp : start.Plain) {ops : List Operation} (hops : ∀ op ∈ ops, op.onDocuments = true)
    {s : Session σ} (h : s.Sound) (hw : View.Window start first d s.view) :
    (performAll ops s).Sound ∧ View.Window start first d (performAll ops s).view := by
  induction ops generalizing s with
  | nil => exact ⟨h, hw⟩
  | cons op ops ih =>
    obtain ⟨r, v, ⟨s₁, hs₁, hreach₁⟩, hv⟩ := upholds_run hp (hops op List.mem_cons_self) s h hw
    have hstep : performAll (op :: ops) s = performAll ops s₁ := by
      rw [performAll, List.foldl_cons, hs₁]
      rfl
    rw [hstep]
    exact ih (fun op' hop' => hops op' (List.mem_cons_of_mem _ hop')) hreach₁.sound
      (hreach₁.view ▸ hv)

end Operation

/-- A listener that performs operations when a build of certain fields starts. -/
def Listener.during {σ : Type} (fields : FieldPath) (ops : List Operation) : Listener σ
  | .buildStart fields', s => if fields' = fields then Operation.performAll ops s else s
  | .buildEnd _, s => s

/-! ### While the flag is held -/

/-- The index on some fields is being built: no query has it in its plan, and it can neither be
built anew nor dropped, which changes nothing. -/
structure Session.Protects {σ : Type} (s : Session σ) (fields : FieldPath) : Prop where
  unplanned : ∀ f options p s',
    (Collection.explain Listener.silent f options).perform s = (.ok p, s') →
      ∀ d ∈ p.indexes, d.fields ≠ fields
  rebuild : ∀ listener, ∃ e, (Collection.rebuildIndex listener fields).perform s = (.error e, s)
  drop : ∃ e, (Collection.dropIndex fields).perform s = (.error e, s)
  dropAll : ∃ e, (Collection.dropAllIndexes : SessionM σ Unit).perform s = (.error e, s)

namespace Session

variable {σ : Type} {s : Session σ}

/-- While the flag of an index is set, the index is protected. -/
theorem Sound.protects (h : s.Sound) {fields : FieldPath}
    (hheld : s.view.isBuilding fields = true) : s.Protects fields where
  unplanned f options p s' hrun d hd := by
    rintro rfl
    obtain ⟨v, -, ⟨e, hfails⟩ | ⟨p', hp', hexplain, -⟩⟩ := explain_spec h f options
    · cases (hfails.elim hrun).1
    · obtain rfl : p = p' := Except.ok.inj (hexplain.elim hrun).1
      -- a plan has only indexes that are not being built
      obtain ⟨hfree, -⟩ := View.mem_offered.mp (Plan.mem_of_mem_indexes hp' hd)
      rw [hheld] at hfree
      cases hfree
  rebuild listener := by
    rcases does_claim h fields with ⟨-, e, hrefused⟩ | ⟨guard, i, hi, hfields, hfree, -⟩
    · refine ⟨e, ?_⟩
      unfold Collection.rebuildIndex
      rw [Action.perform_bind, perform_checkOpen h]
      dsimp only
      rw [rebuild_eq, Action.perform_bind, hrefused]
    · rw [hheld] at hfree
      cases hfree
  drop := by
    refine ⟨.dropDuringBuild fields, ?_⟩
    unfold Collection.dropIndex
    rw [Action.perform_bind, perform_checkOpen h]
    exact perform_drop_held hheld
  dropAll := by
    refine ⟨.dropAllDuringBuild, ?_⟩
    unfold Collection.dropAllIndexes
    rw [Action.perform_bind, perform_checkOpen h]
    refine perform_dropAll_held fun hnone => ?_
    rw [View.isBuilding, hnone] at hheld
    cases hheld

end Session

end DocumentDb
