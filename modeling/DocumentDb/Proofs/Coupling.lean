import DocumentDb.Proofs.Dropping
import DocumentDb.Proofs.StorageErrors
import DocumentDb.Proofs.Writing

/-!
# `DocumentDb.Proofs.Coupling`: one action on two sessions

Two sessions can stand for one collection and differ in what is no part of the collection: in the
caches of the handle, in the numbers of the guards, in what an observer has seen. `InStep R E x y`
says of two actions that they run in step from sessions that `R` relates: they give one result,
the sessions they leave are related again, and `E` holds of the errors.

`Couples` is what a relation needs for that. Related sessions agree on what an operation reads
(`Agree`), and they stay related when both take a quiet step to one store, a step in which no flag
is taken and nothing is announced (`Quiet`). Everything an operation does between two builds is
made of quiet steps; this module goes through these parts one by one. The part that takes the most
is the handle of an index: whether it is kept or opened now, the handle is the same and the store
comes out the same (`Sound.perform_handleOf`).

The errors are followed along. A sound session never misses a map, so what blames the store can
only come from the caller's own extractor or processors (`Collection.Admits`).
-/

set_option autoImplicit false

namespace DocumentDb

/-- Handles of one collection under one configuration. Their caches, flags and generators may
differ. -/
structure Collection.Matches (c k : Collection) : Prop where
  name : c.name = k.name
  config : c.config = k.config
  records : c.records = k.records
  processors : c.processors = k.processors

/-- Handles of one collection match each other. -/
theorem Collection.Matches.trans {c k l : Collection} (h : c.Matches k) (h' : k.Matches l) :
    c.Matches l :=
  ⟨h.name.trans h'.name, h.config.trans h'.config, h.records.trans h'.records,
    h.processors.trans h'.processors⟩

/-- The flags of a handle are no part of what matches. -/
theorem Collection.Matches.withBuilds {c k : Collection} (h : c.Matches k) (builds : Builds) :
    Collection.Matches { c with builds } k :=
  ⟨h.name, h.config, h.records, h.processors⟩

/-- The errors that do not blame the store, and those that the caller's own parts report. -/
def Collection.Admits (k : Collection) (e : Error) : Prop :=
  e.kind ≠ .storage ∨ (∃ d fields, k.config.extractor d fields = .error e) ∨
    ∃ d, Processor.writeAll k.processors d = .error e ∨ Processor.readAll k.processors d = .error e

namespace Session

open Store (Refers)

variable {σ α β : Type}

/-! ### Actions in step -/

/-- One step of two runs: one result, related sessions, and an error that `E` holds of. -/
def InStepAt (R : Session σ → Session σ → Prop) (E : Error → Prop) (x y : SessionM σ α)
    (s t : Session σ) : Prop :=
  ∃ r s' t', x.perform s = (r, s') ∧ y.perform t = (r, t') ∧ R s' t' ∧ ∀ e, r = .error e → E e

/-- Two actions that run in step from all related sessions. -/
def InStep (R : Session σ → Session σ → Prop) (E : Error → Prop) (x y : SessionM σ α) : Prop :=
  ∀ s t, R s t → InStepAt R E x y s t

section steps

variable {R : Session σ → Session σ → Prop} {E E' : Error → Prop} {x y : SessionM σ α}
  {f g : α → SessionM σ β} {s t : Session σ}

/-- Two actions that give one value and lead to related sessions. -/
theorem inStepAt_ok {s' t' : Session σ} {a : α} (hs : x.perform s = (.ok a, s'))
    (ht : y.perform t = (.ok a, t')) (h : R s' t') : InStepAt R E x y s t := by
  refine ⟨.ok a, s', t', hs, ht, h, fun e heq => ?_⟩
  cases heq

/-- A value ends a step where it stands. -/
theorem inStepAt_pure (h : R s t) (a : α) : InStepAt R E (pure a) (pure a) s t :=
  inStepAt_ok rfl rfl h

/-- So does an error that `E` holds of. -/
theorem inStepAt_throw (h : R s t) {e : Error} (he : E e) :
    InStepAt R E (throw e : SessionM σ α) (throw e) s t :=
  ⟨.error e, s, t, rfl, rfl, h, fun _ heq => Except.error.inj heq ▸ he⟩

/-- A result that was computed beforehand ends a step, whatever it is. -/
theorem inStepAt_ofResult (h : R s t) {r : Result α} (hr : ∀ e, r = .error e → E e) :
    InStepAt R E (Action.ofResult r) (Action.ofResult r) s t :=
  ⟨r, s, t, rfl, rfl, h, hr⟩

/-- Two chains run in step if their first actions do, and if what goes on does so from the sessions
that these lead to. -/
theorem InStepAt.bind (hx : InStepAt R E x y s t)
    (hf : ∀ a s' t', x.perform s = (.ok a, s') → y.perform t = (.ok a, t') → R s' t' →
      InStepAt R E (f a) (g a) s' t') : InStepAt R E (x >>= f) (y >>= g) s t := by
  obtain ⟨r, s', t', hs, ht, hR, hE⟩ := hx
  cases r with
  | error e =>
    exact ⟨.error e, s', t', by rw [Action.perform_bind, hs], by rw [Action.perform_bind, ht], hR,
      fun e' heq => hE e' (Except.error.inj heq ▸ rfl)⟩
  | ok a =>
    obtain ⟨r', s'', t'', hs', ht', hrest⟩ := hf a s' t' hs ht hR
    exact ⟨r', s'', t'', by rw [Action.perform_bind, hs]; exact hs',
      by rw [Action.perform_bind, ht]; exact ht', hrest⟩

/-- Chains of actions run in step if their links do. -/
theorem InStep.bind (hx : InStep R E x y) (hf : ∀ a, InStep R E (f a) (g a)) :
    InStep R E (x >>= f) (y >>= g) :=
  fun s t h => (hx s t h).bind fun a s' t' _ _ h' => hf a s' t' h'

/-- What goes on after an attempt knows of an error what is known of the errors of the attempt. -/
theorem InStepAt.attempt_bind {f g : Result α → SessionM σ β} (hx : InStepAt R E' x y s t)
    (hf : ∀ r s' t', R s' t' → (∀ e, r = .error e → E' e) → InStepAt R E (f r) (g r) s' t') :
    InStepAt R E (x.attempt >>= f) (y.attempt >>= g) s t := by
  obtain ⟨r, s', t', hs, ht, hR, hE⟩ := hx
  obtain ⟨r', s'', t'', hs', ht', hrest⟩ := hf r s' t' hR hE
  refine ⟨r', s'', t'', ?_, ?_, hrest⟩
  · rw [Action.perform_bind, Action.perform_attempt, hs]
    exact hs'
  · rw [Action.perform_bind, Action.perform_attempt, ht]
    exact ht'

/-- A look at the collection. -/
theorem InStepAt.here_bind {f g : Collection → SessionM σ β}
    (hf : InStepAt R E (f s.collection) (g t.collection) s t) :
    InStepAt R E (here >>= f) (here >>= g) s t := hf

/-- A look at the whole session. -/
theorem InStepAt.get_bind {f g : Session σ → SessionM σ β}
    (hf : InStepAt R E (f s) (g t) s t) : InStepAt R E (get >>= f) (get >>= g) s t := hf

end steps

/-! ### Sessions that cannot be told apart -/

/-- What two sessions of one collection have in common when no operation can tell them apart. -/
structure Agree (k : Collection) (s t : Session σ) : Prop where
  left : s.Sound
  right : t.Sound
  store : s.store = t.store
  clock : s.clock = t.clock
  generator : s.collection.generator = t.collection.generator
  /-- The guards of the flags may differ. -/
  flags : s.collection.builds.held.map (·.1) = t.collection.builds.held.map (·.1)
  leftMatches : s.collection.Matches k
  rightMatches : t.collection.Matches k

namespace Agree

variable {k : Collection} {s t : Session σ}

/-- Sessions that agree are sessions of one name. -/
theorem name_eq (h : Agree k s t) : s.collection.name = t.collection.name :=
  h.leftMatches.name.trans h.rightMatches.name.symm

/-- They have one configuration. -/
theorem config_eq (h : Agree k s t) : s.collection.config = t.collection.config :=
  h.leftMatches.config.trans h.rightMatches.config.symm

/-- They have the same metadata, which stands in the store. -/
theorem metaEntries_eq (h : Agree k s t) : s.metaEntries = t.metaEntries := by
  rw [metaEntries, metaEntries, h.store, h.name_eq]

/-- Their catalogs refer to the same map. -/
theorem metaMap_eq (h : Agree k s t) :
    s.collection.catalog.metaMap = t.collection.catalog.metaMap := by
  have hs := h.left.metas
  have ht := h.right.metas
  rw [Refers, h.store, h.name_eq, ht] at hs
  exact congrArg MapRef.mk (Option.some.inj hs).symm

/-- The same flags are held in both, though by guards of different numbers. -/
theorem isBuilding_eq (h : Agree k s t) (fields : FieldPath) :
    s.collection.builds.isBuilding fields = t.collection.builds.isBuilding fields := by
  have hany : ∀ b : Builds, b.isBuilding fields = (b.held.map (·.1)).any (· == fields) := by
    intro b
    rw [Builds.isBuilding, List.any_map]
    rfl
  rw [hany, hany, h.flags]

/-- A handle that leads to an index in one session does so in the other. -/
theorem serves (h : Agree k s t) {x : IndexHandle} {d : IndexDescriptor} (hx : s.Serves x d) :
    t.Serves x d := by
  obtain ⟨e, he, hd, hx, hn, hb⟩ := hx
  refine ⟨e, h.metaEntries_eq ▸ he, hd, hx, hn, ?_⟩
  rw [← h.store, ← h.config_eq]
  exact hb

end Agree

/-- The index that a handle leads to. -/
theorem Serves.exists_index {s : Session σ} {x : IndexHandle} {d : IndexDescriptor}
    (hx : s.Serves x d) : ∃ i ∈ s.view.indexes, i.descriptor = d := by
  obtain ⟨e, he, hd, -⟩ := hx
  exact ⟨_, Sound.mem_indexes.mpr ⟨e, he, rfl⟩, hd⟩

/-- A step in which no build begins or ends and nothing is announced. -/
structure Quiet (s s' : Session σ) : Prop where
  sound : s'.Sound
  builds : s'.collection.builds = s.collection.builds
  observer : s'.observer = s.observer
  unaltered : s'.collection.Matches s.collection

/-- To do nothing is a quiet step. -/
theorem Quiet.refl {s : Session σ} (h : s.Sound) : Quiet s s :=
  ⟨h, rfl, rfl, rfl, rfl, rfl, rfl⟩

/-- Two quiet steps are one. -/
theorem Quiet.trans {s s' s'' : Session σ} (h : Quiet s s') (h' : Quiet s' s'') : Quiet s s'' :=
  ⟨h'.sound, h'.builds.trans h.builds, h'.observer.trans h.observer,
    h'.unaltered.trans h.unaltered⟩

/-- A change of the store and of the caches of a handle is quiet. -/
theorem Sound.quiet {s : Session σ} {store : Store} {catalog : Catalog}
    {handles : List (String × IndexHandle)}
    (h : Sound { s with store, collection := { s.collection with catalog, handles } }) :
    Quiet s { s with store, collection := { s.collection with catalog, handles } } :=
  ⟨h, rfl, rfl, rfl, rfl, rfl, rfl⟩

/-- Relations that are kept by all that happens between two builds. -/
structure Couples (k : Collection) (E : Error → Prop) (R : Session σ → Session σ → Prop) :
    Prop where
  agree : ∀ {s t}, R s t → Agree k s t
  quiet : ∀ {s t s' t'}, R s t → Quiet s s' → Quiet t t' → s'.store = t'.store →
    s'.clock = t'.clock → s'.collection.generator = t'.collection.generator → R s' t'
  admits : ∀ {e}, k.Admits e → E e

namespace Couples

variable {k : Collection} {E : Error → Prop} {R : Session σ → Session σ → Prop} {s t : Session σ}
  (h : Couples k E R)

include h

/-- An error that does not blame the store is among those that are let through. -/
theorem admits_kind {e : Error} (he : e.kind ≠ .storage) : E e := h.admits (Or.inl he)

/-- So are the errors of a result that spares the store. -/
theorem admits_result {r : Result α} (hr : r.Spares) : ∀ e, r = .error e → E e :=
  fun e he => h.admits_kind (hr e he)

/-- The extractor of the caller may report what it likes. -/
theorem admits_extractor {doc : Document} {fields : FieldPath} :
    ∀ e, k.config.extractor doc fields = .error e → E e :=
  fun _ he => h.admits (Or.inr (Or.inl ⟨doc, fields, he⟩))

/-- A pure result runs in step if it spares the store. -/
theorem inStep_ofResult {r : Result α} (hr : r.Spares) :
    InStep R E (Action.ofResult r : SessionM σ α) (Action.ofResult r) :=
  fun _ _ hR => inStepAt_ofResult hR (h.admits_result hr)

/-- A refusal runs in step if it does not blame the store. -/
theorem inStep_throw {e : Error} (he : e.kind ≠ .storage) :
    InStep R E (throw e : SessionM σ α) (throw e) :=
  fun _ _ hR => inStepAt_throw hR (h.admits_kind he)

omit h in
/-- A value runs in step with itself. -/
theorem inStep_pure (a : α) : InStep R E (pure a : SessionM σ α) (pure a) :=
  fun _ _ hR => inStepAt_pure hR a

/-- A question leaves both sessions as they are. -/
theorem ask (hR : R s t) {x : SessionM σ α} {r : Result α} (hs : x.perform s = (r, s))
    (ht : x.perform t = (r, t)) (hr : r.Spares) : InStepAt R E x x s t :=
  ⟨r, s, t, hs, ht, hR, h.admits_result hr⟩

/-- An action on the store that keeps both sessions sound. -/
theorem onStore (hR : R s t) {x : StoreM α} {r r' : Result α} {v v' : View}
    (hs : Does (Session.onStore x) s r v) (ht : Does (Session.onStore x) t r' v')
    (hr : ∀ e, r = .error e → E e) :
    InStepAt R E (Session.onStore x) (Session.onStore x) s t := by
  obtain ⟨s', hs', hreach⟩ := hs
  obtain ⟨t', ht', hreach'⟩ := ht
  rw [perform_onStore] at hs' ht'
  obtain ⟨rfl, rfl⟩ := Prod.mk.inj hs'
  obtain ⟨-, rfl⟩ := Prod.mk.inj ht'
  have ha := h.agree hR
  have hresult : (x.perform t.store).1 = (x.perform s.store).1 := by rw [ha.store]
  have hstore : (x.perform s.store).2 = (x.perform t.store).2 := by rw [ha.store]
  exact ⟨_, _, _, perform_onStore x s, Prod.ext hresult rfl,
    h.quiet hR hreach.sound.quiet hreach'.sound.quiet hstore ha.clock ha.generator, hr⟩

/-! ### Records -/

/-- An action on the records that gives a value in every sound session. -/
theorem onRecords (x : MapRef RecordId → StoreM α)
    (hx : ∀ u : Session σ, u.Sound →
      ∃ a v, Does (Session.onStore (x u.collection.records)) u (.ok a) v) :
    InStep R E (Session.onStore (x k.records)) (Session.onStore (x k.records)) := by
  intro s t hR
  have ha := h.agree hR
  obtain ⟨a, v, hs⟩ := hx s ha.left
  obtain ⟨a', v', ht⟩ := hx t ha.right
  rw [ha.leftMatches.records] at hs
  rw [ha.rightMatches.records] at ht
  exact h.onStore hR hs ht nofun

/-- Storing a record. -/
theorem putRecord (id : RecordId) (doc : Document) :
    InStep R E (Session.onStore (k.records.put id doc)) (Session.onStore (k.records.put id doc)) :=
  h.onRecords (·.put id doc) fun _ hu => ⟨_, _, does_putRecord hu rfl id doc⟩

/-- Erasing a record. -/
theorem eraseRecord (id : RecordId) :
    InStep R E (Session.onStore (k.records.erase id)) (Session.onStore (k.records.erase id)) :=
  h.onRecords (·.erase id) fun _ hu => ⟨_, _, does_eraseRecord hu rfl id⟩

/-- Looking a record up. -/
theorem getRecord (id : RecordId) :
    InStep R E (Session.onStore (k.records.get? id)) (Session.onStore (k.records.get? id)) :=
  h.onRecords (·.get? id) fun _ hu => ⟨_, _, does_getRecord hu rfl id⟩

/-- Asking whether a record is there. -/
theorem containsRecord (id : RecordId) :
    InStep R E (Session.onStore (k.records.contains id))
      (Session.onStore (k.records.contains id)) :=
  h.onRecords (·.contains id) fun _ hu => ⟨_, _, does_containsRecord hu rfl id⟩

/-- Reading all records. -/
theorem readRecords :
    InStep R E (Session.onStore k.records.entries) (Session.onStore k.records.entries) :=
  h.onRecords (·.entries) fun _ hu => ⟨_, _, does_records hu⟩

/-- A new id is the same, since clock and generator are. -/
theorem newId : InStep R E (Collection.newId : SessionM σ RecordId) Collection.newId := by
  intro s t hR
  have ha := h.agree hR
  have hsound : ∀ u : Session σ, u.Sound → (Collection.newId.perform u).2.Sound :=
    fun u hu => { hu with }
  refine inStepAt_ok (a := s.nextId) rfl ?_ (h.quiet hR
    ⟨hsound s ha.left, rfl, rfl, rfl, rfl, rfl, rfl⟩
    ⟨hsound t ha.right, rfl, rfl, rfl, rfl, rfl, rfl⟩ ha.store ?_ ?_)
  · show (Except.ok t.nextId, _) = _
    rw [nextId, nextId, ha.clock, ha.generator]
    rfl
  · show s.clock + 1 = t.clock + 1
    rw [ha.clock]
  · show (s.collection.generator.issue (s.clock + 1)).2
      = (t.collection.generator.issue (t.clock + 1)).2
    rw [ha.clock, ha.generator]

/-! ### The catalog -/

/-- Whether an index is dirty is read off the metadata, which are the same. -/
theorem isDirty (fields : FieldPath) :
    InStep R E (onCatalog (Catalog.isDirty fields) : SessionM σ Bool)
      (onCatalog (Catalog.isDirty fields)) := by
  intro s t hR
  have ha := h.agree hR
  have ht := ha.right.perform_isDirty fields
  rw [← ha.metaEntries_eq] at ht
  exact h.ask hR (ha.left.perform_isDirty fields) ht (by simp)

/-- So is the descriptor of the index on some fields. -/
theorem find? (fields : FieldPath) :
    InStep R E (Indexing.find? fields : SessionM σ _) (Indexing.find? fields) := by
  intro s t hR
  have ha := h.agree hR
  have ht := ha.right.perform_descriptorOf? fields
  rw [← ha.metaEntries_eq] at ht
  exact h.ask hR (ha.left.perform_descriptorOf? fields) ht (by simp)

/-- Whether a build is running is read off the flags. -/
theorem isBuilding (fields : FieldPath) :
    InStep R E (Indexing.isBuilding fields : SessionM σ Bool) (Indexing.isBuilding fields) := by
  intro s t hR
  refine h.ask hR (perform_isBuilding s fields) ?_ (by simp)
  rw [perform_isBuilding]
  exact congrArg (fun b => (Except.ok b, t)) ((h.agree hR).isBuilding_eq fields).symm

/-- Listing the indexes fills the caches of the catalogs, which hold the same. -/
theorem list : InStep R E (Indexing.list : SessionM σ _) Indexing.list := by
  intro s t hR
  have ha := h.agree hR
  obtain ⟨cache, hcache, hs⟩ := ha.left.perform_descriptors
  obtain ⟨cache', hcache', ht⟩ := ha.right.perform_descriptors
  have hsame : t.view.indexes.map (·.descriptor) = s.view.indexes.map (·.descriptor) := by
    simp only [view, List.map_map, ha.metaEntries_eq, ha.store]
  rw [hsame] at ht
  exact inStepAt_ok hs ht (h.quiet hR (ha.left.reaches_cache cache hcache).sound.quiet
    (ha.right.reaches_cache cache' hcache').sound.quiet ha.store ha.clock ha.generator)

/-- Marking an index. -/
theorem setDirty (fields : FieldPath) (dirty : Bool) :
    InStep R E (onCatalog (Catalog.setDirty fields dirty) : SessionM σ Unit)
      (onCatalog (Catalog.setDirty fields dirty)) := by
  intro s t hR
  have ha := h.agree hR
  cases hget : SortedEntries.get? fields s.metaEntries with
  | none =>
    have hget' := ha.metaEntries_eq ▸ hget
    exact inStepAt_ok (ha.left.perform_setDirty_missing hget dirty)
      (ha.right.perform_setDirty_missing hget' dirty)
      (h.quiet hR (ha.left.reaches_cache none nofun).sound.quiet
        (ha.right.reaches_cache none nofun).sound.quiet ha.store ha.clock ha.generator)
  | some m =>
    have hget' := ha.metaEntries_eq ▸ hget
    have hsame : (s.withMetas (SortedEntries.insert fields { m with dirty } s.metaEntries)).store
        = (t.withMetas (SortedEntries.insert fields { m with dirty } t.metaEntries)).store := by
      rw [withMetas, withMetas, ha.store, ha.metaMap_eq, ha.metaEntries_eq]
    exact inStepAt_ok (ha.left.perform_setDirty hget dirty) (ha.right.perform_setDirty hget' dirty)
      (h.quiet hR (ha.left.reaches_setDirty hget dirty).sound.quiet
        (ha.right.reaches_setDirty hget' dirty).sound.quiet hsame ha.clock ha.generator)

/-- Registering an index. -/
theorem register (fields : FieldPath) (kind : IndexKind) :
    InStep R E (onCatalog (Catalog.create fields kind) : SessionM σ IndexMeta)
      (onCatalog (Catalog.create fields kind)) := by
  intro s t hR
  have ha := h.agree hR
  by_cases hrefused : (kind == .fullText && fields.isCompound) = true ∨
      ∃ m, SortedEntries.get? fields s.metaEntries = some m
  · have hrefused' := ha.metaEntries_eq ▸ hrefused
    refine h.ask hR (ha.left.perform_catalog_create_refused hrefused)
      (ha.right.perform_catalog_create_refused hrefused') ?_
    split <;> simp [Error.kind]
  · rw [not_or, not_exists, Bool.not_eq_true] at hrefused
    have hnew := Option.eq_none_iff_forall_ne_some.mpr hrefused.2
    have hnew' := ha.metaEntries_eq ▸ hnew
    obtain ⟨m, hm⟩ : ∃ m, m = IndexMeta.new ⟨kind, fields, s.collection.name⟩
        s.store.generation := ⟨_, rfl⟩
    have hm' : m = IndexMeta.new ⟨kind, fields, t.collection.name⟩ t.store.generation := by
      rw [hm, ha.name_eq, ha.store]
    have hd : m.descriptor.fields = fields := hm ▸ rfl
    -- both sessions write the same metadata to the same place
    have hsame : (s.withIndex m).store = (t.withIndex m).store := by
      rw [withIndex, withIndex, withMetas, withMetas, ha.store, ha.metaMap_eq, ha.metaEntries_eq]
    have hsound := (ha.left.reaches_withIndex (m := m) (hd ▸ hnew) (hm ▸ rfl)).sound
    have hsound' := (ha.right.reaches_withIndex (m := m) (hd ▸ hnew') (hm' ▸ rfl)).sound
    exact inStepAt_ok (ha.left.perform_catalog_create hrefused.1 hnew hm)
      (ha.right.perform_catalog_create hrefused.1 hnew' hm')
      (h.quiet hR ⟨hsound, rfl, rfl, rfl, rfl, rfl, rfl⟩ ⟨hsound', rfl, rfl, rfl, rfl, rfl, rfl⟩
        hsame ha.clock ha.generator)

/-! ### Handles -/

/-- The handle of a registered index is the same in both sessions, whether it is kept or opened
now, and leads to the index. -/
theorem handleOf (hR : R s t) {e : FieldPath × IndexMeta} (he : e ∈ s.metaEntries) :
    ∃ x s' t', (Indexing.handleOf e.2).perform s = (.ok x, s') ∧
      (Indexing.handleOf e.2).perform t = (.ok x, t') ∧ R s' t' ∧
      s'.Serves x e.2.descriptor ∧ s'.metaEntries = s.metaEntries := by
  have ha := h.agree hR
  have he' := ha.metaEntries_eq ▸ he
  obtain ⟨x, store, handles, hopen, hs⟩ := ha.left.perform_handleOf he
  obtain ⟨x', store', handles', hopen', ht⟩ := ha.right.perform_handleOf he'
  rw [← ha.store, ← ha.config_eq, hopen] at hopen'
  cases hopen'
  obtain ⟨y, s', hs', hreach, hmetas, hb⟩ := ha.left.handleOf he
  obtain ⟨y', t', ht', hreach', -⟩ := ha.right.handleOf he'
  cases hs.symm.trans hs'
  cases ht.symm.trans ht'
  exact ⟨x, _, _, hs, ht, h.quiet hR hreach.sound.quiet hreach'.sound.quiet rfl ha.clock
    ha.generator, ⟨e, hmetas ▸ he, rfl, hb⟩, hmetas⟩

/-- The handle of the index on the fields of a descriptor. -/
theorem handle_bind (hR : R s t) {d : IndexDescriptor} {f g : IndexHandle → SessionM σ β}
    (hf : ∀ x d' s' t', d'.fields = d.fields → R s' t' → s'.Serves x d' →
      InStepAt R E (f x) (g x) s' t') :
    InStepAt R E (Indexing.handle d >>= f) (Indexing.handle d >>= g) s t := by
  have ha := h.agree hR
  unfold Indexing.handle
  have hs := ha.left.perform_metaOf? d.fields
  have ht := ha.right.perform_metaOf? d.fields
  rw [← ha.metaEntries_eq] at ht
  cases hget : SortedEntries.get? d.fields s.metaEntries with
  | none =>
    rw [hget] at hs ht
    refine ⟨.error (.notIndexed d.fields), s, t, ?_, ?_, hR, h.admits_result (by simp [Error.kind])⟩
    · simp only [Action.perform_bind, hs, Action.perform_throw]
    · simp only [Action.perform_bind, ht, Action.perform_throw]
  | some m =>
    rw [hget] at hs ht
    have hmem := ha.left.get?_eq_some_iff.mp hget
    obtain ⟨x, s', t', hs', ht', hR', hx, -⟩ := h.handleOf hR hmem
    obtain ⟨r, s'', t'', hs'', ht'', hrest⟩ := hf x _ s' t' (ha.left.metasOwn _ hmem) hR' hx
    refine ⟨r, s'', t'', ?_, ?_, hrest⟩
    · simp only [Action.perform_bind, hs, hs', hs'']
    · simp only [Action.perform_bind, ht, ht', ht'']

/-- The handle of an index runs in step, whether it was kept or is opened now. -/
theorem handle (d : IndexDescriptor) :
    InStep R E (Indexing.handle d : SessionM σ IndexHandle) (Indexing.handle d) := by
  intro s t hR
  rw [← bind_pure (Indexing.handle d : SessionM σ IndexHandle)]
  exact h.handle_bind hR fun x _ _ _ _ hR' _ => inStepAt_pure hR' x

/-- An action through a handle that leads to an index, which is the same index in both sessions. -/
theorem onHandle (hR : R s t) {x : IndexHandle} {d : IndexDescriptor} (hx : s.Serves x d)
    {y : StoreM α} (hy : ∀ (u : Session σ) (i : IndexState), u.Sound → u.collection.Matches k →
      i ∈ u.view.indexes → i.descriptor = d → u.Serves x i.descriptor →
      ∃ r v, Does (Session.onStore y) u r v ∧ ∀ e, r = .error e → E e) :
    InStepAt R E (Session.onStore y) (Session.onStore y) s t := by
  have ha := h.agree hR
  have hx' := ha.serves hx
  obtain ⟨i, hi, hd⟩ := hx.exists_index
  obtain ⟨j, hj, hd'⟩ := hx'.exists_index
  obtain ⟨r, v, hs, hr⟩ := hy s i ha.left ha.leftMatches hi hd (hd ▸ hx)
  obtain ⟨r', v', ht, -⟩ := hy t j ha.right ha.rightMatches hj hd' (hd' ▸ hx')
  exact h.onStore hR hs ht hr

/-- Through a good handle, the entries of a record are written. -/
theorem write (hR : R s t) {x : IndexHandle} {d : IndexDescriptor} (hx : s.Serves x d)
    (vs : FieldValues) :
    InStepAt R E (Session.onStore (x.write vs)) (Session.onStore (x.write vs)) s t :=
  h.onHandle hR hx fun _ _ hu _ hi _ hxi =>
    ⟨_, _, does_write hu hi hxi vs, h.admits_result (Content.spares_write _ _ _ _)⟩

/-- Through a good handle, the entries of a record are erased. -/
theorem erase (hR : R s t) {x : IndexHandle} {d : IndexDescriptor} (hx : s.Serves x d)
    (vs : FieldValues) :
    InStepAt R E (Session.onStore (x.erase vs)) (Session.onStore (x.erase vs)) s t :=
  h.onHandle hR hx fun _ _ hu _ hi _ hxi =>
    ⟨_, _, does_erase hu hi hxi vs, h.admits_result (Content.spares_erase _ _ _ _)⟩

/-- Through a good handle, an index is cleared. -/
theorem clear (hR : R s t) {x : IndexHandle} {d : IndexDescriptor} (hx : s.Serves x d) :
    InStepAt R E (Session.onStore x.clear) (Session.onStore x.clear) s t :=
  h.onHandle hR hx fun _ _ hu _ hi _ hxi => ⟨_, _, does_clear hu hi hxi, nofun⟩

/-- Through a good handle, an index is scanned, which changes nothing. -/
theorem scan (hR : R s t) {x : IndexHandle} {d : IndexDescriptor} (hx : s.Serves x d)
    (order : ScanOrder) (conditions : List Comparison) :
    InStepAt R E (Session.onStore (x.scan order conditions))
      (Session.onStore (x.scan order conditions)) s t :=
  h.onHandle hR hx fun u _ hu _ hi _ hxi =>
    ⟨_, _, ⟨u, perform_scan hu hi hxi order conditions, Reaches.refl hu⟩,
      h.admits_result (Content.spares_scan _ _ _ _ _)⟩

/-- Through any handle, entries are taken back. Nothing is known of the errors then. -/
theorem takeBack (hR : R s t) (x : IndexHandle) (vs : FieldValues) :
    InStepAt R (fun _ => True) (Session.onStore (x.erase vs)) (Session.onStore (x.erase vs))
      s t := by
  have ha := h.agree hR
  rw [IndexHandle.erase_eq_change]
  have hstore : ∀ u : StoreM Unit, (u.perform s.store).2 = (u.perform t.store).2 := by
    intro u
    rw [ha.store]
  refine ⟨_, _, _, perform_onStore _ s, Prod.ext ?_ rfl,
    h.quiet hR (ha.left.sound_change x vs _ _).quiet (ha.right.sound_change x vs _ _).quiet
      (hstore _) ha.clock ha.generator, fun _ _ => trivial⟩
  rw [perform_onStore, ha.store]

/-! ### Drops -/

/-- Dropping an index. No flag of its fields is held then, so no flag is forgotten. -/
theorem drop (fields : FieldPath) :
    InStep R E (Indexing.drop fields : SessionM σ Unit) (Indexing.drop fields) := by
  intro s t hR
  have ha := h.agree hR
  have hflag : t.view.isBuilding fields = s.view.isBuilding fields := (ha.isBuilding_eq fields).symm
  cases hheld : s.view.isBuilding fields with
  | true =>
    exact h.ask hR (perform_drop_held hheld) (perform_drop_held (hflag.trans hheld))
      (by simp [Error.kind])
  | false =>
    have hheld' := hflag.trans hheld
    cases hget : SortedEntries.get? fields s.metaEntries with
    | none =>
      have hget' := ha.metaEntries_eq ▸ hget
      exact h.ask hR (ha.left.perform_drop_missing hheld hget)
        (ha.right.perform_drop_missing hheld' hget') (by simp [Error.kind])
    | some m =>
      have hget' := ha.metaEntries_eq ▸ hget
      have hmem := ha.left.get?_eq_some_iff.mp hget
      have hmem' := ha.right.get?_eq_some_iff.mp hget'
      have hfields : m.descriptor.fields = fields := ha.left.metasOwn _ hmem
      -- no flag is held on the fields, so none is forgotten
      have hforget : ∀ u : Session σ, u.view.isBuilding fields = false →
          (u.withoutIndex m).collection.builds = u.collection.builds := by
        intro u hfree
        have hkept := filter_held_of_free hfree
        rw [← hfields] at hkept
        exact congrArg (fun held => { u.collection.builds with held }) hkept
      have hsame : (s.withoutIndex m).store = (t.withoutIndex m).store := by
        rw [withoutIndex, withoutIndex, ha.store, ha.metaMap_eq, ha.metaEntries_eq]
      exact inStepAt_ok (ha.left.perform_drop hheld hget) (ha.right.perform_drop hheld' hget')
        (h.quiet hR ⟨ha.left.sound_withoutIndex hmem, hforget s hheld, rfl, rfl, rfl, rfl, rfl⟩
          ⟨ha.right.sound_withoutIndex hmem', hforget t hheld', rfl, rfl, rfl, rfl, rfl⟩ hsame
          ha.clock ha.generator)

/-- The handles of several indexes, one after the other. Opening one leaves the metadata of the
others as they are. -/
theorem handlesOf (hR : R s t) {es : List (FieldPath × IndexMeta)}
    (hes : ∀ e ∈ es, e ∈ s.metaEntries) :
    InStepAt R E ((es.map (·.2)).mapM Indexing.handleOf) ((es.map (·.2)).mapM Indexing.handleOf)
      s t := by
  induction es generalizing s t with
  | nil => exact inStepAt_pure hR []
  | cons e es ih =>
    rw [List.forall_mem_cons] at hes
    rw [List.map_cons, List.mapM_cons]
    obtain ⟨x, s₁, t₁, hs₁, ht₁, hR₁, -, hmetas⟩ := h.handleOf hR hes.1
    refine InStepAt.bind (inStepAt_ok hs₁ ht₁ hR₁) fun y s₂ t₂ hs₂ ht₂ hR₂ => ?_
    cases hs₁.symm.trans hs₂
    cases ht₁.symm.trans ht₂
    refine (ih hR₁ fun e' he' => hmetas ▸ hes.2 e' he').bind fun xs s₃ t₃ _ _ hR₃ => ?_
    exact inStepAt_pure hR₃ _

/-- Dropping all indexes. Their handles are opened first, which may create maps. -/
theorem dropAll : InStep R E (Indexing.dropAll : SessionM σ Unit) Indexing.dropAll := by
  intro s t hR
  have ha := h.agree hR
  by_cases hnone : s.view.held = []
  · have hnone' : t.view.held = [] := by
      have hflags : t.view.held.map (·.1) = [] := by
        rw [← List.map_nil, ← hnone]
        exact ha.flags.symm
      exact List.map_eq_nil_iff.mp hflags
    obtain ⟨xs, s₁, hs₁, hreach, hs⟩ := ha.left.perform_dropAll hnone
    obtain ⟨xs', t₁, ht₁, hreach', ht⟩ := ha.right.perform_dropAll hnone'
    obtain ⟨r, s₂, t₂, hs₂, ht₂, hR₁, -⟩ := h.handlesOf hR fun e he => he
    rw [← ha.metaEntries_eq] at ht₁
    cases hs₁.symm.trans hs₂
    cases ht₁.symm.trans ht₂
    have ha₁ := h.agree hR₁
    -- no flag is held at all, so none is forgotten
    have hforget : ∀ u : Session σ, u.view.held = [] →
        u.withoutIndexes.collection.builds = u.collection.builds := by
      intro u hu
      exact congrArg (fun held => { u.collection.builds with held }) hu.symm
    have hsame : s₁.withoutIndexes.store = t₁.withoutIndexes.store := by
      rw [withoutIndexes, withoutIndexes, ha₁.store, ha₁.metaMap_eq, ha₁.metaEntries_eq,
        ha₁.name_eq]
    have hheld : s₁.view.held = [] := by rw [hreach.view, hnone]
    have hheld' : t₁.view.held = [] := by rw [hreach'.view, hnone']
    exact inStepAt_ok hs ht
      (h.quiet hR₁ ⟨hreach.sound.sound_withoutIndexes, hforget s₁ hheld, rfl, rfl, rfl, rfl, rfl⟩
        ⟨hreach'.sound.sound_withoutIndexes, hforget t₁ hheld', rfl, rfl, rfl, rfl, rfl⟩ hsame
        ha₁.clock ha₁.generator)
  · have hheld' : t.view.held ≠ [] := by
      intro hnone'
      have hflags : s.view.held.map (·.1) = [] := by
        rw [← List.map_nil, ← hnone']
        exact ha.flags
      exact hnone (List.map_eq_nil_iff.mp hflags)
    exact h.ask hR (perform_dropAll_held hnone) (perform_dropAll_held hheld') (by simp [Error.kind])

/-! ### Filling an index -/

/-- The values of an index's fields in a document. -/
theorem valuesOf_bind (hR : R s t) {doc : Document} {fields : FieldPath}
    {f g : FieldValues → SessionM σ β} (hf : ∀ vs, InStepAt R E (f vs) (g vs) s t) :
    InStepAt R E (Indexing.valuesOf doc fields >>= f) (Indexing.valuesOf doc fields >>= g) s t := by
  have ha := h.agree hR
  have hs : (Indexing.valuesOf doc fields).perform s = (k.config.extractor doc fields, s) := by
    rw [← ha.leftMatches.config]
    rfl
  have ht : (Indexing.valuesOf doc fields).perform t = (k.config.extractor doc fields, t) := by
    rw [← ha.rightMatches.config]
    rfl
  refine InStepAt.bind ⟨_, s, t, hs, ht, hR, h.admits_extractor⟩ fun vs s' t' hs' ht' _ => ?_
  obtain rfl : s = s' := (Prod.mk.inj (hs.symm.trans hs')).2
  obtain rfl : t = t' := (Prod.mk.inj (ht.symm.trans ht')).2
  exact hf vs

/-- Writing documents through a good handle. -/
theorem writeAll (hR : R s t) {x : IndexHandle} {d : IndexDescriptor} (hx : s.Serves x d)
    (docs : List Document) :
    InStepAt R E (Session.onStore (Indexing.writeAll k.config.extractor x d.fields docs))
      (Session.onStore (Indexing.writeAll k.config.extractor x d.fields docs)) s t := by
  refine h.onHandle hR hx fun u i hu hmatches hi hd hxi => ?_
  have hconfig : u.view.config = k.config := hmatches.config
  have hwrite := does_writeAll hu hi hxi docs
  rw [hconfig, hd] at hwrite
  refine ⟨_, _, hwrite, fun e he => ?_⟩
  rcases IndexState.addAll_error he with hkind | ⟨doc, fields, hextract⟩
  · exact h.admits_kind hkind
  · exact h.admits_extractor e hextract

/-- The last part of a build. -/
theorem complete (hR : R s t) {x : IndexHandle} {d : IndexDescriptor} (hx : s.Serves x d) :
    InStepAt R E (do
        let c ← here
        let entries ← Session.onStore c.records.entries
        Session.onStore (Indexing.writeAll c.config.extractor x d.fields (entries.map (·.2)))
        onCatalog (Catalog.endBuild d.fields))
      (do
        let c ← here
        let entries ← Session.onStore c.records.entries
        Session.onStore (Indexing.writeAll c.config.extractor x d.fields (entries.map (·.2)))
        onCatalog (Catalog.endBuild d.fields)) s t := by
  have ha := h.agree hR
  refine InStepAt.here_bind ?_
  rw [ha.leftMatches.records, ha.leftMatches.config, ha.rightMatches.records,
    ha.rightMatches.config]
  refine (h.readRecords s t hR).bind fun es s₁ t₁ hs₁ _ hR₁ => ?_
  have hread := does_records ha.left
  rw [ha.leftMatches.records] at hread
  refine (h.writeAll hR₁ ((hread.elim hs₁).2.serves _ _ hx) _).bind fun _ s₂ t₂ _ _ hR₂ => ?_
  exact h.setDirty d.fields false s₂ t₂ hR₂

/-- A build of an index, from the mark that it begins to the mark that it ends. -/
theorem fill (d : IndexDescriptor) (rebuild : Bool) :
    InStep R E (Indexing.fill d rebuild : SessionM σ Unit) (Indexing.fill d rebuild) := by
  intro s t hR
  unfold Indexing.fill
  refine (h.setDirty d.fields true s t hR).bind fun _ s₁ t₁ _ _ hR₁ => ?_
  refine h.handle_bind hR₁ fun x d' s₂ t₂ hfields hR₂ hx => ?_
  rw [← hfields]
  cases rebuild with
  | false => exact h.complete hR₂ hx
  | true =>
    refine (h.clear hR₂ hx).bind fun _ s₃ t₃ hs₃ _ hR₃ => h.complete hR₃ ?_
    -- the handle still leads to the index when that has been emptied
    obtain ⟨i, hi, rfl⟩ := hx.exists_index
    exact ((does_clear (h.agree hR₂).left hi hx).elim hs₃).2.serves _ _ hx

end Couples

/-! ### Quiet steps alone -/

/-- Sessions that agree, each of which came by quiet steps of another one. -/
structure AgreeSince (k : Collection) (s₀ t₀ s t : Session σ) : Prop extends Agree k s t where
  leftQuiet : Quiet s₀ s
  rightQuiet : Quiet t₀ t

/-- Sessions that agree have agreed since they were what they are. -/
theorem Agree.since {k : Collection} {s t : Session σ} (h : Agree k s t) : AgreeSince k s t s t :=
  ⟨h, Quiet.refl h.left, Quiet.refl h.right⟩

/-- Sessions that agree still do so after quiet steps to one store. -/
theorem Agree.quiet {k : Collection} {s t s' t' : Session σ} (h : Agree k s t) (hs : Quiet s s')
    (ht : Quiet t t') (hstore : s'.store = t'.store) (hclock : s'.clock = t'.clock)
    (hgenerator : s'.collection.generator = t'.collection.generator) : Agree k s' t' where
  left := hs.sound
  right := ht.sound
  store := hstore
  clock := hclock
  generator := hgenerator
  flags := by
    rw [hs.builds, ht.builds]
    exact h.flags
  leftMatches := hs.unaltered.trans h.leftMatches
  rightMatches := ht.unaltered.trans h.rightMatches

/-- What runs in step under every relation that quiet steps keep is itself made of quiet steps. -/
theorem couples_since (k : Collection) (s₀ t₀ : Session σ) :
    Couples k k.Admits (AgreeSince k s₀ t₀) where
  agree h := h.toAgree
  quiet h hs ht hstore hclock hgenerator :=
    ⟨h.toAgree.quiet hs ht hstore hclock hgenerator, h.leftQuiet.trans hs, h.rightQuiet.trans ht⟩
  admits he := he

end Session

end DocumentDb
