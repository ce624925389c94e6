import DocumentDb.Proofs.FailedWrites
import DocumentDb.Proofs.Requests
import Mathlib.Logic.Relation

/-!
# `DocumentDb.Proofs.BuildLifecycle`: flags, marks and announcements of builds

Builds begin in two places: an index is created, or an index that is there is built because a
rebuild, a query or a write asks for it. `Build` is what is true of every build that has taken its
flag, whether it comes to its end or fails: one announcement of the start while the flag is held,
one of the end when the flag is free again, the mark of the index in between, and nothing done to
the records and to other indexes.

An operation is a sequence of steps (`Step`). In a quiet step no flag is taken and nothing is
announced; the others are builds, and creations that the catalog refuses once the flag is theirs.
`simulation` says so of all requests at once: being reached by such steps is kept by quiet steps and
by builds, so `Simulation.request` applies. `build_lifecycle` collects what follows for a session.
-/

set_option autoImplicit false

namespace DocumentDb

open Relation (ReflTransGen)

/-! ### Listeners that only observe -/

/-- Whether a listener changes its own state only. -/
def Listener.Observes {σ : Type} (L : Listener σ) : Prop :=
  ∀ event s, ∃ observer, L event s = { s with observer }

/-- The listener that writes down what it is told. -/
def Listener.log : Listener (List IndexEvent) :=
  fun event s => { s with observer := s.observer ++ [event] }

/-- To do nothing is to observe. -/
theorem Listener.observes_silent {σ : Type} : (Listener.silent : Listener σ).Observes :=
  fun _ s => ⟨s.observer, rfl⟩

/-- To write down what one is told is to observe. -/
theorem Listener.observes_log : Listener.log.Observes := fun event s => ⟨s.observer ++ [event], rfl⟩

namespace Session

variable {σ : Type} {L : Listener σ} {k : Collection} {s t s' u w taken done : Session σ}
  {d : IndexDescriptor} {fields : FieldPath} {r : Result Unit}

/-- A session is sound whatever its observer has written down. -/
theorem Sound.observed {τ : Type} (h : s.Sound) (observer : τ) :
    (⟨s.store, s.clock, s.collection, observer⟩ : Session τ).Sound := { h with }

section observes

variable (hL : L.Observes) (event : IndexEvent)

include hL

/-- An observer leaves the collection alone. -/
theorem collection_heard (s : Session σ) : (L event s).collection = s.collection := by
  obtain ⟨observer, heq⟩ := hL event s
  rw [heq]

/-- So the collection shows the same as before. -/
theorem view_heard (s : Session σ) : (L event s).view = s.view := by
  obtain ⟨observer, heq⟩ := hL event s
  rw [heq]
  rfl

/-- A session stays sound when its observer is told of an event. -/
theorem Sound.heard (h : s.Sound) : (L event s).Sound := by
  obtain ⟨observer, heq⟩ := hL event s
  rw [heq]
  exact { h with }

/-- What an observer is told makes no difference to its collection. -/
theorem Agree.heard (h : Agree k s t) : Agree k (L event s) (L event t) := by
  have hleft := h.left.heard hL event
  have hright := h.right.heard hL event
  obtain ⟨observer, heq⟩ := hL event s
  obtain ⟨observer', heq'⟩ := hL event t
  rw [heq] at hleft ⊢
  rw [heq'] at hright ⊢
  exact { h with left := hleft, right := hright }

end observes

/-! ### What a build leaves alone -/

/-- A change that leaves the records and the indexes on other fields as they are. -/
structure Confined (fields : FieldPath) (s s' : Session σ) : Prop where
  records : s'.view.records = s.view.records
  others : ∀ i : IndexState, i.descriptor.fields ≠ fields →
    (i ∈ s'.view.indexes ↔ i ∈ s.view.indexes)

/-- What changes nothing that shows is confined to any fields. -/
theorem Confined.of_view_eq (h : s'.view = s.view) : Confined fields s s' :=
  ⟨by rw [h], fun i _ => by rw [h]⟩

/-- The walk of a build that ends with a result: the index on its fields is there if it was there
before, and it is dirty if and only if the build has failed. -/
structure Fills (fields : FieldPath) (r : Result Unit) (s s' : Session σ) : Prop
    extends Confined fields s s' where
  descriptors : s'.view.indexes.map (·.descriptor) = s.view.indexes.map (·.descriptor)
  marked : ∀ i ∈ s'.view.indexes, i.descriptor.fields = fields →
    (i.dirty = true ↔ ∃ e, r = .error e)

/-- The fields of an index are all that its build goes by. -/
theorem fill_congr {d' : IndexDescriptor} (hfields : d.fields = d'.fields) (rebuild : Bool) :
    (Indexing.fill d rebuild : SessionM σ Unit) = Indexing.fill d' rebuild := by
  unfold Indexing.fill Indexing.handle
  rw [hfields]

/-- Replacing the index on some fields by what a build of it has made. -/
theorem fills_put (h : s.Sound) {i i' : IndexState} (hi : i ∈ s.view.indexes)
    (hd : i'.descriptor = i.descriptor) (hdirty : i'.dirty = true ↔ ∃ e, r = .error e)
    (hview : s'.view = s.view.put i') : Fills i.descriptor.fields r s s' where
  records := by rw [hview, View.put_records]
  others j hj := by
    rw [hview, View.mem_put_of_ne (by rwa [hd])]
  descriptors := by
    rw [hview]
    exact View.put_descriptors h.nodup_fields hi hd
  marked j hj hfields := by
    rw [hview] at hj
    rw [View.eq_of_mem_put hj (by rw [hfields, hd]), hdirty]

/-- A build of an index on fields that have none fails, and changes nothing to be seen. -/
theorem Sound.perform_fill_missing (h : s.Sound)
    (hget : SortedEntries.get? d.fields s.metaEntries = none) (rebuild : Bool) :
    ∃ s', (Indexing.fill d rebuild).perform s = (.error (.notIndexed d.fields), s') ∧
      s'.view = s.view := by
  have hreach := h.reaches_cache none nofun
  refine ⟨_, ?_, hreach.view⟩
  have hmissing := hreach.sound.perform_metaOf? d.fields
  change _ = (Except.ok (SortedEntries.get? d.fields s.metaEntries), _) at hmissing
  rw [hget] at hmissing
  unfold Indexing.fill Indexing.handle Catalog.beginBuild
  simp only [Action.perform_bind, h.perform_setDirty_missing hget true, hmissing,
    Action.perform_throw]

/-- The walk of a build is confined to the fields of its index, and the mark of that index tells how
it has ended. -/
theorem Sound.fills (h : s.Sound) {rebuild : Bool}
    (hrun : (Indexing.fill d rebuild).perform s = (r, s')) : Fills d.fields r s s' := by
  cases hget : SortedEntries.get? d.fields s.metaEntries with
  | none =>
    -- there is no index on the fields that could be marked
    obtain ⟨s'', hs'', hview⟩ := h.perform_fill_missing hget rebuild
    rw [hrun] at hs''
    obtain ⟨rfl, rfl⟩ := Prod.mk.inj hs''
    have hno := h.get?_eq_none_iff.mp hget
    refine ⟨Confined.of_view_eq hview, by rw [hview], fun i hi hfields => ?_⟩
    rw [hview] at hi
    exact absurd hfields (hno i hi)
  | some m =>
    have hmem := h.get?_eq_some_iff.mp hget
    have hi : m.state s.store ∈ s.view.indexes := Sound.mem_indexes.mpr ⟨_, hmem, rfl⟩
    have hfields : d.fields = (m.state s.store).descriptor.fields := (h.metasOwn _ hmem).symm
    rw [fill_congr hfields] at hrun
    obtain ⟨rfl, hreach⟩ := (does_fill h hi rebuild).elim hrun
    rw [hfields]
    refine fills_put h hi (IndexState.fill_descriptor _ _ _ _) ?_ hreach.view
    -- the mark that the walk began with is taken away at its end only
    rcases hfill : (IndexState.fill s.view.config s.view.documents rebuild).perform
      (m.state s.store) with ⟨e | u, i'⟩
    · simp [IndexState.dirty_of_fill_error hfill]
    · simp [IndexState.fill_dirty hfill]

/-! ### A build -/

/-- A build of the index with a descriptor, from before its flag is taken. `taken` is the session
that the listener is told of the start in, and `done` the one that it is told of the end in. -/
structure Build (L : Listener σ) (d : IndexDescriptor) (r : Result Unit)
    (s taken done s' : Session σ) : Prop where
  /-- The flag is obtained, and the build that holds it ends with the result. -/
  begun : ∃ guard rebuild,
    s.collection.builds.tryBegin d.fields = some (guard, taken.collection.builds) ∧
      (Indexing.buildHolding L guard d rebuild).perform taken = (r, s')
  /-- Nothing is announced before the start. -/
  unheard : taken.observer = s.observer
  /-- The start is announced, and nothing else before the end. -/
  started : done.observer = (L (.buildStart d.fields) taken).observer
  /-- The flag is free again before the end is announced. -/
  freed : done.view.held = s.view.held
  /-- The end is announced, and that is the end. -/
  ended : s' = L (.buildEnd d.fields) done
  before : Confined d.fields s taken
  fills : Fills d.fields r taken done
  sound : s'.Sound

/-- The flag of a build was free before. -/
theorem Build.free (h : Build L d r s taken done s') : s.view.isBuilding d.fields = false := by
  obtain ⟨guard, rebuild, hbegin, -⟩ := h.begun
  cases hheld : s.view.isBuilding d.fields with
  | false => rfl
  | true =>
    have hnone : s.collection.builds.tryBegin d.fields = none := if_pos hheld
    rw [hnone] at hbegin
    cases hbegin

/-- A build of an index that is there by its start, when it has ended: the records, the flags and
the indexes on other fields are those of before, and the index is dirty if and only if the build has
failed. -/
theorem Build.settled (hL : L.Observes) (h : Build L d r s taken done s')
    (hthere : d ∈ taken.view.indexes.map (·.descriptor)) :
    s'.view.records = s.view.records ∧ s'.view.held = s.view.held ∧
      (∀ i : IndexState, i.descriptor.fields ≠ d.fields →
        (i ∈ s'.view.indexes ↔ i ∈ s.view.indexes)) ∧
      ∃ j ∈ s'.view.indexes, j.descriptor = d ∧ (j.dirty = true ↔ ∃ e, r = .error e) := by
  rw [h.ended, view_heard hL]
  rw [← h.fills.descriptors] at hthere
  obtain ⟨j, hj, hd⟩ := List.mem_map.mp hthere
  exact ⟨h.fills.records.trans h.before.records, h.freed,
    fun i hi => (h.fills.others i hi).trans (h.before.others i hi),
    j, hj, hd, h.fills.marked j hj (congrArg _ hd)⟩

/-- What happens in an operation: no build begins or ends, or an index is built, or the catalog
refuses a new index when the flag of its fields has been taken already. -/
inductive Step (L : Listener σ) : Session σ → Session σ → Prop
  | quiet {s s' : Session σ} (h : Quiet s s') : Step L s s'
  | built {d : IndexDescriptor} {r : Result Unit} {s taken done s' : Session σ}
      (h : Build L d r s taken done s') : Step L s s'
  | refused {s : Session σ} {fields : FieldPath} {kind : IndexKind}
      (hfree : s.view.isBuilding fields = false) (hnot : ¬ s.view.Registrable fields kind) :
      Step L s (Indexing.released ⟨s.collection.builds.issued⟩ (s.flagged fields))

/-- Releasing the guard that was given last. -/
theorem held_released_flagged (h : s.Sound)
    (hu : u.collection.builds = (s.flagged fields).collection.builds) :
    (Indexing.released ⟨s.collection.builds.issued⟩ u).view.held = s.view.held := by
  show u.collection.builds.held.filter _ = _
  rw [hu]
  exact filter_held _ _ h.guard_new

/-- After every step the flags are held that were held before it. -/
theorem Step.kept (hL : L.Observes) (h : s.Sound) (hstep : Step L s s') :
    s'.Sound ∧ s'.view.held = s.view.held := by
  cases hstep with
  | quiet hquiet => exact ⟨hquiet.sound, congrArg Builds.held hquiet.builds⟩
  | built hbuild =>
    refine ⟨hbuild.sound, ?_⟩
    rw [hbuild.ended, view_heard hL]
    exact hbuild.freed
  | refused hfree hnot =>
    exact ⟨((h.reaches_flagged _).sound.reaches_released _).sound, held_released_flagged h rfl⟩

/-- Nor do several steps in turn change which flags are held. -/
theorem held_of_steps (hL : L.Observes) (h : s.Sound) (hsteps : ReflTransGen (Step L) s s') :
    s'.Sound ∧ s'.view.held = s.view.held := by
  induction hsteps with
  | refl => exact ⟨h, rfl⟩
  | tail _ hstep ih =>
    obtain ⟨hsound, hheld⟩ := hstep.kept hL ih.1
    exact ⟨hsound, hheld.trans ih.2⟩

/-- What a build leaves in a log. -/
theorem Build.log {s taken done s' : Session (List IndexEvent)}
    (h : Build Listener.log d r s taken done s') :
    s'.observer = s.observer ++ [.buildStart d.fields, .buildEnd d.fields] := by
  rw [h.ended]
  show done.observer ++ _ = _
  rw [h.started]
  show (taken.observer ++ _) ++ _ = _
  rw [h.unheard, List.append_assoc]
  rfl

/-- In the log of an operation every start is followed by its end: no build begins within another
one. -/
theorem log_of_steps {s s' : Session (List IndexEvent)}
    (hsteps : ReflTransGen (Step Listener.log) s s') :
    ∃ fs : List FieldPath,
      s'.observer = s.observer ++ fs.flatMap fun f => [.buildStart f, .buildEnd f] := by
  induction hsteps with
  | refl => exact ⟨[], (List.append_nil _).symm⟩
  | tail _ hstep ih =>
    obtain ⟨fs, hfs⟩ := ih
    -- only a build adds to the log, and it adds a pair
    cases hstep with
    | quiet hquiet => exact ⟨fs, hquiet.observer.trans hfs⟩
    | @built d _ _ _ _ _ hbuild =>
      refine ⟨fs ++ [d.fields], ?_⟩
      rw [hbuild.log, hfs, List.append_assoc, List.flatMap_append]
      rfl
    | refused => exact ⟨fs, hfs⟩

/-! ### Builds in step -/

/-- The last thing a build does to the flags. -/
theorem Agree.released (h : Agree k s t) {guard guard' : Guard} (hu : Agree k u w)
    (hleft : (Indexing.released guard u).view.held = s.view.held)
    (hright : (Indexing.released guard' w).view.held = t.view.held) :
    Agree k (Indexing.released guard u) (Indexing.released guard' w) where
  left := (hu.left.reaches_released guard).sound
  right := (hu.right.reaches_released guard').sound
  store := hu.store
  clock := hu.clock
  generator := hu.generator
  flags := by
    show (Indexing.released guard u).view.held.map _ = (Indexing.released guard' w).view.held.map _
    rw [hleft, hright]
    exact h.flags
  leftMatches := hu.leftMatches.withBuilds _
  rightMatches := hu.rightMatches.withBuilds _

/-- Sessions that agree do so when the same flag is taken in both. -/
theorem Agree.flagged (h : Agree k s t) (fields : FieldPath) :
    Agree k (s.flagged fields) (t.flagged fields) where
  left := (h.left.reaches_flagged fields).sound
  right := (h.right.reaches_flagged fields).sound
  store := h.store
  clock := h.clock
  generator := h.generator
  flags := by
    show (s.collection.builds.held ++ _).map _ = (t.collection.builds.held ++ _).map _
    rw [List.map_append, List.map_append, h.flags]
    rfl
  leftMatches := h.leftMatches.withBuilds _
  rightMatches := h.rightMatches.withBuilds _

/-- A build that holds its flag runs in step. -/
theorem Agree.buildHolding (hL : L.Observes) (h : Agree k s t)
    (hfree : s.view.isBuilding d.fields = false)
    (hu : u.collection.builds = (s.flagged d.fields).collection.builds)
    (hw : w.collection.builds = (t.flagged d.fields).collection.builds)
    (hunheard : u.observer = s.observer) (hbefore : Confined d.fields s u) (huw : Agree k u w)
    (rebuild : Bool) :
    ∃ r s' t' done,
      (Indexing.buildHolding L ⟨s.collection.builds.issued⟩ d rebuild).perform u = (r, s') ∧
      (Indexing.buildHolding L ⟨t.collection.builds.issued⟩ d rebuild).perform w = (r, t') ∧
      Agree k s' t' ∧ Build L d r s u done s' ∧ ∀ e, r = .error e → k.Admits e := by
  have hstarted := huw.heard hL (.buildStart d.fields)
  obtain ⟨r, u', w', hu', hw', hfilled, herror⟩ :=
    (couples_since k _ _).fill d rebuild _ _ hstarted.since
  have hfills := hstarted.left.fills hu'
  -- the walk is made of quiet steps, so the flags after it are those that were taken
  have hbuilds : u'.collection.builds = (s.flagged d.fields).collection.builds := by
    rw [hfilled.leftQuiet.builds, collection_heard hL, hu]
  have hbuilds' : w'.collection.builds = (t.flagged d.fields).collection.builds := by
    rw [hfilled.rightQuiet.builds, collection_heard hL, hw]
  have hheld := held_released_flagged h.left hbuilds
  have hfreed := h.released hfilled.toAgree hheld (held_released_flagged h.right hbuilds')
  have hended := hfreed.heard hL (.buildEnd d.fields)
  have hrun := perform_buildHolding hu' ⟨s.collection.builds.issued⟩
  refine ⟨r, _, _, Indexing.released ⟨s.collection.builds.issued⟩ u', hrun,
    perform_buildHolding hw' _, hended, ?_, herror⟩
  exact {
    begun := ⟨_, rebuild, hu ▸ tryBegin_of_free hfree, hrun⟩
    unheard := hunheard
    started := hfilled.leftQuiet.observer
    freed := hheld
    ended := rfl
    before := hbefore
    fills := {
      records := hfills.records.trans (by rw [view_heard hL])
      others := fun i hi => (hfills.others i hi).trans (by rw [view_heard hL])
      descriptors := hfills.descriptors.trans (by rw [view_heard hL])
      marked := hfills.marked }
    sound := hended.left }

/-- An attempt to build an index whose flag is held does nothing. -/
theorem perform_tryBuild_held (hheld : s.view.isBuilding d.fields = true) (rebuild : Bool) :
    (Indexing.tryBuild L d rebuild).perform s = (.ok false, s) := by
  unfold Indexing.tryBuild
  rw [Action.perform_bind, perform_tryBegin_held hheld]
  rfl

/-- An attempt whose flag is free is a build. -/
theorem perform_tryBuild_free {rebuild : Bool} (hfree : s.view.isBuilding d.fields = false)
    (hrun : (Indexing.buildHolding L ⟨s.collection.builds.issued⟩ d rebuild).perform
      (s.flagged d.fields) = (r, s')) :
    (Indexing.tryBuild L d rebuild).perform s = (r.map fun _ => true, s') := by
  unfold Indexing.tryBuild
  simp only [Action.perform_bind, perform_tryBegin_free hfree, hrun]
  cases r <;> rfl

/-- A flag that is free in one session is free in the other one. -/
theorem Agree.free (h : Agree k s t) (hfree : s.view.isBuilding fields = false) :
    t.view.isBuilding fields = false := (h.isBuilding_eq fields).symm.trans hfree

/-- An attempt whose flag is free is a build in both sessions, with one outcome. -/
theorem Agree.tryBuild (hL : L.Observes) (h : Agree k s t)
    (hfree : s.view.isBuilding d.fields = false) (rebuild : Bool) :
    ∃ r s' t' done,
      (Indexing.tryBuild L d rebuild).perform s = (r.map fun _ => true, s') ∧
      (Indexing.tryBuild L d rebuild).perform t = (r.map fun _ => true, t') ∧
      Agree k s' t' ∧ Build L d r s (s.flagged d.fields) done s' ∧
      ∀ e, r = .error e → k.Admits e := by
  obtain ⟨r, s', t', done, hs', ht', hrest⟩ := h.buildHolding hL hfree rfl rfl rfl
    ⟨rfl, fun _ _ => Iff.rfl⟩ (h.flagged d.fields) rebuild
  exact ⟨r, s', t', done, perform_tryBuild_free hfree hs', perform_tryBuild_free (h.free hfree) ht',
    hrest⟩

/-! ### Creations -/

/-- A new index that the catalog refuses leaves no trace there. -/
theorem Sound.catalog_create_error (h : s.Sound) {kind : IndexKind} {e : Error}
    (hrun : (onCatalog (Catalog.create fields kind)).perform s = (.error e, s')) :
    s' = s ∧ ¬ s.view.Registrable fields kind := by
  rcases does_catalog_create h fields kind with ⟨hnot, -⟩ | ⟨m, before, after, -, -, hmade⟩
  · obtain ⟨e', he'⟩ := h.perform_catalog_create_not hnot
    rw [hrun] at he'
    exact ⟨(Prod.mk.inj he').2, hnot⟩
  · exact absurd (hmade.elim hrun).1 nofun

/-- A new index that is registered comes beside the indexes that are there. -/
theorem Sound.catalog_create_ok (h : s.Sound) {kind : IndexKind} {m : IndexMeta}
    (hrun : (onCatalog (Catalog.create fields kind)).perform s = (.ok m, s')) :
    m.descriptor = ⟨kind, fields, s.view.name⟩ ∧ Confined fields s s' ∧
      m.descriptor ∈ s'.view.indexes.map (·.descriptor) := by
  rcases does_catalog_create h fields kind with ⟨-, e, hrefused⟩ |
    ⟨m', before, after, hd, hindexes, hmade⟩
  · exact absurd (hrefused.elim hrun).1 nofun
  · obtain ⟨heq, hreach⟩ := hmade.elim hrun
    obtain rfl := Except.ok.inj heq
    refine ⟨hd, ⟨by rw [hreach.view], fun i hi => ?_⟩, ?_⟩
    · rw [hreach.view, hindexes]
      simp only [List.mem_append, List.mem_cons]
      constructor
      · rintro (hb | rfl | ha)
        · exact Or.inl hb
        · exact absurd (by rw [hd]) hi
        · exact Or.inr ha
      · rintro (hb | ha)
        · exact Or.inl hb
        · exact Or.inr (Or.inr ha)
    · rw [hreach.view]
      simp

/-- Nothing is created on fields whose flag is held. -/
theorem perform_create_held (hheld : s.view.isBuilding fields = true) (kind : IndexKind) :
    (Indexing.create L fields kind).perform s = (.error (.buildRunning fields), s) := by
  unfold Indexing.create
  rw [Action.perform_bind, perform_tryBegin_held hheld]
  rfl

/-- A creation that the catalog refuses gives its flag back. -/
theorem perform_create_refused {kind : IndexKind} {e : Error}
    (hfree : s.view.isBuilding fields = false)
    (hrun : (onCatalog (Catalog.create fields kind)).perform (s.flagged fields) = (.error e, s')) :
    (Indexing.create L fields kind).perform s
      = (.error e, Indexing.released ⟨s.collection.builds.issued⟩ s') := by
  unfold Indexing.create
  simp only [Action.perform_bind, perform_tryBegin_free hfree, Action.perform_attempt, hrun,
    Action.perform_modify, Action.perform_throw]

/-- A creation that the catalog accepts comes to what the build of the new index comes to. -/
theorem perform_create_made {kind : IndexKind} {m : IndexMeta}
    (hfree : s.view.isBuilding fields = false)
    (hmade : (onCatalog (Catalog.create fields kind)).perform (s.flagged fields) = (.ok m, u))
    (hrun : (Indexing.buildHolding L ⟨s.collection.builds.issued⟩ m.descriptor false).perform u
      = (r, s')) :
    (Indexing.create L fields kind).perform s = (r.map fun _ => m.descriptor, s') := by
  unfold Indexing.create
  simp only [Action.perform_bind, perform_tryBegin_free hfree, Action.perform_attempt, hmade, hrun]
  cases r <;> rfl

/-- A creation that is not barred fails if and only if the new index cannot be filled from the
records, whoever observes. -/
theorem Sound.createIndex_fails_iff (hL : L.Observes) (h : s.Sound) {kind : IndexKind}
    (hfree : s.view.isBuilding fields = false) (hregistrable : s.view.Registrable fields kind) :
    (∃ e, ((Collection.createIndex L fields kind).perform s).1 = .error e) ↔
      ∃ e, ((IndexState.fill s.view.config s.view.documents false).perform
        ⟨⟨kind, fields, s.view.name⟩, true, .empty ⟨kind, fields, s.view.name⟩⟩).1 = .error e := by
  obtain ⟨hflagged, hview, -⟩ := h.reaches_flagged fields
  rcases does_catalog_create hflagged fields kind with ⟨hnot, -⟩ |
    ⟨m, before, after, hd, -, u, hmade, hreach⟩
  · rw [hview] at hnot
    exact absurd hregistrable hnot
  · -- the listener changes nothing that the fill reads
    have hheard := hreach.sound.heard hL (.buildStart m.descriptor.fields)
    have hfill := does_fill (i := ⟨m.descriptor, true, .empty m.descriptor⟩) hheard
      (by rw [view_heard hL, hreach.view]; simp) false
    rw [view_heard hL, hreach.view, hview] at hfill
    obtain ⟨t, ht, -⟩ := hfill
    have hrun := perform_create_made hfree hmade
      (perform_buildHolding ht ⟨s.collection.builds.issued⟩)
    unfold Collection.createIndex
    simp only [Action.perform_bind, perform_checkOpen h, hrun, hd]
    exact exists_congr fun e => Result.map_eq_error_iff

/-- A creation whose flag is free is refused by the catalog, or it is the build of an index that is
registered by then. -/
theorem Agree.create (hL : L.Observes) (h : Agree k s t)
    (hfree : s.view.isBuilding fields = false) (kind : IndexKind) :
    (¬ s.view.Registrable fields kind ∧ ∃ e t',
      (Indexing.create L fields kind).perform s
        = (.error e, Indexing.released ⟨s.collection.builds.issued⟩ (s.flagged fields)) ∧
      (Indexing.create L fields kind).perform t = (.error e, t') ∧
      Agree k (Indexing.released ⟨s.collection.builds.issued⟩ (s.flagged fields)) t' ∧
      k.Admits e) ∨
    ∃ r s' t' taken done,
      (Indexing.create L fields kind).perform s = (r.map fun _ => ⟨kind, fields, s.view.name⟩, s') ∧
      (Indexing.create L fields kind).perform t = (r.map fun _ => ⟨kind, fields, s.view.name⟩, t') ∧
      Agree k s' t' ∧ Build L ⟨kind, fields, s.view.name⟩ r s taken done s' ∧
      ⟨kind, fields, s.view.name⟩ ∈ taken.view.indexes.map (·.descriptor) ∧
      ∀ e, r = .error e → k.Admits e := by
  have hflagged := h.flagged fields
  obtain ⟨r, u, w, hu, hw, hmade, herror⟩ :=
    (couples_since k _ _).register fields kind _ _ hflagged.since
  cases r with
  | error e =>
    -- the catalog is as it was, and the flag is given back
    obtain ⟨rfl, hnot⟩ := hflagged.left.catalog_create_error hu
    obtain ⟨rfl, -⟩ := hflagged.right.catalog_create_error hw
    have hreleased := h.released hflagged (held_released_flagged h.left rfl)
      (held_released_flagged h.right rfl)
    exact Or.inl ⟨hnot, e, _, perform_create_refused hfree hu,
      perform_create_refused (h.free hfree) hw, hreleased, herror e rfl⟩
  | ok m =>
    -- the build starts in the session that has the new index
    obtain ⟨hd, hbefore, hthere⟩ := hflagged.left.catalog_create_ok hu
    have hfields : m.descriptor.fields = fields := by rw [hd]
    obtain ⟨r, s', t', done, hs', ht', hagree, hbuild, herror'⟩ := h.buildHolding hL
      (by rwa [hfields]) (hfields ▸ hmade.leftQuiet.builds) (hfields ▸ hmade.rightQuiet.builds)
      hmade.leftQuiet.observer (hfields ▸ ⟨hbefore.records, hbefore.others⟩) hmade.toAgree false
    have hs := perform_create_made hfree hu hs'
    have ht := perform_create_made (h.free hfree) hw ht'
    rw [hd] at hs ht hbuild hthere
    exact Or.inr ⟨r, s', t', u, done, hs, ht, hagree, hbuild, hthere, herror'⟩

/-! ### Whole operations -/

/-- Sessions that agree, of which the left one came of another by steps. -/
structure AgreeAfter (L : Listener σ) (k : Collection) (s₀ s t : Session σ) : Prop
    extends Agree k s t where
  steps : ReflTransGen (Step L) s₀ s

/-- After an attempt to build, which is a build or nothing, the sessions agree and one more step has
been made at most. -/
theorem AgreeAfter.tryBuild (hL : L.Observes) {s₀ : Session σ} (h : AgreeAfter L k s₀ s t)
    (d : IndexDescriptor) (rebuild : Bool) :
    InStepAt (AgreeAfter L k s₀) k.Admits (Indexing.tryBuild L d rebuild)
      (Indexing.tryBuild L d rebuild) s t := by
  cases hheld : s.view.isBuilding d.fields with
  | true =>
    have hheld' := (h.isBuilding_eq d.fields).symm.trans hheld
    exact ⟨.ok false, s, t, perform_tryBuild_held hheld rebuild,
      perform_tryBuild_held hheld' rebuild, h, nofun⟩
  | false =>
    obtain ⟨r, s', t', done, hs', ht', hagree, hbuild, herror⟩ :=
      h.toAgree.tryBuild hL hheld rebuild
    exact ⟨_, s', t', hs', ht', ⟨hagree, h.steps.tail (.built hbuild)⟩,
      fun e he => herror e (Result.map_eq_error_iff.mp he)⟩

/-- So they do after a creation, which may also be refused. -/
theorem AgreeAfter.create (hL : L.Observes) {s₀ : Session σ} (h : AgreeAfter L k s₀ s t)
    (fields : FieldPath) (kind : IndexKind) :
    InStepAt (AgreeAfter L k s₀) k.Admits (Indexing.create L fields kind)
      (Indexing.create L fields kind) s t := by
  cases hheld : s.view.isBuilding fields with
  | true =>
    have hheld' := (h.isBuilding_eq fields).symm.trans hheld
    refine ⟨.error (.buildRunning fields), s, t, perform_create_held hheld kind,
      perform_create_held hheld' kind, h, fun e he => ?_⟩
    rw [← Except.error.inj he]
    exact Or.inl (by simp [Error.kind])
  | false =>
    rcases h.toAgree.create hL hheld kind with ⟨hnot, e, t', hs', ht', hagree, hadmits⟩ |
      ⟨r, s', t', taken, done, hs', ht', hagree, hbuild, -, herror⟩
    · exact ⟨_, _, t', hs', ht', ⟨hagree, h.steps.tail (.refused hheld hnot)⟩,
        fun e' he => Except.error.inj he ▸ hadmits⟩
    · exact ⟨_, s', t', hs', ht', ⟨hagree, h.steps.tail (.built hbuild)⟩,
        fun e he => herror e (Result.map_eq_error_iff.mp he)⟩

/-- Being reached by steps, in a session that agrees with another one, is kept by all that an
operation does. -/
theorem simulation (hL : L.Observes) (k : Collection) (s₀ : Session σ) :
    Simulation L k k.Admits (AgreeAfter L k s₀) where
  agree h := h.toAgree
  quiet h hs ht hstore hclock hgenerator :=
    ⟨h.toAgree.quiet hs ht hstore hclock hgenerator, h.steps.tail (.quiet hs)⟩
  admits he := he
  builds d rebuild _ _ h := h.tryBuild hL d rebuild
  creates fields kind _ _ h := h.create hL fields kind

/-- A sound session agrees with itself. -/
theorem Agree.refl (h : s.Sound) : Agree s.collection s s where
  left := h
  right := h
  store := rfl
  clock := rfl
  generator := rfl
  flags := rfl
  leftMatches := ⟨rfl, rfl, rfl, rfl⟩
  rightMatches := ⟨rfl, rfl, rfl, rfl⟩

/-- Every operation is a sequence of steps. -/
theorem Sound.steps {α : Type} (hL : L.Observes) (h : s.Sound) (q : Request α) :
    ReflTransGen (Step L) s ((q.run L).perform s).2 := by
  obtain ⟨r, s', t', hs', -, hafter, -⟩ :=
    (simulation hL s.collection s).request q s s ⟨Agree.refl h, .refl⟩
  rw [hs']
  exact hafter.steps

/-- What a session makes of attempts to build indexes, and of requests that may build some. -/
structure Lifecycle (L : Listener σ) (s : Session σ) : Prop where
  /-- An attempt that finds the flag held does nothing. -/
  barred : ∀ d rebuild, s.view.isBuilding d.fields = true →
    (Indexing.tryBuild L d rebuild).perform s = (.ok false, s)
  /-- A flag that is free is obtained, and then there is a build. -/
  built : ∀ d rebuild, s.view.isBuilding d.fields = false →
    ∃ r taken done s', Build L d r s taken done s' ∧
      (Indexing.tryBuild L d rebuild).perform s = (r.map fun _ => true, s')
  /-- No index is created while the flag of its fields is held. -/
  createBarred : ∀ fields kind, s.view.isBuilding fields = true →
    (Collection.createIndex L fields kind).perform s = (.error (.buildRunning fields), s)
  /-- An index is there before the start of its first build is announced. -/
  created : ∀ fields kind, s.view.isBuilding fields = false → s.view.Registrable fields kind →
    ∃ r taken done s', Build L ⟨kind, fields, s.view.name⟩ r s taken done s' ∧
      ⟨kind, fields, s.view.name⟩ ∈ taken.view.indexes.map (·.descriptor) ∧
      (Collection.createIndex L fields kind).perform s
        = (r.map fun _ => ⟨kind, fields, s.view.name⟩, s')
  rebuildBarred : ∀ fields, s.view.isBuilding fields = true →
    ∃ e, (Collection.rebuildIndex L fields).perform s = (.error e, s)
  /-- Besides what builds announce, an operation announces nothing. -/
  steps : ∀ {α : Type} (q : Request α), ReflTransGen (Step L) s ((q.run L).perform s).2
  /-- Whether it succeeds or fails, an operation leaves the flags as it has found them. -/
  held : ∀ {α : Type} (q : Request α), ((q.run L).perform s).2.view.held = s.view.held

/-- While the flag is held, a rebuild is refused, be it for want of an index or because of the
flag. -/
theorem Sound.perform_rebuildIndex_held (h : s.Sound) (hheld : s.view.isBuilding fields = true) :
    ∃ e, (Collection.rebuildIndex L fields).perform s = (.error e, s) := by
  rcases does_claim h fields with ⟨-, e, hrefused⟩ | ⟨guard, i, hi, hfields, hfree, -⟩
  · refine ⟨e, ?_⟩
    unfold Collection.rebuildIndex
    simp only [Action.perform_bind, perform_checkOpen h, rebuild_eq, hrefused]
  · rw [hheld] at hfree
    cases hfree

/-- The life of a build, for every session of a collection and every listener that only observes.
A build whose flag is free announces its start once and then its end once, frees its flag in
between, and leaves the index dirty if and only if it fails; it does nothing to the records and to
other indexes. An attempt that finds the flag held does nothing at all. Every operation is made of
such builds and of steps in which nothing is announced, and leaves the flags as they were. -/
theorem build_lifecycle (hL : L.Observes) (h : s.Sound) : Lifecycle L s where
  barred d rebuild hheld := perform_tryBuild_held hheld rebuild
  built d rebuild hfree := by
    obtain ⟨r, s', -, done, hs', -, -, hbuild, -⟩ := (Agree.refl h).tryBuild hL hfree rebuild
    exact ⟨r, _, done, s', hbuild, hs'⟩
  createBarred fields kind hheld := by
    unfold Collection.createIndex
    rw [Action.perform_bind, perform_checkOpen h]
    exact perform_create_held hheld kind
  created fields kind hfree hregistrable := by
    rcases (Agree.refl h).create hL hfree kind with ⟨hnot, -⟩ |
      ⟨r, s', -, taken, done, hs', -, -, hbuild, hthere, -⟩
    · exact absurd hregistrable hnot
    · refine ⟨r, taken, done, s', hbuild, hthere, ?_⟩
      unfold Collection.createIndex
      rw [Action.perform_bind, perform_checkOpen h]
      exact hs'
  rebuildBarred fields hheld := h.perform_rebuildIndex_held hheld
  steps q := h.steps hL q
  held q := (held_of_steps hL h (h.steps hL q)).2

/-- Indexes on `b` are created beside a unique index on `a` and over two records that have no `b`.
The build of a unique one fails, since the records clash there, and the other kinds are built. In
every case the start and the end are announced once, no flag is left, the records and the index on
`a` stay, and the new index is dirty only if it is unique. While the flag on `b` is held, an attempt
to build does nothing. -/
theorem build_lifecycle_rival_records :
    ∃ (s : Session (List IndexEvent)) (i : IndexState),
      s.Sound ∧ Lifecycle Listener.log s ∧ s.observer = [] ∧ s.view.records = rivalRecords ∧
      i ∈ s.view.indexes ∧ i.descriptor = ⟨.unique, ⟨["a"]⟩, "c"⟩ ∧ i.dirty = false ∧
      (∀ kind, ∃ (r : Result Unit) (s' : Session (List IndexEvent)) (j : IndexState),
        (Collection.createIndex Listener.log ⟨["b"]⟩ kind).perform s
          = (r.map fun _ => ⟨kind, ⟨["b"]⟩, "c"⟩, s') ∧
        ((∃ e, r = .error e) ↔ kind = .unique) ∧
        s'.observer = [.buildStart ⟨["b"]⟩, .buildEnd ⟨["b"]⟩] ∧
        s'.view.records = rivalRecords ∧ s'.view.held = [] ∧ i ∈ s'.view.indexes ∧
        j ∈ s'.view.indexes ∧ j.descriptor = ⟨kind, ⟨["b"]⟩, "c"⟩ ∧
        (j.dirty = true ↔ kind = .unique)) ∧
      ∀ kind rebuild, (Indexing.tryBuild Listener.log ⟨kind, ⟨["b"]⟩, "c"⟩ rebuild).perform
        (s.flagged ⟨["b"]⟩) = (.ok false, s.flagged ⟨["b"]⟩) := by
  let a : IndexDescriptor := ⟨.unique, ⟨["a"]⟩, "c"⟩
  let v : View := .firstBuilt rivalRecords a []
  obtain ⟨t, ht, -, -, htview⟩ : ∃ t : Session Unit, t.Sound ∧ t.view.Plain ∧ t.view.Consistent ∧
      t.view = v := exists_first_built (by decide) rivalRecords_own (by simp)
  obtain ⟨s, hsound, hempty, hview⟩ : ∃ s : Session (List IndexEvent), s.Sound ∧ s.observer = [] ∧
      s.view = v :=
    ⟨⟨t.store, t.clock, t.collection, []⟩, ht.observed [], rfl, htview⟩
  have hlife := build_lifecycle Listener.observes_log hsound
  obtain ⟨i, hi, hdi, hclean⟩ : ∃ i ∈ v.indexes, i.descriptor = a ∧ i.dirty = false := by
    decide +kernel
  have hfree : s.view.isBuilding ⟨["b"]⟩ = false := by
    rw [hview]
    rfl
  rw [← hview] at hi
  refine ⟨s, i, hsound, hlife, hempty, by rw [hview]; rfl, hi, hdi, hclean, fun kind => ?_, ?_⟩
  · have hregistrable : s.view.Registrable ⟨["b"]⟩ kind := by
      rw [hview]
      cases kind <;> exact ⟨rfl, by decide +kernel⟩
    -- whether the build fails is seen from filling an empty index with the two records
    have hfails := hsound.createIndex_fails_iff Listener.observes_log hfree hregistrable
    obtain ⟨r, taken, done, s', hbuild, hthere, hs'⟩ :=
      hlife.created ⟨["b"]⟩ kind hfree hregistrable
    replace hfails : (∃ e, r = .error e) ↔ kind = .unique := by
      simp only [hs', hview, Result.map_eq_error_iff] at hfails
      rw [hfails, ← Result.toOption_eq_none_iff]
      cases kind <;> decide +kernel
    obtain ⟨hrecords, hheld, hothers, j, hj, hdj, hdirty⟩ :=
      hbuild.settled Listener.observes_log hthere
    rw [hview] at hs' hdj
    refine ⟨r, s', j, hs', hfails, ?_, ?_, ?_, ?_, hj, hdj, hdirty.trans hfails⟩
    · rw [hbuild.log, hempty]
      rfl
    · rw [hrecords, hview]
      rfl
    · rw [hheld, hview]
      rfl
    · exact (hothers i (by rw [hdi]; exact of_decide_eq_true rfl)).mpr hi
  · have hflagged := build_lifecycle Listener.observes_log (hsound.reaches_flagged ⟨["b"]⟩).sound
    refine fun kind rebuild => hflagged.barred _ rebuild ?_
    exact List.any_eq_true.mpr
      ⟨_, List.mem_append_right _ (List.mem_singleton_self _), beq_self_eq_true _⟩

end Session

end DocumentDb
