import DocumentDb.Proofs.BuildLifecycle

/-!
# `DocumentDb.Proofs.Reopening`: a handle can be given up for a new one

A handle keeps three things beside the store: the list of the descriptors, the handles of the
indexes that have been opened, and the flags of the builds that run. `Session.Reopens` gives it up
for a new handle of the same collection, which keeps none of them. Only the generator of record ids
is handed over, so that both issue the same ids.

`Session.caches_transparent` is the main result: in every session that the operations of a
collection lead to, a new handle answers every request as the old one does and leaves the same
store behind. Both sessions agree (`Agree`), which is all that `Simulation.requests` asks for. The
invariant of the runs is `Idle`: between two operations no flag is held, because an operation
leaves the flags as it finds them.
-/

set_option autoImplicit false

namespace DocumentDb

/-- Opening a collection whose maps are there: they are found, and nothing is created. -/
theorem Collection.perform_openOn_old {σ : Type} {s : Session σ} (h : s.Sound) (config : Config) :
    (openOn s.collection.name config).perform s.store
      = ((IdGenerator.ofNode (config.nodeId.getD 0)).map fun generator => {
          name := s.collection.name, config, generator
          records := s.collection.records
          catalog := ⟨s.collection.name, s.collection.catalog.metaMap, none⟩ }, s.store) := by
  have hrecords := Store.perform_openMap_old (K := RecordId) h.records
  have hmetas := Store.perform_openMap_old (K := FieldPath) h.metas
  unfold openOn
  simp only [h.named, Bool.not_true, Bool.false_eq_true, if_false, Action.perform_bind, hrecords,
    Catalog.openMap, hmetas, Action.perform_pure, Action.perform_ofResult]
  cases IdGenerator.ofNode (config.nodeId.getD 0) <;> rfl

namespace Session

variable {σ : Type} {L : Listener σ} {name : String} {config : Config} {s t : Session σ}

/-- Whether a session is another one with a new handle of its collection, opened on its store. -/
def Reopens (s t : Session σ) : Prop :=
  ∃ c store, (Collection.openOn s.collection.name s.collection.config).perform s.store
      = (.ok c, store) ∧
    t = { s with store, collection := { c with generator := s.collection.generator } }

/-- The sessions of a collection: it is opened on a store that is new to it, requests are made of
it, and its handle is given up for a new one from time to time. -/
inductive Served (L : Listener σ) (name : String) (config : Config) : Session σ → Prop
  | opened {store store' : Store} {c : Collection} (clock : UInt64) (observer : σ)
      (hnew : store.New name)
      (hopen : (Collection.openOn name config).perform store = (.ok c, store')) :
      Served L name config ⟨store', clock, c, observer⟩
  | request {s : Session σ} {α : Type} (h : Served L name config s) (q : Request α) :
      Served L name config ((q.run L).perform s).2
  | reopened {s t : Session σ} (h : Served L name config s) (ht : s.Reopens t) :
      Served L name config t

/-- A session between two operations: no flag is held. -/
structure Idle (name : String) (config : Config) (s : Session σ) : Prop where
  sound : s.Sound
  name_eq : s.collection.name = name
  config_eq : s.collection.config = config
  processors : s.collection.processors = []
  unheld : s.view.held = []
  /-- The collection could be opened, so it can be again. -/
  node : ∃ generator, IdGenerator.ofNode (config.nodeId.getD 0) = .ok generator

/-! ### A new handle -/

/-- The session with a new handle. -/
def reopen (s : Session σ) : Session σ :=
  { s with collection := {
    name := s.collection.name
    config := s.collection.config
    records := s.collection.records
    catalog := ⟨s.collection.name, s.collection.catalog.metaMap, none⟩
    generator := s.collection.generator } }

namespace Idle

variable (h : Idle name config s)

include h

/-- A collection reopens to one session only: the one with a new handle. -/
theorem reopens_iff : s.Reopens t ↔ t = s.reopen := by
  obtain ⟨generator, hnode⟩ := h.node
  have hopen := Collection.perform_openOn_old h.sound s.collection.config
  rw [h.config_eq, hnode] at hopen
  rw [Reopens, h.config_eq]
  constructor
  · rintro ⟨c, store, hopened, rfl⟩
    rw [hopen] at hopened
    obtain ⟨hc, rfl⟩ := Prod.mk.inj hopened
    obtain rfl := Except.ok.inj hc
    rw [reopen, h.config_eq]
  · intro ht
    refine ⟨_, _, hopen, ?_⟩
    rw [ht, reopen, h.config_eq]

/-- A handle that keeps nothing is in order. -/
theorem sound_reopen : s.reopen.Sound :=
  { h.sound with
    undropped := rfl
    catalog := rfl
    cache := nofun
    handlesSorted := SortedEntries.sorted_nil
    handles := nofun
    guards := nofun }

/-- A session agrees with the one that has a new handle. -/
theorem agree_reopen : Agree s.collection s s.reopen where
  left := h.sound
  right := h.sound_reopen
  store := rfl
  clock := rfl
  generator := rfl
  flags := by
    show s.view.held.map _ = _
    rw [h.unheld]
    rfl
  leftMatches := ⟨rfl, rfl, rfl, rfl⟩
  rightMatches := ⟨rfl, rfl, rfl, h.processors.symm⟩

/-- A session that has been reopened is idle again. -/
theorem reopened (ht : s.Reopens t) : Idle name config t := by
  rw [h.reopens_iff] at ht
  subst ht
  exact ⟨h.sound_reopen, h.name_eq, h.config_eq, rfl, rfl, h.node⟩

/-- An operation leaves no flag held. -/
theorem request (hL : L.Observes) {α : Type} (q : Request α) :
    Idle name config ((q.run L).perform s).2 := by
  obtain ⟨r, s', t', hs', -, hafter, -⟩ :=
    (simulation hL s.collection s).request q s s ⟨Agree.refl h.sound, .refl⟩
  rw [hs']
  have hsame := hafter.leftMatches
  exact {
    sound := hafter.left
    name_eq := hsame.name.trans h.name_eq
    config_eq := hsame.config.trans h.config_eq
    processors := hsame.processors.trans h.processors
    unheld := (held_of_steps hL h.sound hafter.steps).2.trans h.unheld
    node := h.node }

end Idle

/-- Between the requests of a collection its sessions are idle. -/
theorem Served.idle (hL : L.Observes) (h : Served L name config s) : Idle name config s := by
  induction h with
  | opened clock observer hnew hopen =>
    obtain ⟨hsound, -⟩ := sound_openOn hnew hopen clock observer
    obtain ⟨-, -, generator, hnode, rfl⟩ := Collection.exists_of_openOn hnew hopen
    exact ⟨hsound, rfl, rfl, rfl, rfl, generator, hnode⟩
  | request _ q ih => exact ih.request hL q
  | reopened _ ht ih => exact ih.reopened ht

/-- The caches of a handle cannot be told from outside. A session that requests have led to can go
on with a new handle, and opening it changes nothing in the store. After any further requests the
stores are the same and so is the answer to the next one, be it a value or an error. And no answer
blames the store, unless the caller's own extractor does. -/
theorem caches_transparent (hL : L.Observes) (h : Served L name config s) :
    (∃ t, s.Reopens t) ∧
    (∀ t, s.Reopens t → t.store = s.store ∧ ∀ qs : List (Σ α, Request α),
      (Request.performAll L qs t).store = (Request.performAll L qs s).store ∧
      ∀ {α : Type} (q : Request α), ((q.run L).perform (Request.performAll L qs t)).1
        = ((q.run L).perform (Request.performAll L qs s)).1) ∧
    ∀ {α : Type} (q : Request α) (e : Error), ((q.run L).perform s).1 = .error e →
      e.kind = .storage → ∃ d fields, config.extractor d fields = .error e := by
  have hidle := h.idle hL
  have hsim := simulation hL s.collection s
  have hagree : AgreeAfter L s.collection s s s.reopen := ⟨hidle.agree_reopen, .refl⟩
  refine ⟨⟨_, hidle.reopens_iff.mpr rfl⟩, ?_, ?_⟩
  · intro t ht
    rw [hidle.reopens_iff] at ht
    subst ht
    refine ⟨rfl, fun qs => ?_⟩
    have hrun := hsim.requests hagree qs
    refine ⟨hrun.store.symm, fun q => ?_⟩
    obtain ⟨r, s', t', hs', ht', -⟩ := hsim.request q _ _ hrun
    rw [hs', ht']
  · intro α q e he hkind
    obtain ⟨r, s', t', hs', -, -, hadmits⟩ := hsim.request q _ _ hagree
    rw [hs'] at he
    rcases hadmits e he with hspared | ⟨d, fields, hextract⟩ | ⟨d, hprocessed⟩
    · exact absurd hkind hspared
    · exact ⟨d, fields, hidle.config_eq ▸ hextract⟩
    · -- without processors nothing is refused
      rw [hidle.processors] at hprocessed
      rcases hprocessed with hwrite | hread
      · cases hwrite
      · cases hread

/-- The handle of a new collection keeps the list of its indexes once it has been asked for it; a
new handle does not. Both know the same indexes after one has been created. -/
theorem caches_transparent_kept_list :
    ∃ s t : Session Unit, Served Listener.silent "c" {} s ∧ s.Reopens t ∧
      s.collection.catalog.cache = some [] ∧ t.collection.catalog.cache = none ∧
      ∀ fields kind,
        (((Request.hasIndex fields).run Listener.silent).perform
          (Request.performAll Listener.silent [⟨_, .createIndex fields kind⟩] t)).1
        = (((Request.hasIndex fields).run Listener.silent).perform
          (Request.performAll Listener.silent [⟨_, .createIndex fields kind⟩] s)).1 := by
  have hopened : Served Listener.silent "c" {} _ :=
    .opened 0 () (Store.new_empty "c")
      (Collection.perform_openOn {} (Store.new_empty "c") (by decide))
  have hserved := hopened.request .indexes
  obtain ⟨⟨t, ht⟩, hsame, -⟩ := caches_transparent Listener.observes_silent hserved
  refine ⟨_, t, hserved, ht, rfl, ?_, fun fields kind => ?_⟩
  · rw [(hserved.idle Listener.observes_silent).reopens_iff.mp ht]
    rfl
  · exact ((hsame t ht).2 _).2 (.hasIndex fields)

end Session

end DocumentDb
