import DocumentDb.Index.Lifecycle
import DocumentDb.Proofs.Catalog

/-!
# `DocumentDb.Proofs.Lifecycle`: builds seen from the view

Opening the backing map of an index shows nothing new (`Sound.handle`). A build fills one
index and leaves the flags as they were (`does_tryBuild`), because the guard it takes is
the only one with its number. An index that is created comes into the view dirty and empty
and is filled at once (`does_create`).

`register` and `claim` are what a creation and a rebuild do before they announce the start
of their build. `buildHolding_spec` goes on from there, with whatever the listener has made of
the session; the other statements are about a listener that does nothing.
-/

set_option autoImplicit false

namespace DocumentDb

open SortedEntries (Sorted)

namespace Session

open Store (Refers entriesOf lookup openPosition?)

variable {σ α : Type} {s : Session σ} {i : IndexState}

/-! ### Opening backing maps -/

/-- The session with a handle that is kept for a map. -/
def withHandle (s : Session σ) (mapName : String) (x : IndexHandle) : Session σ :=
  { s with collection := { s.collection with
    handles := SortedEntries.insert mapName x s.collection.handles } }

/-- Keeping a handle that leads to the map of an index. -/
theorem Sound.reaches_withHandle (h : s.Sound) {e : FieldPath × IndexMeta}
    (he : e ∈ s.metaEntries) {x : IndexHandle} (hx : s.Backed x e.2.descriptor e.2.mapName) :
    Reaches s (s.withHandle e.2.mapName x) s.view := by
  refine ⟨{ h with handlesSorted := h.handlesSorted.insert, handles := ?_ }, rfl,
    fun _ _ hs => hs⟩
  intro mapName y hy
  change SortedEntries.get? mapName (SortedEntries.insert e.2.mapName x s.collection.handles)
    = some y at hy
  rw [SortedEntries.get?_insert] at hy
  split at hy
  · rename_i heq
    cases hy
    obtain rfl := Std.LawfulEqOrd.eq_of_compare heq
    exact ⟨e, he, rfl, hx⟩
  · exact h.handles mapName y hy

/-- Adding maps to the backing maps of a store shows nothing new if none of them has the name of
an index that is there or can come. -/
theorem Sound.reaches_opened (h : s.Sound) (indexes : List (NamedMap Key Node))
    (texts : List (NamedMap String (List RecordId)))
    (hindexes : ∀ map name, Refers s.store.indexes map name → Refers indexes map name)
    (htexts : ∀ map name, Refers s.store.texts map name → Refers texts map name)
    (hentries : ∀ name, entriesOf name indexes = entriesOf name s.store.indexes ∧
      entriesOf name texts = entriesOf name s.store.texts)
    (hfresh : ∀ d g, s.store.generation ≤ g →
      lookup (indexMapName d g) indexes = none ∧ lookup (indexMapName d g) texts = none)
    (hsuited : ∀ e ∈ s.metaEntries,
      (e.2.descriptor.isFullText = true → lookup e.2.mapName indexes = none) ∧
        (e.2.descriptor.isFullText = false → lookup e.2.mapName texts = none)) :
    Reaches s { s with store := { s.store with indexes, texts } } s.view := by
  -- handles find their maps where they were
  have hbacked : ∀ x d name, s.Backed x d name →
      Backed { s with store := { s.store with indexes, texts } } x d name := by
    rintro ⟨d', n', backing⟩ d name ⟨hd, hn, hb⟩
    refine ⟨hd, hn, ?_⟩
    cases backing with
    | ordered map => exact ⟨hb.1, hindexes _ _ hb.2⟩
    | fullText map tokenizer => exact ⟨hb.1, hb.2.1, htexts _ _ hb.2.2⟩
  refine ⟨{ h with fresh := ?_, suited := ?_, handles := ?_ }, ?_, ?_⟩
  · intro d g hg
    obtain ⟨hr, hm, -, -⟩ := Store.hasMap_eq_false_iff.mp (h.fresh d g hg)
    exact Store.hasMap_eq_false_iff.mpr ⟨hr, hm, hfresh d g hg⟩
  · intro e he
    obtain ⟨hr, hm, -, -⟩ := h.suited e he
    exact ⟨hr, hm, hsuited e he⟩
  · intro mapName x hx
    obtain ⟨e, he, hn, hb⟩ := h.handles mapName x hx
    exact ⟨e, he, hn, hbacked _ _ _ hb⟩
  · unfold view
    rw [View.mk.injEq]
    refine ⟨rfl, rfl, rfl, rfl, rfl, rfl, ?_⟩
    refine List.map_congr_left fun e he => ?_
    rw [IndexMeta.state, IndexMeta.state, Store.content, Store.content, (hentries _).1,
      (hentries _).2]
  · rintro x d ⟨e, he, hd, hb⟩
    exact ⟨e, he, hd, hbacked _ _ _ hb⟩

/-- A name that was issued for one index is neither issued later nor the name of another
index. -/
theorem Sound.mapName_ne (h : s.Sound) {e : FieldPath × IndexMeta} (he : e ∈ s.metaEntries) :
    (∀ d g, s.store.generation ≤ g → indexMapName d g ≠ e.2.mapName) ∧
      ∀ e' ∈ s.metaEntries, e'.2.descriptor ≠ e.2.descriptor → e'.2.mapName ≠ e.2.mapName := by
  refine ⟨fun d g hg heq => ?_, fun e' he' hd heq => ?_⟩
  · obtain ⟨g', hg', hn⟩ := h.issued e he
    have hsame := generation_eq_of_indexMapName_eq (heq.trans hn)
    omega
  · exact hd (by rw [h.entry_eq_of_mapName he' he heq])

section backing

variable (h : s.Sound) {e : FieldPath × IndexMeta} (he : e ∈ s.metaEntries)

include h he

/-- Creating the backing map of a full-text index shows nothing new. -/
theorem Sound.reaches_newText (hkind : e.2.descriptor.isFullText = true) :
    Reaches s { s with store := { s.store with
      texts := s.store.texts ++ [NamedMap.create e.2.mapName] } } s.view := by
  obtain ⟨hissued, hother⟩ := h.mapName_ne he
  refine h.reaches_opened s.store.indexes _ (fun _ _ => id) (fun _ _ hr => hr.append _)
    (fun name => ⟨rfl, Store.entriesOf_append _ _ _⟩) (fun d g hg => ?_) fun e' he' => ?_
  · obtain ⟨-, -, hi, ht⟩ := Store.hasMap_eq_false_iff.mp (h.fresh d g hg)
    exact ⟨hi, Store.lookup_append_eq_none ht (hissued d g hg)⟩
  · -- an ordered index is another one, and has a name of its own
    obtain ⟨-, -, hi, ht⟩ := h.suited e' he'
    refine ⟨hi, fun hordered => Store.lookup_append_eq_none (ht hordered) ?_⟩
    exact hother e' he' fun heq => by simp [heq, hkind] at hordered

/-- Creating the backing map of an ordered index shows nothing new. -/
theorem Sound.reaches_newOrdered (hkind : e.2.descriptor.isFullText = false) :
    Reaches s { s with store := { s.store with
      indexes := s.store.indexes ++ [NamedMap.create e.2.mapName] } } s.view := by
  obtain ⟨hissued, hother⟩ := h.mapName_ne he
  refine h.reaches_opened _ s.store.texts (fun _ _ hr => hr.append _) (fun _ _ => id)
    (fun name => ⟨Store.entriesOf_append _ _ _, rfl⟩) (fun d g hg => ?_) fun e' he' => ?_
  · obtain ⟨-, -, hi, ht⟩ := Store.hasMap_eq_false_iff.mp (h.fresh d g hg)
    exact ⟨Store.lookup_append_eq_none hi (hissued d g hg), ht⟩
  · obtain ⟨-, -, hi, ht⟩ := h.suited e' he'
    refine ⟨fun hfull => Store.lookup_append_eq_none (hi hfull) ?_, ht⟩
    exact hother e' he' fun heq => by simp [heq, hkind] at hfull

/-- Opening the backing map of an index, which creates the map at the first time. -/
theorem Sound.open_backing :
    ∃ x s', (onStore (IndexHandle.openMap e.2.descriptor e.2.mapName
        s.collection.config.tokenizer)).perform s = (.ok x, s') ∧
      Reaches s s' s.view ∧ s'.Backed x e.2.descriptor e.2.mapName ∧
      s'.metaEntries = s.metaEntries := by
  obtain ⟨hr, hm, hi, ht⟩ := h.suited e he
  rw [perform_onStore]
  unfold IndexHandle.openMap
  cases hkind : e.2.descriptor.isFullText with
  | true =>
    cases hpos : openPosition? s.store.texts e.2.mapName with
    -- the map is there already
    | some i =>
      refine ⟨⟨e.2.descriptor, e.2.mapName, .fullText ⟨i⟩ s.collection.config.tokenizer⟩, s, ?_,
        Reaches.refl h, ⟨rfl, rfl, hkind, rfl, hpos⟩, rfl⟩
      simp only [if_true, Action.perform_bind, Store.perform_openMap_old hpos, Action.perform_pure]
    | none =>
      have hnone := Store.lookup_eq_none_iff.mpr hpos
      -- no map of another kind has the name, so a new one can be made
      have hfree : s.store.hasMap e.2.mapName = false :=
        Store.hasMap_eq_false_iff.mpr ⟨hr, hm, hi hkind, hnone⟩
      refine ⟨⟨e.2.descriptor, e.2.mapName, .fullText ⟨s.store.texts.length⟩
        s.collection.config.tokenizer⟩, _, ?_, h.reaches_newText he hkind,
        ⟨rfl, rfl, hkind, rfl, Store.refers_append hnone⟩, rfl⟩
      simp only [if_true, Action.perform_bind, Store.perform_openMap_new hpos hfree,
        Action.perform_pure]
      rfl
  | false =>
    cases hpos : openPosition? s.store.indexes e.2.mapName with
    | some i =>
      refine ⟨⟨e.2.descriptor, e.2.mapName, .ordered ⟨i⟩⟩, s, ?_, Reaches.refl h,
        ⟨rfl, rfl, hkind, hpos⟩, rfl⟩
      simp only [Bool.false_eq_true, if_false, Action.perform_bind,
        Store.perform_openMap_old hpos, Action.perform_pure]
    | none =>
      have hnone := Store.lookup_eq_none_iff.mpr hpos
      have hfree : s.store.hasMap e.2.mapName = false :=
        Store.hasMap_eq_false_iff.mpr ⟨hr, hm, hnone, ht hkind⟩
      refine ⟨⟨e.2.descriptor, e.2.mapName, .ordered ⟨s.store.indexes.length⟩⟩, _, ?_,
        h.reaches_newOrdered he hkind, ⟨rfl, rfl, hkind, Store.refers_append hnone⟩, rfl⟩
      simp only [Bool.false_eq_true, if_false, Action.perform_bind,
        Store.perform_openMap_new hpos hfree, Action.perform_pure]
      rfl

end backing

/-- The handle of an index, opened once and kept. -/
theorem Sound.handleOf (h : s.Sound) {e : FieldPath × IndexMeta} (he : e ∈ s.metaEntries) :
    ∃ x s', (Indexing.handleOf e.2).perform s = (.ok x, s') ∧ Reaches s s' s.view ∧
      s'.metaEntries = s.metaEntries ∧ s'.Backed x e.2.descriptor e.2.mapName := by
  unfold Indexing.handleOf
  rw [Action.perform_bind, perform_here]
  dsimp only
  cases hkept : SortedEntries.get? e.2.mapName s.collection.handles with
  | some x =>
    obtain ⟨e', he', hn, hb⟩ := h.handles _ _ hkept
    obtain rfl := h.entry_eq_of_mapName he' he hn
    exact ⟨x, s, rfl, Reaches.refl h, rfl, hb⟩
  | none =>
    obtain ⟨x, s', hopen, hreach, hb, hmetas⟩ := h.open_backing he
    have he' : e ∈ s'.metaEntries := hmetas ▸ he
    have hkeep := hreach.sound.reaches_withHandle he' hb
    rw [hreach.view] at hkeep
    refine ⟨x, s'.withHandle e.2.mapName x, ?_, hreach.trans hkeep, hmetas, hb⟩
    simp only [Action.perform_bind, hopen, perform_change, Action.perform_pure]
    rfl

/-- A handle that is kept is the one that opening the map again would give, and opening it again
would create nothing. -/
theorem Backed.openMap {x : IndexHandle} {d : IndexDescriptor} {mapName : String}
    (hb : s.Backed x d mapName) :
    (IndexHandle.openMap d mapName s.collection.config.tokenizer).perform s.store
      = (.ok x, s.store) := by
  obtain ⟨d', mapName', backing⟩ := x
  obtain ⟨rfl, rfl, hb⟩ := hb
  unfold IndexHandle.openMap
  cases backing with
  | ordered map =>
    have hopen := Store.perform_openMap_old (K := Key) hb.2
    simp only [hb.1, Bool.false_eq_true, if_false, Action.perform_bind, hopen, Action.perform_pure]
  | fullText map tokenizer =>
    have hopen := Store.perform_openMap_old (K := String) hb.2.2
    simp only [hb.1, if_true, Action.perform_bind, hopen, Action.perform_pure, hb.2.1]

/-- Whether the handle of an index is kept or not makes no difference to the store: the handle is
the one that opening the map of the index gives. -/
theorem Sound.perform_handleOf (h : s.Sound) {e : FieldPath × IndexMeta} (he : e ∈ s.metaEntries) :
    ∃ x store handles,
      (IndexHandle.openMap e.2.descriptor e.2.mapName s.collection.config.tokenizer).perform s.store
        = (.ok x, store) ∧
      (Indexing.handleOf e.2).perform s
        = (.ok x, { s with store, collection := { s.collection with handles } }) := by
  unfold Indexing.handleOf
  rw [Action.perform_bind, perform_here]
  dsimp only
  cases hkept : SortedEntries.get? e.2.mapName s.collection.handles with
  | some x =>
    obtain ⟨e', he', hn, hb⟩ := h.handles _ _ hkept
    obtain rfl := h.entry_eq_of_mapName he' he hn
    exact ⟨x, s.store, s.collection.handles, hb.openMap, rfl⟩
  | none =>
    obtain ⟨x, s', hopen, -⟩ := h.open_backing he
    rw [perform_onStore] at hopen
    obtain ⟨hx, rfl⟩ := Prod.mk.inj hopen
    refine ⟨x, _, SortedEntries.insert e.2.mapName x s.collection.handles,
      Prod.ext hx rfl, ?_⟩
    simp only [Action.perform_bind, perform_onStore, hx, perform_change, Action.perform_pure]

/-- The handle of the index with a descriptor serves it. -/
theorem Sound.handle (h : s.Sound) (hi : i ∈ s.view.indexes) :
    ∃ x s', (Indexing.handle i.descriptor).perform s = (.ok x, s') ∧ Reaches s s' s.view ∧
      s'.Serves x i.descriptor := by
  obtain ⟨m, hm, rfl⟩ := h.exists_meta hi
  have hmem := h.get?_eq_some_iff.mp hm
  obtain ⟨x, s', hx, hreach, hmetas, hb⟩ := h.handleOf hmem
  refine ⟨x, s', ?_, hreach, _, hmetas ▸ hmem, rfl, hb⟩
  unfold Indexing.handle
  rw [Action.perform_bind, h.perform_metaOf?, hm]
  exact hx

/-- An operation that begins with the handle of an index. -/
theorem Sound.handle_bind (h : s.Sound) (hi : i ∈ s.view.indexes) {f : IndexHandle → SessionM σ α}
    {r : Result α} {v : View}
    (hf : ∀ x s', Reaches s s' s.view → s'.Serves x i.descriptor → Does (f x) s' r v) :
    Does (Indexing.handle i.descriptor >>= f) s r v := by
  obtain ⟨x, s', hx, hreach, hserves⟩ := h.handle hi
  obtain ⟨s'', hs'', hreach'⟩ := hf x s' hreach hserves
  exact ⟨s'', by rw [Action.perform_bind, hx]; exact hs'', hreach.trans hreach'⟩

/-! ### Questions -/

/-- The list of indexes is the one that the session shows. -/
theorem does_list (h : s.Sound) :
    Does Indexing.list s (.ok (s.view.indexes.map (·.descriptor))) s.view := does_descriptors h

/-- Asking whether an index is being built changes nothing. -/
theorem perform_isBuilding (s : Session σ) (fields : FieldPath) :
    (Indexing.isBuilding fields).perform s = (.ok (s.view.isBuilding fields), s) := rfl

/-- An index is to be rebuilt when it is dirty and at rest. -/
theorem Sound.perform_shouldRebuild (h : s.Sound) (hi : i ∈ s.view.indexes) :
    (Indexing.shouldRebuild i.descriptor.fields).perform s = (.ok (s.view.atRest i), s) := by
  unfold Indexing.shouldRebuild View.atRest
  rw [Action.perform_bind, h.perform_isDirty_index hi]
  cases i.dirty <;> rfl

/-! ### Filling an index -/

/-- Reading all records changes nothing. -/
theorem does_records (h : s.Sound) :
    Does (onStore s.collection.records.entries) s (.ok s.view.records) s.view :=
  ⟨s, by rw [perform_onStore, MapRef.perform_entries (s := s.store) h.records]; rfl,
    Reaches.refl h⟩

/-- Writing a document through the handle of an index adds it to the content. -/
theorem does_add (h : s.Sound) (hi : i ∈ s.view.indexes) {x : IndexHandle}
    (hx : s.Serves x i.descriptor) (doc : Document) :
    Does (do
        let vs ← Action.ofResult (s.view.config.extractor doc i.descriptor.fields)
        onStore (x.write vs)) s
      ((IndexState.add s.view.config doc).perform i).1
      (s.view.put ((IndexState.add s.view.config doc).perform i).2) := by
  cases hvs : s.view.config.extractor doc i.descriptor.fields with
  | error e =>
    rw [IndexState.perform_add_error hvs, View.put_self h.nodup_fields hi]
    exact (does_ofResult h _).bind_error
  | ok vs =>
    obtain ⟨s', hs', hreach⟩ := does_write h hi hx vs
    rw [IndexState.perform_add_ok hvs]
    exact ⟨s', by simp only [Action.perform_bind, Action.perform_ofResult, hs'], hreach⟩

/-- Removing a document through the handle of an index removes it from the content. -/
theorem does_remove (h : s.Sound) (hi : i ∈ s.view.indexes) {x : IndexHandle}
    (hx : s.Serves x i.descriptor) (doc : Document) :
    Does (do
        let vs ← Action.ofResult (s.view.config.extractor doc i.descriptor.fields)
        onStore (x.erase vs)) s
      ((IndexState.remove s.view.config doc).perform i).1
      (s.view.put ((IndexState.remove s.view.config doc).perform i).2) := by
  cases hvs : s.view.config.extractor doc i.descriptor.fields with
  | error e =>
    rw [IndexState.perform_remove_error hvs, View.put_self h.nodup_fields hi]
    exact (does_ofResult h _).bind_error
  | ok vs =>
    obtain ⟨s', hs', hreach⟩ := does_erase h hi hx vs
    rw [IndexState.perform_remove_ok hvs]
    exact ⟨s', by simp only [Action.perform_bind, Action.perform_ofResult, hs'], hreach⟩

/-- Writing documents through the handle of an index adds them to its content in turn. -/
theorem does_writeAll (h : s.Sound) (hi : i ∈ s.view.indexes) {x : IndexHandle}
    (hx : s.Serves x i.descriptor) (docs : List Document) :
    Does (onStore (Indexing.writeAll s.view.config.extractor x i.descriptor.fields docs)) s
      ((IndexState.addAll s.view.config docs).perform i).1
      (s.view.put ((IndexState.addAll s.view.config docs).perform i).2) := by
  induction docs generalizing s i with
  | nil =>
    have hself := View.put_self h.nodup_fields hi
    exact ⟨s, rfl, h, hself.symm, fun _ _ hs => hs⟩
  | cons doc docs ih =>
    have hadd := does_add h hi hx doc
    -- the loop is its first step followed by the rest
    have hsplit : (onStore (Indexing.writeAll s.view.config.extractor x i.descriptor.fields
          (doc :: docs))).perform s
        = ((do
            let vs ← Action.ofResult (s.view.config.extractor doc i.descriptor.fields)
            onStore (x.write vs)) >>= fun _ =>
          onStore (Indexing.writeAll s.view.config.extractor x i.descriptor.fields docs)).perform s
        := by
      simp only [Indexing.writeAll, perform_onStore, Action.perform_bind, Action.perform_ofResult]
      rcases s.view.config.extractor doc i.descriptor.fields with _ | vs
      · rfl
      · dsimp only
        rcases (x.write vs).perform s.store with ⟨_ | _, _⟩ <;> rfl
    unfold Does
    rw [hsplit, IndexState.perform_addAll_cons]
    rcases hrun : (IndexState.add s.view.config doc).perform i with ⟨r, i'⟩
    rw [hrun] at hadd
    cases r with
    | error e => exact hadd.bind_error
    | ok u =>
      have hd : i'.descriptor = i.descriptor := by
        have hkept := IndexState.add_descriptor s.view.config doc i
        rwa [hrun] at hkept
      refine hadd.bind_ok fun s' hs' => ?_
      have hi' : i' ∈ s'.view.indexes := by
        rw [hs'.view]
        exact View.mem_put hi (by rw [hd])
      have hrest := ih hs'.sound hi' (hd ▸ hs'.serves _ _ hx)
      rw [hs'.view, hd, View.put_put (by simp)] at hrest
      exact hrest

/-- An operation that begins with a look at the collection. -/
theorem does_here_bind {f : Collection → SessionM σ α} {r : Result α} {v : View}
    (hf : Does (f s.collection) s r v) : Does (here >>= f) s r v := by
  obtain ⟨s', hs', hreach⟩ := hf
  exact ⟨s', by rw [Action.perform_bind, perform_here]; exact hs', hreach⟩

/-- The last part of a build: all records are written, and the index is clean. -/
theorem does_complete (h : s.Sound) (hi : i ∈ s.view.indexes) {x : IndexHandle}
    (hx : s.Serves x i.descriptor) :
    Does (do
        let c ← here
        let entries ← onStore c.records.entries
        onStore (Indexing.writeAll c.config.extractor x i.descriptor.fields (entries.map (·.2)))
        onCatalog (Catalog.endBuild i.descriptor.fields)) s
      ((IndexState.complete s.view.config s.view.documents).perform i).1
      (s.view.put ((IndexState.complete s.view.config s.view.documents).perform i).2) := by
  refine does_here_bind ?_
  refine (does_records h).bind_ok fun s₁ hs₁ => ?_
  have hi₁ : i ∈ s₁.view.indexes := by rwa [hs₁.view]
  have hall := does_writeAll hs₁.sound hi₁ (hs₁.serves _ _ hx) s.view.documents
  rw [hs₁.view] at hall
  rw [IndexState.perform_complete]
  rcases hrun : (IndexState.addAll s.view.config s.view.documents).perform i with ⟨r, i'⟩
  rw [hrun] at hall
  cases r with
  | error e => exact hall.bind_error
  | ok u =>
    refine hall.bind_ok fun s₂ hs₂ => ?_
    have hd : i'.descriptor = i.descriptor := by
      have hkept := IndexState.addAll_descriptor s.view.config s.view.documents i
      rwa [hrun] at hkept
    have hi₂ : i' ∈ s₂.view.indexes := by
      rw [hs₂.view]
      exact View.mem_put hi (by rw [hd])
    have hend := does_setDirty hs₂.sound hi₂ false
    -- writing the entries and clearing the flag put the same index twice
    have hput : s₂.view.put { i' with dirty := false } = s.view.put { i' with dirty := false } := by
      rw [hs₂.view]
      exact View.put_put rfl
    rw [hput] at hend
    rw [← hd]
    exact hend

/-- A build fills its index from all records. -/
theorem does_fill (h : s.Sound) (hi : i ∈ s.view.indexes) (rebuild : Bool) :
    Does (Indexing.fill i.descriptor rebuild) s
      ((IndexState.fill s.view.config s.view.documents rebuild).perform i).1
      (s.view.put ((IndexState.fill s.view.config s.view.documents rebuild).perform i).2) := by
  unfold Indexing.fill
  rw [IndexState.perform_fill]
  refine (does_setDirty h hi true).bind_ok fun s₁ hs₁ => ?_
  have hi₁ : { i with dirty := true } ∈ s₁.view.indexes := by
    rw [hs₁.view]
    exact View.mem_put hi rfl
  refine hs₁.sound.handle_bind hi₁ fun x s₂ hs₂ hx => ?_
  have hview₂ : s₂.view = s.view.put { i with dirty := true } := hs₂.view.trans hs₁.view
  have hi₂ : { i with dirty := true } ∈ s₂.view.indexes := by rwa [hs₂.view]
  cases rebuild with
  -- the entries are added to those there are, of which a new index has none
  | false =>
    have hrest := does_complete hs₂.sound hi₂ hx
    rw [hview₂, View.put_put (by simp)] at hrest
    exact hrest
  | true =>
    refine (does_clear hs₂.sound hi₂ hx).bind_ok fun s₃ hs₃ => ?_
    have hview₃ : s₃.view = s.view.put (i.begun true) := by
      rw [hs₃.view, hview₂]
      exact View.put_put rfl
    have hi₃ : i.begun true ∈ s₃.view.indexes := by
      rw [hview₃]
      exact View.mem_put hi rfl
    have hrest := does_complete hs₃.sound hi₃ (hs₃.serves _ _ hx)
    rw [hview₃, View.put_put (by simp)] at hrest
    exact hrest

/-! ### Flags -/

/-- A flag that is held is not taken. -/
theorem perform_tryBegin_held {fields : FieldPath} (hheld : s.view.isBuilding fields = true) :
    (Indexing.tryBegin fields).perform s = (.ok none, s) := by
  have hbegin : s.collection.builds.tryBegin fields = none := if_pos hheld
  simp only [Indexing.tryBegin, Action.perform_bind, perform_here, hbegin, Action.perform_pure]

/-- A flag that is set cannot be set again. -/
theorem does_tryBegin_held (h : s.Sound) {fields : FieldPath}
    (hheld : s.view.isBuilding fields = true) :
    Does (Indexing.tryBegin fields) s (.ok none) s.view :=
  ⟨s, perform_tryBegin_held hheld, Reaches.refl h⟩

/-- The session after the flag of some fields has been taken, for the next guard. -/
def flagged (s : Session σ) (fields : FieldPath) : Session σ :=
  { s with collection := { s.collection with builds :=
    ⟨s.collection.builds.held ++ [(fields, ⟨s.collection.builds.issued⟩)],
      s.collection.builds.issued + 1⟩ } }

/-- A flag that is free is set, under the next guard. -/
theorem tryBegin_of_free {fields : FieldPath} (hfree : s.view.isBuilding fields = false) :
    s.collection.builds.tryBegin fields
      = some (⟨s.collection.builds.issued⟩, (s.flagged fields).collection.builds) :=
  if_neg (Bool.eq_false_iff.mp hfree)

/-- Setting a free flag changes the guards and nothing else. -/
theorem perform_tryBegin_free {fields : FieldPath} (hfree : s.view.isBuilding fields = false) :
    (Indexing.tryBegin fields).perform s
      = (.ok (some ⟨s.collection.builds.issued⟩), s.flagged fields) := by
  simp only [Indexing.tryBegin, Action.perform_bind, perform_here, tryBegin_of_free hfree,
    perform_change, Action.perform_pure]
  rfl

/-- The next guard stands for no flag yet. -/
theorem Sound.guard_new (h : s.Sound) :
    ∀ p ∈ s.view.held, p.2 ≠ ⟨s.collection.builds.issued⟩ := by
  intro p hp heq
  have hlt := h.guards p hp
  rw [heq] at hlt
  exact Nat.lt_irrefl _ hlt

/-- The session shows one more guard after a flag has been set. -/
theorem Sound.reaches_flagged (h : s.Sound) (fields : FieldPath) :
    Reaches s (s.flagged fields)
      { s.view with held := s.view.held ++ [(fields, ⟨s.collection.builds.issued⟩)] } := by
  refine ⟨{ h with guards := ?_ }, rfl, fun _ _ hx => hx⟩
  intro p hp
  rcases List.mem_append.mp hp with hp | hp
  · exact Nat.lt_succ_of_lt (h.guards p hp)
  · rw [List.mem_singleton.mp hp]
    exact Nat.lt_succ_self _

/-- A flag that is free is taken under a guard that stands for no other flag. -/
theorem does_tryBegin (h : s.Sound) {fields : FieldPath}
    (hfree : s.view.isBuilding fields = false) :
    ∃ guard, (∀ p ∈ s.view.held, p.2 ≠ guard) ∧
      Does (Indexing.tryBegin fields) s (.ok (some guard))
        { s.view with held := s.view.held ++ [(fields, guard)] } :=
  ⟨_, h.guard_new, s.flagged fields, perform_tryBegin_free hfree, h.reaches_flagged fields⟩

/-- Releasing a guard frees the flags it stands for. -/
theorem Sound.reaches_released (h : s.Sound) (guard : Guard) :
    Reaches s (Indexing.released guard s)
      { s.view with held := s.view.held.filter (·.2 != guard) } :=
  ⟨{ h with guards := fun p hp => h.guards p (List.mem_of_mem_filter hp) }, rfl, fun _ _ hx => hx⟩

/-- The release of a new guard leaves the flags that were held before. -/
theorem filter_held (held : List (FieldPath × Guard)) (fields : FieldPath) {guard : Guard}
    (hnew : ∀ p ∈ held, p.2 ≠ guard) :
    (held ++ [(fields, guard)]).filter (·.2 != guard) = held := by
  rw [List.filter_append, List.filter_eq_self.mpr fun p hp => bne_iff_ne.mpr (hnew p hp)]
  simp

/-! ### Builds -/

/-- A build that holds a flag: the listener is told of the start, the index is filled, the flag is
released, and the listener is told of the end. -/
theorem perform_buildHolding {listener : Listener σ} {s t : Session σ} {d : IndexDescriptor}
    {r : Result Unit} {rebuild : Bool}
    (hfill : (Indexing.fill d rebuild).perform (listener (.buildStart d.fields) s) = (r, t))
    (guard : Guard) :
    (Indexing.buildHolding listener guard d rebuild).perform s
      = (r, listener (.buildEnd d.fields) (Indexing.released guard t)) := by
  simp only [Indexing.buildHolding, publish, Action.perform_bind, Action.perform_modify,
    Action.perform_attempt, Action.perform_andAlways, hfill, Action.perform_ofResult]

/-- A build whose flag is held fills its index as the listener has left it, and releases the flag
in the end, whether it succeeds or not. -/
theorem buildHolding_spec (listener : Listener σ) {t : Session σ} (guard : Guard) (rebuild : Bool)
    (hstart : listener (.buildStart i.descriptor.fields) s = t)
    (hend : ∀ s, listener (.buildEnd i.descriptor.fields) s = s)
    (ht : t.Sound) (hi : i ∈ t.view.indexes) :
    ∃ s', (Indexing.buildHolding listener guard i.descriptor rebuild).perform s
        = (((IndexState.fill t.view.config t.view.documents rebuild).perform i).1, s') ∧
      Reaches t s'
        { t.view.put ((IndexState.fill t.view.config t.view.documents rebuild).perform i).2 with
          held := t.view.held.filter (·.2 != guard) } := by
  obtain ⟨s', hs', hreach⟩ := does_fill ht hi rebuild
  have hreleased := hreach.sound.reaches_released guard
  rw [hreach.view] at hreleased
  refine ⟨Indexing.released guard s', ?_, hreach.trans hreleased⟩
  rw [← hstart] at hs'
  rw [perform_buildHolding hs', hend, hstart]

/-- Building an index whose flag is held fills it, and frees the flag whether that fails or not. -/
theorem does_buildHolding (h : s.Sound) (hi : i ∈ s.view.indexes) (guard : Guard)
    (rebuild : Bool) :
    Does (Indexing.buildHolding Listener.silent guard i.descriptor rebuild) s
      ((IndexState.fill s.view.config s.view.documents rebuild).perform i).1
      { s.view.put ((IndexState.fill s.view.config s.view.documents rebuild).perform i).2 with
        held := s.view.held.filter (·.2 != guard) } :=
  buildHolding_spec Listener.silent guard rebuild rfl (fun _ => rfl) h hi

/-- A build of an index whose flag is free fills the index. -/
theorem does_tryBuild (h : s.Sound) (hi : i ∈ s.view.indexes)
    (hfree : s.view.isBuilding i.descriptor.fields = false) (rebuild : Bool) :
    Does (Indexing.tryBuild Listener.silent i.descriptor rebuild) s
      (((IndexState.fill s.view.config s.view.documents rebuild).perform i).1.map fun _ => true)
      (s.view.put ((IndexState.fill s.view.config s.view.documents rebuild).perform i).2) := by
  obtain ⟨guard, hnew, hbegin⟩ := does_tryBegin h hfree
  refine hbegin.bind_ok fun s₁ hs₁ => ?_
  have hi₁ : i ∈ s₁.view.indexes := by rwa [hs₁.view]
  have hbuild := does_buildHolding hs₁.sound hi₁ guard rebuild
  -- the guard's flag is the only one that the release takes away
  have hheld : s₁.view.held.filter (·.2 != guard) = s.view.held := by
    rw [hs₁.view, filter_held _ _ hnew]
  rw [hheld, hs₁.view] at hbuild
  exact hbuild.then_map fun _ => true

/-! ### Creating and rebuilding -/

/-- What a creation does before its build: it takes the flag and registers the index. -/
def register (fields : FieldPath) (kind : IndexKind) : SessionM σ (Guard × IndexDescriptor) := do
  match ← Indexing.tryBegin fields with
  | none => throw (.buildRunning fields)
  | some guard =>
    match ← (onCatalog (Catalog.create fields kind)).attempt with
    | .error e =>
      modify (Indexing.released guard)
      throw e
    | .ok m => return (guard, m.descriptor)

/-- What a rebuild does before its build: it takes the flag of the index. -/
def claim (fields : FieldPath) : SessionM σ (Guard × IndexDescriptor) := do
  match ← Indexing.find? fields with
  | none => throw (.notIndexed fields)
  | some d =>
    match ← Indexing.tryBegin d.fields with
    | none => throw (.buildRunning d.fields)
    | some guard => return (guard, d)

/-- A creation registers the index, builds it and answers with its descriptor. -/
theorem create_eq (listener : Listener σ) (fields : FieldPath) (kind : IndexKind) :
    Indexing.create listener fields kind = register fields kind >>= fun p =>
      Indexing.buildHolding listener p.1 p.2 false >>= fun _ => pure p.2 := by
  unfold Indexing.create register
  rw [bind_assoc]
  refine bind_congr fun guard? => ?_
  cases guard? with
  | none => rfl
  | some guard =>
    dsimp only
    rw [bind_assoc]
    refine bind_congr fun made => ?_
    cases made <;> rfl

/-- A rebuild takes the flag of an index that there is, and builds it. -/
theorem rebuild_eq (listener : Listener σ) (fields : FieldPath) :
    Indexing.rebuild listener fields = claim fields >>= fun p =>
      Indexing.buildHolding listener p.1 p.2 true := by
  unfold Indexing.rebuild Indexing.build Indexing.tryBuild claim
  rw [bind_assoc]
  refine bind_congr fun d? => ?_
  cases d? with
  | none => rfl
  | some d =>
    dsimp only
    rw [bind_assoc, bind_assoc]
    refine bind_congr fun guard? => ?_
    cases guard? with
    | none => rfl
    | some guard => simp

/-- Registering an index is refused if there can be none or if its flag is held, and nothing
changes. Otherwise it puts a new index into the view whose flag is held. -/
theorem does_register (h : s.Sound) (fields : FieldPath) (kind : IndexKind) :
    (¬(s.view.isBuilding fields = false ∧ s.view.Registrable fields kind) ∧
        ∃ e, Does (register fields kind) s (.error e) s.view) ∨
      ∃ guard d before after, d = ⟨kind, fields, s.view.name⟩ ∧
        s.view.indexes = before ++ after ∧ s.view.isBuilding fields = false ∧
        (∀ p ∈ s.view.held, p.2 ≠ guard) ∧
        Does (register fields kind) s (.ok (guard, d)) { s.view with
          held := s.view.held ++ [(fields, guard)]
          indexes := before ++ ⟨d, true, .empty d⟩ :: after } := by
  unfold register
  cases hheld : s.view.isBuilding fields with
  | true =>
    exact Or.inl ⟨by simp, _, (does_tryBegin_held h hheld).bind_ok fun _ hs' =>
      hs'.throw (.buildRunning fields)⟩
  | false =>
    obtain ⟨guard, hnew, s₁, hs₁, hreach₁⟩ := does_tryBegin h hheld
    rcases does_catalog_create hreach₁.sound fields kind with ⟨hnot, e, s₂, hs₂, hreach₂⟩ |
      ⟨m, before, after, hd, hindexes, s₂, hs₂, hreach₂⟩
    · -- the catalog refuses: the flag is given back
      rw [hreach₁.view] at hnot
      refine Or.inl ⟨fun hfree => hnot hfree.2, e, Indexing.released guard s₂, ?_, ?_⟩
      · simp only [Action.perform_bind, hs₁, Action.perform_attempt, hs₂, Action.perform_modify,
          Action.perform_throw]
      · have hreleased := hreach₂.sound.reaches_released guard
        rw [hreach₂.view, hreach₁.view, filter_held _ _ hnew] at hreleased
        exact (hreach₁.trans hreach₂).trans hreleased
    · rw [hreach₁.view] at hd hindexes hreach₂
      refine Or.inr ⟨guard, m.descriptor, before, after, hd, hindexes, rfl, hnew, s₂, ?_,
        hreach₁.trans hreach₂⟩
      simp only [Action.perform_bind, hs₁, Action.perform_attempt, hs₂, Action.perform_pure]

/-- Claiming an index is refused if there is none on the fields or if its flag is held, and
nothing changes. Otherwise its flag is held afterwards. -/
theorem does_claim (h : s.Sound) (fields : FieldPath) :
    (¬(s.view.isBuilding fields = false ∧ ∃ i ∈ s.view.indexes, i.descriptor.fields = fields) ∧
        ∃ e, (claim fields).perform s = (.error e, s)) ∨
      ∃ guard, ∃ i ∈ s.view.indexes, i.descriptor.fields = fields ∧
        s.view.isBuilding fields = false ∧ (∀ p ∈ s.view.held, p.2 ≠ guard) ∧
        Does (claim fields) s (.ok (guard, i.descriptor)) { s.view with
          held := s.view.held ++ [(fields, guard)] } := by
  unfold claim Indexing.find?
  have hfind := h.perform_descriptorOf? fields
  cases hget : SortedEntries.get? fields s.metaEntries with
  | none =>
    rw [hget] at hfind
    refine Or.inl ⟨?_, .notIndexed fields, ?_⟩
    · rintro ⟨-, i, hi, hfields⟩
      exact h.get?_eq_none_iff.mp hget i hi hfields
    · simp only [Action.perform_bind, hfind, Option.map_none, Action.perform_throw]
  | some m =>
    rw [hget] at hfind
    have hmem := h.get?_eq_some_iff.mp hget
    have hi : m.state s.store ∈ s.view.indexes := Sound.mem_indexes.mpr ⟨_, hmem, rfl⟩
    have hfields : m.descriptor.fields = fields := h.metasOwn _ hmem
    cases hheld : s.view.isBuilding fields with
    | true =>
      refine Or.inl ⟨by simp, .buildRunning fields, ?_⟩
      simp only [Action.perform_bind, hfind, Option.map_some, hfields, perform_tryBegin_held hheld,
        Action.perform_throw]
    | false =>
      -- the flag is set under a guard that no other build has
      obtain ⟨guard, hnew, s₁, hs₁, hreach₁⟩ := does_tryBegin h hheld
      refine Or.inr ⟨guard, m.state s.store, hi, hfields, rfl, hnew, s₁, ?_, hreach₁⟩
      simp only [Action.perform_bind, hfind, Option.map_some, hfields, hs₁, Action.perform_pure]
      rfl

/-- Building an index anew is refused if there is none on the fields or if a build of it is
running. Otherwise the index is filled. -/
theorem does_rebuild (h : s.Sound) (fields : FieldPath) :
    (∃ e, Does (Indexing.rebuild Listener.silent fields) s (.error e) s.view) ∨
      ∃ i ∈ s.view.indexes, i.descriptor.fields = fields ∧
        s.view.isBuilding fields = false ∧
        Does (Indexing.rebuild Listener.silent fields) s (s.view.rebuild.perform i).1
          (s.view.put (s.view.rebuild.perform i).2) := by
  rw [rebuild_eq]
  rcases does_claim h fields with ⟨-, e, hrefused⟩ | ⟨guard, i, hi, hfields, hfree, hnew, hclaim⟩
  · exact Or.inl ⟨e, Does.bind_error ⟨s, hrefused, Reaches.refl h⟩⟩
  · refine Or.inr ⟨i, hi, hfields, hfree, hclaim.bind_ok fun s₁ hs₁ => ?_⟩
    have hi₁ : i ∈ s₁.view.indexes := by rwa [hs₁.view]
    have hbuild := does_buildHolding hs₁.sound hi₁ guard true
    rw [hs₁.view, filter_held _ _ hnew] at hbuild
    exact hbuild

/-- Creating an index is refused if there can be none or if its flag is held, and nothing changes.
Otherwise it puts a new index into the view and fills it. If the fill fails, the index stays,
dirty. -/
theorem does_create (h : s.Sound) (fields : FieldPath) (kind : IndexKind) :
    (¬(s.view.isBuilding fields = false ∧ s.view.Registrable fields kind) ∧
        ∃ e, Does (Indexing.create Listener.silent fields kind) s (.error e) s.view) ∨
      ∃ d before after, d = ⟨kind, fields, s.view.name⟩ ∧ s.view.indexes = before ++ after ∧
        s.view.isBuilding fields = false ∧
        Does (Indexing.create Listener.silent fields kind) s
          (((IndexState.fill s.view.config s.view.documents false).perform
            ⟨d, true, .empty d⟩).1.map fun _ => d)
          { s.view with indexes := before ++ ((IndexState.fill s.view.config s.view.documents
            false).perform ⟨d, true, .empty d⟩).2 :: after } := by
  rw [create_eq]
  rcases does_register h fields kind with
    ⟨hnot, e, hrefused⟩ | ⟨guard, d, before, after, hd, hindexes, hfree, hnew, hregister⟩
  · exact Or.inl ⟨hnot, e, hrefused.bind_error⟩
  · refine Or.inr ⟨d, before, after, hd, hindexes, hfree, hregister.bind_ok fun s₁ hs₁ => ?_⟩
    have hi₁ : ⟨d, true, .empty d⟩ ∈ s₁.view.indexes := by
      rw [hs₁.view]
      exact List.mem_append_right _ List.mem_cons_self
    have hbuild := (does_buildHolding hs₁.sound hi₁ guard false).then_map fun _ => d
    -- the build leaves the index where the registration has put it
    have hplace := View.put_append ((IndexState.fill s₁.view.config s₁.view.documents
      false).perform ⟨d, true, .empty d⟩).2 hs₁.sound.nodup_fields (by rw [hs₁.view]) (by simp)
    have hview : { s₁.view.put ((IndexState.fill s₁.view.config s₁.view.documents false).perform
          ⟨d, true, .empty d⟩).2 with held := s₁.view.held.filter (·.2 != guard) }
        = { s.view with indexes := before ++ ((IndexState.fill s.view.config s.view.documents
            false).perform ⟨d, true, .empty d⟩).2 :: after } := by
      rw [View.mk.injEq, hplace, hs₁.view, filter_held _ _ hnew]
      exact ⟨rfl, rfl, rfl, rfl, rfl, rfl, rfl⟩
    rw [hview, hs₁.view] at hbuild
    exact hbuild

end Session

end DocumentDb
