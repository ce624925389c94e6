import DocumentDb.Proofs.Lifecycle

/-!
# `DocumentDb.Proofs.Dropping`: drops of indexes seen from the view

An index that is dropped leaves the view and takes its backing map and its handle with it,
so no handle that is kept leads to a map that is gone (`ends_drop`). `ends_dropAll` says the
same of all indexes at once. The other indexes and the records are found under other names,
which is why they stay as they are.
-/

set_option autoImplicit false

namespace DocumentDb.Session

open SortedEntries (Sorted)
open Store (Refers entriesOf lookup)

variable {σ : Type} {s : Session σ}

/-! ### One index -/

/-- The session after the index with some metadata has been dropped. -/
def withoutIndex (s : Session σ) (m : IndexMeta) : Session σ :=
  { s with
    store := (s.store.dropMap m.mapName).setEntries s.collection.catalog.metaMap
      (SortedEntries.erase m.descriptor.fields s.metaEntries)
    collection := { s.collection with
      catalog := { s.collection.catalog with cache := none }
      handles := SortedEntries.erase m.mapName s.collection.handles
      builds := s.collection.builds.forget m.descriptor.fields } }

/-- The name of a backing map is neither that of the records nor that of the metadata. -/
theorem Sound.mapName_apart (h : s.Sound) {e : FieldPath × IndexMeta} (he : e ∈ s.metaEntries) :
    s.collection.name ≠ e.2.mapName ∧ metaMapName s.collection.name ≠ e.2.mapName := by
  obtain ⟨g, -, hn⟩ := h.issued e he
  rw [hn]
  exact ⟨ne_indexMapName_of_isName h.named _ _, (indexMapName_ne_metaMapName _ _ _).symm⟩

/-- Neither the records nor the metadata are among the backing maps. -/
theorem Sound.mapName_not_mem (h : s.Sound) :
    s.collection.name ∉ s.metaEntries.map (·.2.mapName) ∧
      metaMapName s.collection.name ∉ s.metaEntries.map (·.2.mapName) := by
  refine ⟨fun hmem => ?_, fun hmem => ?_⟩ <;> obtain ⟨e, he, hn⟩ := List.mem_map.mp hmem
  · exact (h.mapName_apart he).1 hn.symm
  · exact (h.mapName_apart he).2 hn.symm

section withoutIndex

variable (h : s.Sound) {e : FieldPath × IndexMeta} (he : e ∈ s.metaEntries)

include h he

/-- The metadata are found as before when a backing map is gone. -/
theorem Sound.metas_dropMap : Refers (s.store.dropMap e.2.mapName).metas
    s.collection.catalog.metaMap (metaMapName s.collection.name) :=
  h.metas.dropIn (h.mapName_apart he).2

/-- The metadata that stay are those under other fields. -/
theorem Sound.metaEntries_withoutIndex :
    (s.withoutIndex e.2).metaEntries = s.metaEntries.filter fun e' => e'.1 != e.1 := by
  have herase : (s.withoutIndex e.2).metaEntries
      = SortedEntries.erase e.2.descriptor.fields s.metaEntries :=
    (Store.entriesOf_modify (h.metas_dropMap he) _ _).trans (if_pos rfl)
  rw [herase, h.metasSorted.erase_eq_filter, h.metasOwn e he]
  refine List.filter_congr fun e' _ => ?_
  rw [Bool.eq_iff_iff, bne_iff_ne, bne_iff_ne]
  exact not_congr (Std.LawfulEqOrd.compare_eq_iff_eq.trans eq_comm)

/-- The metadata that stay are those of indexes with other backing maps. -/
theorem Sound.mem_withoutIndex {e' : FieldPath × IndexMeta} :
    e' ∈ (s.withoutIndex e.2).metaEntries ↔
      e' ∈ s.metaEntries ∧ e'.2.mapName ≠ e.2.mapName := by
  rw [h.metaEntries_withoutIndex he, List.mem_filter, bne_iff_ne]
  refine and_congr_right fun he' => not_congr ⟨fun hk => ?_, fun hn => ?_⟩
  · rw [h.entry_eq_of_key he' he hk]
  · rw [h.entry_eq_of_mapName he' he hn]

/-- Dropping an index leaves the records as they are. -/
theorem Sound.recordEntries_withoutIndex :
    (s.withoutIndex e.2).recordEntries = s.recordEntries :=
  (Store.entriesOf_dropIn _ _ _).trans (if_neg (h.mapName_apart he).1)

/-- Dropping an index makes no map of metadata. -/
theorem Sound.lookup_metas_withoutIndex {name : String}
    (hnone : lookup name s.store.metas = none) :
    lookup name (s.withoutIndex e.2).store.metas = none := by
  refine (Store.lookup_modify (h.metas_dropMap he) _ name).trans ?_
  refine (if_neg ?_).trans (Store.lookup_dropIn_eq_none hnone _)
  rintro rfl
  rw [Store.lookup_of_openPosition? h.metas] at hnone
  cases hnone

omit h he in
/-- A handle to another backing map is still good. -/
theorem backed_withoutIndex {m : IndexMeta} {x : IndexHandle} {d : IndexDescriptor}
    {name : String} (hne : name ≠ m.mapName) (hb : s.Backed x d name) :
    (s.withoutIndex m).Backed x d name := by
  obtain ⟨d', n', backing⟩ := x
  obtain ⟨hd, hn, hb⟩ := hb
  refine ⟨hd, hn, ?_⟩
  cases backing with
  | ordered map =>
    exact ⟨hb.1, hb.2.dropIn hne⟩
  | fullText map tokenizer =>
    exact ⟨hb.1, hb.2.1, hb.2.2.dropIn hne⟩

/-- A session without one of its indexes is sound. -/
theorem Sound.sound_withoutIndex : (s.withoutIndex e.2).Sound where
  named := h.named
  undropped := h.undropped
  catalog := h.catalog
  records := h.records.dropIn (h.mapName_apart he).1
  metas := (h.metas_dropMap he).modify _ _
  recordsSorted := h.recordEntries_withoutIndex he ▸ h.recordsSorted
  metasSorted := h.metaEntries_withoutIndex he ▸ List.Pairwise.filter _ h.metasSorted
  metasOwn e' he' := h.metasOwn e' ((h.mem_withoutIndex he).mp he').1
  issued e' he' := h.issued e' ((h.mem_withoutIndex he).mp he').1
  unshared := by
    rw [h.metaEntries_withoutIndex he]
    exact (List.filter_sublist.map _).nodup h.unshared
  fresh d g hg := by
    obtain ⟨hr, hm, hi, ht⟩ := Store.hasMap_eq_false_iff.mp (h.fresh d g hg)
    exact Store.hasMap_eq_false_iff.mpr ⟨Store.lookup_dropIn_eq_none hr _,
      h.lookup_metas_withoutIndex he hm, Store.lookup_dropIn_eq_none hi _,
      Store.lookup_dropIn_eq_none ht _⟩
  suited e' he' := by
    obtain ⟨hr, hm, hi, ht⟩ := h.suited e' ((h.mem_withoutIndex he).mp he').1
    exact ⟨Store.lookup_dropIn_eq_none hr _, h.lookup_metas_withoutIndex he hm,
      fun hk => Store.lookup_dropIn_eq_none (hi hk) _,
      fun hk => Store.lookup_dropIn_eq_none (ht hk) _⟩
  cache := by simp [withoutIndex]
  handlesSorted := h.handlesSorted.erase
  handles mapName x hx := by
    have hx' : SortedEntries.get? mapName
        (SortedEntries.erase e.2.mapName s.collection.handles) = some x := hx
    rw [h.handlesSorted.get?_erase] at hx'
    split at hx'
    · cases hx'
    · rename_i hne
      obtain ⟨e', he', rfl, hb⟩ := h.handles mapName x hx'
      -- a handle that is kept has another name, so its map is still there
      have hne' : e'.2.mapName ≠ e.2.mapName :=
        fun heq => hne (heq ▸ Std.ReflOrd.compare_self)
      exact ⟨e', (h.mem_withoutIndex he).mpr ⟨he', hne'⟩, rfl, backed_withoutIndex hne' hb⟩
  guards p hp := h.guards p (List.mem_of_mem_filter hp)

/-- A view without one of its indexes shows neither the index nor a guard on its fields. -/
theorem Sound.view_withoutIndex : (s.withoutIndex e.2).view = { s.view with
    held := s.view.held.filter (·.1 != e.2.descriptor.fields)
    indexes := s.view.indexes.filter fun i => i.descriptor.fields != e.2.descriptor.fields } := by
  rw [view, View.mk.injEq]
  refine ⟨rfl, rfl, rfl, rfl, rfl, h.recordEntries_withoutIndex he, ?_⟩
  have hfilter : s.metaEntries.filter (fun e' => e'.1 != e.1)
      = s.metaEntries.filter fun e' => e'.2.descriptor.fields != e.2.descriptor.fields :=
    List.filter_congr fun e' he' => by rw [h.metasOwn e' he', h.metasOwn e he]
  have hstate : ∀ e' ∈ (s.withoutIndex e.2).metaEntries,
      e'.2.state (s.withoutIndex e.2).store = e'.2.state s.store := by
    intro e' he'
    have hne := ((h.mem_withoutIndex he).mp he').2
    have hi : entriesOf e'.2.mapName (s.withoutIndex e.2).store.indexes
        = entriesOf e'.2.mapName s.store.indexes :=
      (Store.entriesOf_dropIn _ _ _).trans (if_neg hne)
    have ht : entriesOf e'.2.mapName (s.withoutIndex e.2).store.texts
        = entriesOf e'.2.mapName s.store.texts :=
      (Store.entriesOf_dropIn _ _ _).trans (if_neg hne)
    rw [IndexMeta.state, Store.content, hi, ht]
    rfl
  rw [List.map_congr_left hstate, h.metaEntries_withoutIndex he, hfilter, view, List.filter_map]
  rfl

end withoutIndex

/-- An index that is being built is not dropped. -/
theorem perform_drop_held {fields : FieldPath} (hheld : s.view.isBuilding fields = true) :
    (Indexing.drop fields).perform s = (.error (.dropDuringBuild fields), s) := by
  simp only [Indexing.drop, Action.perform_bind, perform_isBuilding, hheld, if_true,
    Action.perform_throw]

/-- Without an index on the fields there is none to drop. -/
theorem Sound.perform_drop_missing (h : s.Sound) {fields : FieldPath}
    (hfree : s.view.isBuilding fields = false)
    (hnone : SortedEntries.get? fields s.metaEntries = none) :
    (Indexing.drop fields).perform s = (.error (.notIndexed fields), s) := by
  have hpart := h.metaOf?_part fields
  unfold catalogPart at hpart
  rw [hnone] at hpart
  simp only [Indexing.drop, Action.perform_bind, perform_isBuilding, hfree, Bool.false_eq_true,
    if_false, perform_onCatalog, Catalog.remove, hpart, Action.perform_throw]

/-- Dropping the index with some metadata. -/
theorem Sound.perform_drop (h : s.Sound) {fields : FieldPath} {m : IndexMeta}
    (hfree : s.view.isBuilding fields = false)
    (hget : SortedEntries.get? fields s.metaEntries = some m) :
    (Indexing.drop fields).perform s = (.ok (), s.withoutIndex m) := by
  have hpart := h.metaOf?_part fields
  unfold catalogPart at hpart
  rw [hget] at hpart
  have hmem := h.get?_eq_some_iff.mp hget
  have hfields : m.descriptor.fields = fields := h.metasOwn _ hmem
  have hmetas : Refers (MapKind.maps (s.store.dropMap m.mapName))
      s.collection.catalog.metaMap (metaMapName s.collection.name) := h.metas_dropMap hmem
  have herase := MapRef.perform_erase (s := s.store.dropMap m.mapName) hmetas fields
  have hentries : entriesOf (metaMapName s.collection.name)
      (MapKind.maps (K := FieldPath) (s.store.dropMap m.mapName)) = s.metaEntries :=
    (Store.entriesOf_dropIn _ _ _).trans (if_neg (h.mapName_apart hmem).2)
  rw [hentries] at herase
  simp only [Indexing.drop, Action.perform_bind, perform_isBuilding, hfree,
    Bool.false_eq_true, if_false, perform_onCatalog, Catalog.remove, hpart,
    Catalog.onStore, Action.perform_within, Store.dropNamed, Action.perform_modify,
    Catalog.onMap, Action.perform_get, herase, Catalog.setCache, Action.perform_pure,
    perform_change, withoutIndex, hfields]

/-- There is no flag to forget when none is held. -/
theorem filter_held_of_free {fields : FieldPath} (hfree : s.view.isBuilding fields = false) :
    s.view.held.filter (·.1 != fields) = s.view.held := by
  rw [List.filter_eq_self]
  intro p hp
  rw [View.isBuilding, List.any_eq_false] at hfree
  simpa using hfree p hp

/-- Dropping an index is refused if there is none on the fields or if a build of it is
running. Otherwise the index leaves the view. -/
theorem ends_drop (h : s.Sound) (fields : FieldPath) :
    (∃ e, Ends (Indexing.drop fields) s (.error e) s.view) ∨
      Ends (Indexing.drop fields) s (.ok ())
        { s.view with
          indexes := s.view.indexes.filter fun i => i.descriptor.fields != fields } := by
  cases hheld : s.view.isBuilding fields with
  | true => exact Or.inl ⟨_, s, perform_drop_held hheld, h, rfl⟩
  | false =>
    cases hget : SortedEntries.get? fields s.metaEntries with
    | none => exact Or.inl ⟨_, s, h.perform_drop_missing hheld hget, h, rfl⟩
    | some m =>
      have hmem := h.get?_eq_some_iff.mp hget
      have hfields : m.descriptor.fields = fields := h.metasOwn _ hmem
      refine Or.inr ⟨s.withoutIndex m, h.perform_drop hheld hget, h.sound_withoutIndex hmem, ?_⟩
      rw [h.view_withoutIndex hmem, hfields, filter_held_of_free hheld]

/-! ### All indexes -/

/-- The handles of several indexes, opened in turn. -/
theorem Sound.handlesOf (h : s.Sound) {es : List (FieldPath × IndexMeta)}
    (hes : ∀ e ∈ es, e ∈ s.metaEntries) :
    ∃ xs s', ((es.map (·.2)).mapM Indexing.handleOf : SessionM σ _).perform s = (.ok xs, s') ∧
      Reaches s s' s.view ∧ s'.metaEntries = s.metaEntries ∧
      xs.map (·.mapName) = es.map (·.2.mapName) := by
  induction es generalizing s with
  | nil => exact ⟨[], s, rfl, Reaches.refl h, rfl, rfl⟩
  | cons e es ih =>
    obtain ⟨x, s₁, hs₁, hreach₁, hmetas₁, hb⟩ := h.handleOf (hes e List.mem_cons_self)
    obtain ⟨xs, s₂, hs₂, hreach₂, hmetas₂, hnames⟩ := ih hreach₁.sound fun e' he' =>
      hmetas₁ ▸ hes e' (List.mem_cons_of_mem _ he')
    rw [hreach₁.view] at hreach₂
    refine ⟨x :: xs, s₂, ?_, hreach₁.trans hreach₂, hmetas₂.trans hmetas₁, ?_⟩
    · rw [List.map_cons, List.mapM_cons]
      simp only [Action.perform_bind, hs₁, hs₂, Action.perform_pure]
    · rw [List.map_cons, List.map_cons, hb.2.1, hnames]

/-- Dropping the maps of handles, one after the other. -/
theorem perform_dropHandles (xs : List IndexHandle) (s : Session σ) :
    (xs.forM fun x => onStore x.drop : SessionM σ _).perform s
      = (.ok ⟨⟩, { s with store := s.store.dropMaps (xs.map (·.mapName)) }) := by
  induction xs generalizing s with
  | nil => rfl
  | cons x xs ih =>
    change Action.perform (onStore x.drop >>= fun _ => xs.forM fun x => onStore x.drop) s = _
    have hdrop : (onStore x.drop : SessionM σ Unit).perform s
        = (.ok (), { s with store := s.store.dropMap x.mapName }) := rfl
    rw [Action.perform_bind, hdrop]
    exact ih _

/-- The session after the backing maps of all indexes and the catalog have been dropped, with a
new catalog. -/
def withoutIndexes (s : Session σ) : Session σ :=
  let store := ((s.store.dropMaps (s.metaEntries.map (·.2.mapName))).setEntries
    s.collection.catalog.metaMap []).dropMap (metaMapName s.collection.name)
  { s with
    store := { store with
      metas := store.metas ++ [NamedMap.create (metaMapName s.collection.name)] }
    collection := { s.collection with
      catalog := ⟨s.collection.name, ⟨store.metas.length⟩, none⟩
      handles := []
      builds := s.collection.builds.forgetAll } }

section withoutIndexes

variable (h : s.Sound)

include h

/-- The metadata are found as before when the backing maps are gone. -/
theorem Sound.metas_dropMaps : Refers (s.store.dropMaps (s.metaEntries.map (·.2.mapName))).metas
    s.collection.catalog.metaMap (metaMapName s.collection.name) := by
  rw [Store.dropMaps_eq]
  exact h.metas.dropAll h.mapName_not_mem.2

/-- The records have none of the names that are dropped. -/
theorem Sound.records_withoutIndexes :
    Refers s.withoutIndexes.store.records s.collection.records s.collection.name := by
  unfold withoutIndexes
  rw [Store.dropMaps_eq]
  exact (h.records.dropAll h.mapName_not_mem.1).dropIn (ne_metaMapName_of_isName h.named _)

/-- Dropping all indexes leaves the records as they are. -/
theorem Sound.recordEntries_withoutIndexes :
    s.withoutIndexes.recordEntries = s.recordEntries := by
  unfold withoutIndexes recordEntries Store.entriesOf
  rw [Store.dropMaps_eq]
  refine congrArg (Option.getD · []) ?_
  refine (Store.lookup_dropIn _ _ _).trans ?_
  rw [if_neg (ne_metaMapName_of_isName h.named _)]
  exact Store.lookup_dropAll _ _ _ h.mapName_not_mem.1

omit h in
/-- The new catalog is empty. -/
theorem metaEntries_withoutIndexes : s.withoutIndexes.metaEntries = [] := by
  unfold withoutIndexes metaEntries
  refine (Store.entriesOf_append _ _ _).trans ?_
  exact (Store.entriesOf_dropIn _ _ _).trans (if_pos rfl)

omit h in
/-- The new catalog is found by its name. -/
theorem metas_withoutIndexes : Refers s.withoutIndexes.store.metas
    s.withoutIndexes.collection.catalog.metaMap (metaMapName s.collection.name) :=
  Store.refers_append ((Store.lookup_dropIn _ _ _).trans (if_pos rfl))

/-- Only the catalog was made anew, and its name is none that is issued for an index. -/
theorem Sound.fresh_withoutIndexes (d : IndexDescriptor) (g : Nat)
    (hg : s.withoutIndexes.store.generation ≤ g) :
    s.withoutIndexes.store.hasMap (indexMapName d g) = false := by
  have hmetas := h.metas_dropMaps
  unfold withoutIndexes at hg ⊢
  rw [Store.dropMaps_eq] at hg hmetas ⊢
  obtain ⟨hr, hm, hi, ht⟩ := Store.hasMap_eq_false_iff.mp (h.fresh d g hg)
  have hother := indexMapName_ne_metaMapName d g s.collection.name
  refine Store.hasMap_eq_false_iff.mpr ⟨?_, ?_, ?_, ?_⟩
  · exact Store.lookup_dropIn_eq_none (Store.lookup_dropAll_eq_none hr _) _
  · refine Store.lookup_append_eq_none (Store.lookup_dropIn_eq_none ?_ _) hother
    refine (Store.lookup_modify hmetas [] _).trans ((if_neg hother).trans ?_)
    exact Store.lookup_dropAll_eq_none hm _
  · exact Store.lookup_dropIn_eq_none (Store.lookup_dropAll_eq_none hi _) _
  · exact Store.lookup_dropIn_eq_none (Store.lookup_dropAll_eq_none ht _) _

/-- A session without its indexes is sound. -/
theorem Sound.sound_withoutIndexes : s.withoutIndexes.Sound where
  named := h.named
  undropped := h.undropped
  catalog := rfl
  records := h.records_withoutIndexes
  metas := metas_withoutIndexes
  recordsSorted := h.recordEntries_withoutIndexes ▸ h.recordsSorted
  metasSorted := metaEntries_withoutIndexes (s := s) ▸ SortedEntries.sorted_nil
  metasOwn := by simp [metaEntries_withoutIndexes]
  issued := by simp [metaEntries_withoutIndexes]
  unshared := by simp [metaEntries_withoutIndexes]
  fresh := h.fresh_withoutIndexes
  suited := by simp [metaEntries_withoutIndexes]
  cache := by simp [withoutIndexes]
  handlesSorted := SortedEntries.sorted_nil
  handles := by simp [withoutIndexes]
  guards := by simp [withoutIndexes, Builds.forgetAll]

/-- A view without its indexes shows the same records, and no guards. -/
theorem Sound.view_withoutIndexes :
    s.withoutIndexes.view = { s.view with held := [], indexes := [] } := by
  rw [view, metaEntries_withoutIndexes, h.recordEntries_withoutIndexes]
  rfl

end withoutIndexes

/-- While an index is being built, none is dropped. -/
theorem perform_dropAll_held (hheld : s.view.held ≠ []) :
    (Indexing.dropAll : SessionM σ Unit).perform s = (.error .dropAllDuringBuild, s) := by
  have hbuilding : s.collection.builds.anyBuilding = true := by
    rw [Builds.anyBuilding, Bool.not_eq_true', List.isEmpty_eq_false_iff]
    exact hheld
  simp only [Indexing.dropAll, Action.perform_bind, perform_here, hbuilding, if_true,
    Action.perform_throw]

/-- Dropping all indexes when no build is running: their handles are opened first. -/
theorem Sound.perform_dropAll (h : s.Sound) (hnone : s.view.held = []) :
    ∃ xs s₁, ((s.metaEntries.map (·.2)).mapM Indexing.handleOf : SessionM σ _).perform s
        = (.ok xs, s₁) ∧ Reaches s s₁ s.view ∧
      (Indexing.dropAll : SessionM σ Unit).perform s = (.ok (), s₁.withoutIndexes) := by
  have hheld : s.collection.builds.anyBuilding = false := by
    rw [Builds.anyBuilding, Bool.not_eq_false', List.isEmpty_iff]
    exact hnone
  obtain ⟨xs, s₁, hs₁, hreach₁, hmetas₁, hnames⟩ := h.handlesOf fun e he => he
  refine ⟨xs, s₁, hs₁, hreach₁, ?_⟩
  have hdrops := perform_dropHandles xs s₁
  rw [hnames, ← hmetas₁] at hdrops
  simp only [Indexing.dropAll, Action.perform_bind, perform_here, hheld, Bool.false_eq_true,
    if_false, h.perform_metas, hs₁, hdrops, perform_change]
  have hclear := MapRef.perform_clear
    (s := s₁.store.dropMaps (s₁.metaEntries.map (·.2.mapName))) hreach₁.sound.metas_dropMaps
  have hnew := Store.perform_openMap_new (K := FieldPath)
    (Store.lookup_eq_none_iff.mp (Store.hasMap_eq_false_iff.mp
      (Store.hasMap_dropMap ((s₁.store.dropMaps (s₁.metaEntries.map (·.2.mapName))).setEntries
        s₁.collection.catalog.metaMap []) (metaMapName s₁.collection.name))).2.1)
    (Store.hasMap_dropMap _ _)
  simp only [perform_onCatalog, Catalog.dropMap, Catalog.onMap, Catalog.onStore,
    Action.perform_bind, Action.perform_get, Action.perform_within, hclear, Store.dropNamed,
    Action.perform_modify, Catalog.setCache, hreach₁.sound.catalog, perform_onStore,
    Catalog.openMap, hnew, Action.perform_pure, withoutIndexes]
  rfl

/-- Dropping all indexes is refused while a build is running. Otherwise no index is left. -/
theorem ends_dropAll (h : s.Sound) :
    (∃ e, Ends (Indexing.dropAll : SessionM σ Unit) s (.error e) s.view) ∨
      Ends (Indexing.dropAll : SessionM σ Unit) s (.ok ()) { s.view with indexes := [] } := by
  by_cases hnone : s.view.held = []
  swap
  · exact Or.inl ⟨_, s, perform_dropAll_held hnone, h, rfl⟩
  · obtain ⟨xs, s₁, -, hreach₁, hdrop⟩ := h.perform_dropAll hnone
    refine Or.inr ⟨s₁.withoutIndexes, hdrop, hreach₁.sound.sound_withoutIndexes, ?_⟩
    rw [hreach₁.sound.view_withoutIndexes, hreach₁.view, ← hnone]

end DocumentDb.Session
