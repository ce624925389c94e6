import DocumentDb.Proofs.Backing

/-!
# `DocumentDb.Proofs.Catalog`: the catalog of a sound session

The catalog is a map of metadata with a cache beside it. In a sound session its questions
are answered from the view (`perform_metaOf?`, `does_descriptors`, `perform_isDirty`), and
its changes are changes of the view: `does_setDirty` moves the flag of one index, and
`does_catalog_create` puts a new, dirty and empty index into its place in the order of
fields.
-/

set_option autoImplicit false

namespace DocumentDb

open SortedEntries (Sorted)

/-- Whether there can be a new index on some fields: it is not a full-text index on several of
them, and no index is on these fields already. -/
def View.Registrable (v : View) (fields : FieldPath) (kind : IndexKind) : Prop :=
  (kind == .fullText && fields.isCompound) = false ∧ ∀ i ∈ v.indexes, i.descriptor.fields ≠ fields

namespace Session

open Store (entriesOf lookup)

variable {σ : Type} {s : Session σ} {i : IndexState}

/-! ### Questions -/

/-- The catalog's part of a session. -/
def catalogPart (s : Session σ) : Store × Catalog := (s.store, s.collection.catalog)

/-- A question to the catalog leaves the session as it is. -/
theorem perform_question {α : Type} {x : CatalogM α} {r : Result α}
    (hx : x.perform s.catalogPart = (r, s.catalogPart)) : (onCatalog x).perform s = (r, s) := by
  unfold catalogPart at hx
  rw [perform_onCatalog, hx]

/-- What is done to the metadata map is done to the store alone. -/
theorem perform_onMap {α : Type} (f : MapRef FieldPath → StoreM α) :
    (Catalog.onMap f).perform s.catalogPart
      = (((f s.collection.catalog.metaMap).perform s.store).1,
          (((f s.collection.catalog.metaMap).perform s.store).2, s.collection.catalog)) := rfl

/-- The catalog finds the metadata under some fields. -/
theorem Sound.metaOf?_part (h : s.Sound) (fields : FieldPath) :
    (Catalog.metaOf? fields).perform s.catalogPart
      = (.ok (SortedEntries.get? fields s.metaEntries), s.catalogPart) := by
  rw [Catalog.metaOf?, perform_onMap, MapRef.perform_get? (s := s.store) h.metas fields]
  rfl

/-- The catalog lists all its metadata, by their fields. -/
theorem Sound.metas_part (h : s.Sound) :
    Catalog.metas.perform s.catalogPart = (.ok (s.metaEntries.map (·.2)), s.catalogPart) := by
  unfold Catalog.metas
  rw [Action.perform_bind, perform_onMap, MapRef.perform_entries (s := s.store) h.metas]
  rfl

/-- Asking a session for the metadata under some fields leaves it as it is. -/
theorem Sound.perform_metaOf? (h : s.Sound) (fields : FieldPath) :
    (onCatalog (Catalog.metaOf? fields)).perform s
      = (.ok (SortedEntries.get? fields s.metaEntries), s) :=
  perform_question (h.metaOf?_part fields)

/-- Asking a session for all metadata leaves it as it is. -/
theorem Sound.perform_metas (h : s.Sound) :
    (onCatalog Catalog.metas).perform s = (.ok (s.metaEntries.map (·.2)), s) :=
  perform_question h.metas_part

/-- Fields are dirty if there is an index on them and its metadata say so. -/
theorem Sound.perform_isDirty (h : s.Sound) (fields : FieldPath) :
    (onCatalog (Catalog.isDirty fields)).perform s
      = (.ok ((SortedEntries.get? fields s.metaEntries).any (·.dirty)), s) := by
  apply perform_question
  unfold Catalog.isDirty
  rw [Action.perform_bind, h.metaOf?_part]
  rfl

/-- The descriptor under some fields is that of their metadata. -/
theorem Sound.perform_descriptorOf? (h : s.Sound) (fields : FieldPath) :
    (onCatalog (Catalog.descriptorOf? fields)).perform s
      = (.ok ((SortedEntries.get? fields s.metaEntries).map (·.descriptor)), s) := by
  apply perform_question
  unfold Catalog.descriptorOf?
  rw [Action.perform_bind, h.metaOf?_part]
  rfl

/-- The metadata of an index. -/
theorem Sound.exists_meta (h : s.Sound) (hi : i ∈ s.view.indexes) :
    ∃ m, SortedEntries.get? i.descriptor.fields s.metaEntries = some m ∧ m.state s.store = i := by
  obtain ⟨e, he, rfl⟩ := mem_indexes.mp hi
  refine ⟨e.2, h.get?_eq_some_iff.mpr ?_, rfl⟩
  have hkey : (e.2.state s.store).descriptor.fields = e.1 := h.metasOwn e he
  rw [hkey]
  exact he

/-- The catalog knows no index exactly when the view shows none. -/
theorem Sound.get?_eq_none_iff (h : s.Sound) {fields : FieldPath} :
    SortedEntries.get? fields s.metaEntries = none ↔
      ∀ i ∈ s.view.indexes, i.descriptor.fields ≠ fields := by
  constructor
  · intro hnone i hi hfields
    obtain ⟨m, hm, -⟩ := h.exists_meta hi
    rw [hfields, hnone] at hm
    cases hm
  · intro hall
    cases hget : SortedEntries.get? fields s.metaEntries with
    | none => rfl
    | some m =>
      have hmem := h.get?_eq_some_iff.mp hget
      exact absurd (h.metasOwn _ hmem) (hall _ (mem_indexes.mpr ⟨_, hmem, rfl⟩))

/-- The flag that the catalog has for an index is the one that the view shows. -/
theorem Sound.perform_isDirty_index (h : s.Sound) (hi : i ∈ s.view.indexes) :
    (onCatalog (Catalog.isDirty i.descriptor.fields)).perform s = (.ok i.dirty, s) := by
  obtain ⟨m, hm, rfl⟩ := h.exists_meta hi
  rw [h.perform_isDirty, hm]
  rfl

/-- The cache is no part of what a session shows. -/
theorem Sound.reaches_cache (h : s.Sound) (cache : Option (List IndexDescriptor))
    (hcache : ∀ ds, cache = some ds → ds = s.metaEntries.map fun e => e.2.descriptor) :
    Reaches s { s with collection := { s.collection with
      catalog := { s.collection.catalog with cache } } } s.view :=
  ⟨{ h with cache := hcache }, rfl, fun _ _ hx => hx⟩

/-- Listing the indexes fills the cache and changes nothing else. -/
theorem Sound.perform_descriptors (h : s.Sound) :
    ∃ cache, (∀ ds, cache = some ds → ds = s.metaEntries.map fun e => e.2.descriptor) ∧
      (onCatalog Catalog.descriptors).perform s
        = (.ok (s.view.indexes.map (·.descriptor)), { s with collection := { s.collection with
            catalog := { s.collection.catalog with cache } } }) := by
  have hds : s.view.indexes.map (·.descriptor) = s.metaEntries.map fun e => e.2.descriptor := by
    rw [view, List.map_map]
    rfl
  rw [hds]
  cases hcache : s.collection.catalog.cache with
  -- the cache is right if it is filled
  | some ds =>
    refine ⟨some ds, fun ds' hds' => h.cache ds' (hcache.trans hds'), ?_⟩
    rw [← h.cache ds hcache, ← hcache]
    refine perform_question ?_
    unfold Catalog.descriptors
    rw [Action.perform_bind, Action.perform_get]
    simp only [catalogPart, hcache, Action.perform_pure]
  -- else it is filled from the metadata
  | none =>
    refine ⟨some (s.metaEntries.map fun e => e.2.descriptor),
      fun ds hs => (Option.some.inj hs).symm, ?_⟩
    have hmetas := h.metas_part
    rw [perform_onCatalog]
    unfold Catalog.descriptors
    unfold catalogPart at hmetas
    simp only [Action.perform_bind, Action.perform_get, hcache, hmetas, Catalog.setCache,
      Action.perform_modify, Action.perform_pure, List.map_map]
    rfl

/-- Listing the indexes gives their descriptors and changes nothing that the session shows. -/
theorem does_descriptors (h : s.Sound) :
    Does (onCatalog Catalog.descriptors) s (.ok (s.view.indexes.map (·.descriptor))) s.view := by
  obtain ⟨cache, hcache, hrun⟩ := h.perform_descriptors
  exact ⟨_, hrun, h.reaches_cache cache hcache⟩

/-! ### Changes -/

/-- The session with other metadata in the catalog, whose cache is emptied. -/
def withMetas (s : Session σ) (es : List (FieldPath × IndexMeta)) : Session σ :=
  { s with
    store := s.store.setEntries s.collection.catalog.metaMap es
    collection := { s.collection with catalog := { s.collection.catalog with cache := none } } }

/-- Metadata that have been set are the ones found. -/
theorem Sound.metaEntries_withMetas (h : s.Sound) (es : List (FieldPath × IndexMeta)) :
    (s.withMetas es).metaEntries = es :=
  (Store.entriesOf_modify h.metas es _).trans (if_pos rfl)

/-- Setting metadata neither adds nor removes a map. -/
theorem samePlaces_withMetas (s : Session σ) (es : List (FieldPath × IndexMeta)) :
    s.store.SamePlaces (s.withMetas es).store :=
  ⟨fun _ => rfl, Store.openPosition?_modify _ _ _, fun _ => rfl, fun _ => rfl⟩

/-- New metadata that differ from the old ones in flags only keep a session sound and its
handles good. -/
theorem Sound.reaches_withMetas (h : s.Sound) (es : List (FieldPath × IndexMeta))
    (hes : es.map (fun e => (e.1, e.2.descriptor, e.2.mapName))
      = s.metaEntries.map fun e => (e.1, e.2.descriptor, e.2.mapName)) :
    Reaches s (s.withMetas es) (s.withMetas es).view := by
  have hmetas := h.metaEntries_withMetas es
  have hkeys : es.map (·.1) = s.metaEntries.map (·.1) := by
    simpa [List.map_map, Function.comp_def] using congrArg (List.map (·.1)) hes
  have hnames : es.map (fun e => e.2.mapName) = s.metaEntries.map fun e => e.2.mapName := by
    simpa [List.map_map, Function.comp_def] using congrArg (List.map (·.2.2)) hes
  -- an entry of the new metadata has the fields, descriptor and map of an old one, and back
  have hold : ∀ e ∈ es, ∃ e' ∈ s.metaEntries,
      e'.1 = e.1 ∧ e'.2.descriptor = e.2.descriptor ∧ e'.2.mapName = e.2.mapName := by
    intro e he
    have hmem := List.mem_map_of_mem (f := fun e => (e.1, e.2.descriptor, e.2.mapName)) he
    rw [hes, List.mem_map] at hmem
    simpa using hmem
  have hnew : ∀ e ∈ s.metaEntries, ∃ e' ∈ es,
      e'.1 = e.1 ∧ e'.2.descriptor = e.2.descriptor ∧ e'.2.mapName = e.2.mapName := by
    intro e he
    have hmem := List.mem_map_of_mem (f := fun e => (e.1, e.2.descriptor, e.2.mapName)) he
    rw [← hes, List.mem_map] at hmem
    simpa using hmem
  have hplaces := s.samePlaces_withMetas es
  refine ⟨{ h with
    metas := (hplaces.metas _).trans h.metas
    metasSorted := ?_, metasOwn := ?_, issued := ?_, unshared := ?_
    fresh := fun d g hg => (hplaces.hasMap_eq _).trans (h.fresh d g hg)
    suited := ?_, cache := by simp [withMetas], handles := ?_ }, rfl, ?_⟩
  · rw [hmetas]
    have hsorted : (s.metaEntries.map (·.1)).Pairwise fun a b => compare a b = .lt :=
      List.pairwise_map.mpr h.metasSorted
    rw [← hkeys] at hsorted
    exact List.pairwise_map.mp hsorted
  · rw [hmetas]
    intro e he
    obtain ⟨e', he', hk, hd, -⟩ := hold e he
    rw [← hk, ← hd, h.metasOwn e' he']
  · rw [hmetas]
    intro e he
    obtain ⟨e', he', -, hd, hn⟩ := hold e he
    rw [← hd, ← hn]
    exact h.issued e' he'
  · rw [hmetas, hnames]
    exact h.unshared
  · rw [hmetas]
    intro e he
    obtain ⟨e', he', -, hd, hn⟩ := hold e he
    rw [← hd, ← hn]
    exact (hplaces.suits_iff _ _).mpr (h.suited e' he')
  · intro mapName x hx
    rw [hmetas]
    obtain ⟨e, he, hn, hb⟩ := h.handles mapName x hx
    obtain ⟨e', he', -, hd', hn'⟩ := hnew e he
    exact ⟨e', he', hn'.trans hn, hd' ▸ hb⟩
  · rintro x d ⟨e, he, hd, hb⟩
    obtain ⟨e', he', -, hd', hn'⟩ := hnew e he
    unfold Serves
    rw [hmetas]
    exact ⟨e', he', hd'.trans hd, hn' ▸ hb⟩

/-- Marking an index changes its metadata and empties the cache. -/
theorem Sound.perform_setDirty (h : s.Sound) {fields : FieldPath} {m : IndexMeta}
    (hm : SortedEntries.get? fields s.metaEntries = some m) (dirty : Bool) :
    (onCatalog (Catalog.setDirty fields dirty)).perform s
      = (.ok (), s.withMetas (SortedEntries.insert fields { m with dirty } s.metaEntries)) := by
  have hpart := h.metaOf?_part fields
  have hput := MapRef.perform_put (s := s.store) h.metas fields { m with dirty }
  unfold catalogPart at hpart
  rw [perform_onCatalog]
  unfold Catalog.setDirty
  rw [hm] at hpart
  simp only [Action.perform_bind, hpart]
  have hmap := perform_onMap (s := s) fun r => r.put fields { m with dirty }
  unfold catalogPart at hmap
  rw [hput] at hmap
  simp only [hmap, Catalog.setCache, Action.perform_modify]
  rfl

/-- Without an index on the fields there is nothing to mark. -/
theorem Sound.perform_setDirty_missing (h : s.Sound) {fields : FieldPath}
    (hnone : SortedEntries.get? fields s.metaEntries = none) (dirty : Bool) :
    (onCatalog (Catalog.setDirty fields dirty)).perform s
      = (.ok (), { s with collection := { s.collection with
          catalog := { s.collection.catalog with cache := none } } }) := by
  have hpart := h.metaOf?_part fields
  unfold catalogPart at hpart
  rw [perform_onCatalog]
  unfold Catalog.setDirty
  rw [hnone] at hpart
  simp only [Action.perform_bind, hpart, Catalog.setCache, Action.perform_modify]

/-- An index that is marked keeps its descriptor and its map. -/
theorem Sound.reaches_setDirty (h : s.Sound) {fields : FieldPath} {m : IndexMeta}
    (hm : SortedEntries.get? fields s.metaEntries = some m) (dirty : Bool) :
    Reaches s (s.withMetas (SortedEntries.insert fields { m with dirty } s.metaEntries))
      (s.withMetas (SortedEntries.insert fields { m with dirty } s.metaEntries)).view := by
  refine h.reaches_withMetas _ ?_
  rw [h.metasSorted.insert_of_get?_eq_some (v := { m with dirty }) hm, List.map_map]
  refine List.map_congr_left fun e he => ?_
  dsimp only [Function.comp_apply]
  split
  · rename_i hk
    have hget := h.get?_eq_some_iff.mpr (he : (e.1, e.2) ∈ s.metaEntries)
    rw [← Std.LawfulEqOrd.eq_of_compare hk, hm, Option.some.injEq] at hget
    rw [hget]
  · rfl

/-- Setting the flag of an index. -/
theorem does_setDirty (h : s.Sound) (hi : i ∈ s.view.indexes) (dirty : Bool) :
    Does (onCatalog (Catalog.setDirty i.descriptor.fields dirty)) s (.ok ())
      (s.view.put { i with dirty }) := by
  obtain ⟨m, hm, rfl⟩ := h.exists_meta hi
  have hdescriptor : (m.state s.store).descriptor = m.descriptor := rfl
  rw [hdescriptor] at hm ⊢
  have hinsert := h.metasSorted.insert_of_get?_eq_some (v := { m with dirty }) hm
  -- the entry under the fields of the index is the only one that changes
  have hentry : ∀ e ∈ s.metaEntries, compare m.descriptor.fields e.1 = .eq → e.2 = m := by
    intro e he hk
    have hget := h.get?_eq_some_iff.mpr (he : (e.1, e.2) ∈ s.metaEntries)
    rw [← Std.LawfulEqOrd.eq_of_compare hk, hm, Option.some.injEq] at hget
    exact hget.symm
  have hreach := h.reaches_setDirty hm dirty
  refine ⟨_, h.perform_setDirty hm dirty, hreach.sound, ?_, hreach.serves⟩
  unfold view View.put
  rw [h.metaEntries_withMetas, hinsert, View.mk.injEq]
  refine ⟨rfl, rfl, rfl, rfl, rfl, rfl, ?_⟩
  dsimp only
  rw [List.map_map, List.map_map]
  refine List.map_congr_left fun e he => ?_
  dsimp only [Function.comp_apply]
  by_cases hk : compare m.descriptor.fields e.1 = .eq
  · rw [if_pos hk, if_pos]
    · rfl
    · change e.2.descriptor.fields = m.descriptor.fields
      rw [hentry e he hk]
  · rw [if_neg hk, if_neg]
    · rfl
    · change ¬ e.2.descriptor.fields = m.descriptor.fields
      rw [h.metasOwn e he]
      exact fun heq => hk (heq ▸ Std.ReflOrd.compare_self)

/-- The session with one more index in the catalog. -/
def withIndex (s : Session σ) (m : IndexMeta) : Session σ :=
  let s' := s.withMetas (SortedEntries.insert m.descriptor.fields m s.metaEntries)
  { s' with store := { s'.store with generation := s'.store.generation + 1 } }

/-- Registering an index under the next generation keeps a session sound and its handles
good. -/
theorem Sound.reaches_withIndex (h : s.Sound) {m : IndexMeta}
    (hnew : SortedEntries.get? m.descriptor.fields s.metaEntries = none)
    (hname : m.mapName = indexMapName m.descriptor s.store.generation) :
    Reaches s (s.withIndex m) (s.withIndex m).view := by
  have hmetas : (s.withIndex m).metaEntries
      = SortedEntries.insert m.descriptor.fields m s.metaEntries := h.metaEntries_withMetas _
  obtain ⟨before, after, hold, hins⟩ := SortedEntries.exists_insert_of_get?_eq_none m hnew
  have hmem : ∀ e, e ∈ (s.withIndex m).metaEntries ↔
      e = (m.descriptor.fields, m) ∨ e ∈ s.metaEntries := by
    intro e
    rw [hmetas, hins, hold]
    simp only [List.mem_append, List.mem_cons]
    exact or_left_comm
  have hplaces : s.store.SamePlaces (s.withIndex m).store :=
    ⟨fun _ => rfl, Store.openPosition?_modify _ _ _, fun _ => rfl, fun _ => rfl⟩
  refine ⟨{ h with
    metas := (hplaces.metas _).trans h.metas
    metasSorted := ?_, metasOwn := ?_, issued := ?_, unshared := ?_
    fresh := fun d g hg => (hplaces.hasMap_eq _).trans (h.fresh d g (Nat.le_of_succ_le hg))
    suited := ?_, cache := by simp [withIndex, withMetas], handles := ?_ }, rfl, ?_⟩
  · rw [hmetas]
    exact h.metasSorted.insert
  · intro e he
    rcases (hmem e).mp he with rfl | he
    · rfl
    · exact h.metasOwn e he
  · intro e he
    rcases (hmem e).mp he with rfl | he
    · exact ⟨s.store.generation, Nat.lt_succ_self _, hname⟩
    · obtain ⟨g, hg, hn⟩ := h.issued e he
      exact ⟨g, Nat.lt_succ_of_lt hg, hn⟩
  · rw [hmetas, hins, List.map_append, List.map_cons, List.nodup_middle, ← List.map_append, ← hold,
      List.nodup_cons]
    refine ⟨fun hshared => ?_, h.unshared⟩
    -- the names that are there were issued under earlier generations
    obtain ⟨e, he, hn⟩ := List.mem_map.mp hshared
    obtain ⟨g, hg, hn'⟩ := h.issued e he
    have hsame : g = s.store.generation :=
      generation_eq_of_indexMapName_eq (hn'.symm.trans (hn.trans hname))
    omega
  · intro e he
    rcases (hmem e).mp he with rfl | he
    · obtain ⟨hr, hm, hi, ht⟩ :=
        Store.hasMap_eq_false_iff.mp (h.fresh m.descriptor s.store.generation (Nat.le_refl _))
      rw [← hname] at hr hm hi ht
      exact (hplaces.suits_iff _ _).mpr ⟨hr, hm, fun _ => hi, fun _ => ht⟩
    · exact (hplaces.suits_iff _ _).mpr (h.suited e he)
  · intro mapName x hx
    obtain ⟨e, he, hn, hb⟩ := h.handles mapName x hx
    exact ⟨e, (hmem e).mpr (Or.inr he), hn, hb⟩
  · rintro x d ⟨e, he, hd, hb⟩
    exact ⟨e, (hmem e).mpr (Or.inr he), hd, hb⟩

/-- A new index stands where its fields come among the others. Its map is not open yet. -/
theorem Sound.view_withIndex_split (h : s.Sound) {m : IndexMeta}
    {before after : List (FieldPath × IndexMeta)}
    (hins : SortedEntries.insert m.descriptor.fields m s.metaEntries
      = before ++ (m.descriptor.fields, m) :: after)
    (hname : m.mapName = indexMapName m.descriptor s.store.generation) :
    (s.withIndex m).view = { s.view with
      indexes := (before.map fun e => e.2.state s.store) ++
        ⟨m.descriptor, m.dirty, .empty m.descriptor⟩ :: after.map fun e => e.2.state s.store } := by
  -- no map has the name of the new index yet, so it has no entries
  have hempty : m.state (s.withIndex m).store = ⟨m.descriptor, m.dirty, .empty m.descriptor⟩ := by
    obtain ⟨-, -, hi, ht⟩ :=
      Store.hasMap_eq_false_iff.mp (h.fresh m.descriptor s.store.generation (Nat.le_refl _))
    rw [← hname] at hi ht
    have hindexes : entriesOf m.mapName (s.withIndex m).store.indexes = [] := by
      change (lookup m.mapName s.store.indexes).getD [] = []
      rw [hi]
      rfl
    have htexts : entriesOf m.mapName (s.withIndex m).store.texts = [] := by
      change (lookup m.mapName s.store.texts).getD [] = []
      rw [ht]
      rfl
    rw [IndexMeta.state, Store.content, hindexes, htexts]
    rfl
  have hmetas : (s.withIndex m).metaEntries = before ++ (m.descriptor.fields, m) :: after :=
    (h.metaEntries_withMetas _).trans hins
  rw [view, hmetas, List.map_append, List.map_cons, hempty]
  rfl

/-- A view with one more index has it between those on lower and on higher fields. -/
theorem Sound.view_withIndex (h : s.Sound) {m : IndexMeta}
    (hnew : SortedEntries.get? m.descriptor.fields s.metaEntries = none)
    (hname : m.mapName = indexMapName m.descriptor s.store.generation) :
    ∃ before after, s.view.indexes = before ++ after ∧
      (s.withIndex m).view = { s.view with
        indexes := before ++ ⟨m.descriptor, m.dirty, .empty m.descriptor⟩ :: after } := by
  obtain ⟨before, after, hold, hins⟩ := SortedEntries.exists_insert_of_get?_eq_none m hnew
  refine ⟨_, _, ?_, h.view_withIndex_split hins hname⟩
  rw [view, hold, List.map_append]

/-- An index on fields after all others stands at the end. -/
theorem Sound.reaches_withIndex_last (h : s.Sound) {m : IndexMeta}
    (hlast : ∀ i ∈ s.view.indexes, compare m.descriptor.fields i.descriptor.fields = .gt)
    (hname : m.mapName = indexMapName m.descriptor s.store.generation) :
    Reaches s (s.withIndex m) { s.view with
      indexes := s.view.indexes ++ [⟨m.descriptor, m.dirty, .empty m.descriptor⟩] } := by
  have hkeys : ∀ e ∈ s.metaEntries, compare m.descriptor.fields e.1 = .gt := by
    intro e he
    rw [← h.metasOwn e he]
    exact hlast _ (Sound.mem_indexes.mpr ⟨e, he, rfl⟩)
  have hnew : SortedEntries.get? m.descriptor.fields s.metaEntries = none := by
    refine SortedEntries.get?_eq_none_iff.mpr fun e he heq => ?_
    rw [hkeys e he] at heq
    cases heq
  have hreach := h.reaches_withIndex hnew hname
  rw [h.view_withIndex_split (SortedEntries.insert_eq_append m hkeys) hname] at hreach
  exact hreach

/-- What the catalog finds under some fields before it registers an index there. -/
theorem Sound.contains_part (h : s.Sound) (fields : FieldPath) :
    (Catalog.onMap (·.contains fields)).perform s.catalogPart
      = (.ok (SortedEntries.get? fields s.metaEntries).isSome, s.catalogPart) := by
  rw [perform_onMap, MapRef.perform_contains (s := s.store) h.metas fields]
  rfl

/-- Registering an index changes nothing if it is refused. -/
theorem Sound.perform_catalog_create_refused (h : s.Sound) {fields : FieldPath} {kind : IndexKind}
    (hrefused : (kind == .fullText && fields.isCompound) = true ∨
      ∃ m, SortedEntries.get? fields s.metaEntries = some m) :
    (onCatalog (Catalog.create fields kind)).perform s
      = (.error (if kind == .fullText && fields.isCompound then .fullTextCompound fields
          else .alreadyIndexed fields), s) := by
  apply perform_question
  unfold Catalog.create
  by_cases hkind : (kind == .fullText && fields.isCompound) = true
  · simp only [hkind, if_true, Action.perform_bind, Action.perform_throw]
  · obtain ⟨m, hm⟩ := hrefused.resolve_left hkind
    have hpart := h.contains_part fields
    rw [hm] at hpart
    simp only [hkind, Bool.false_eq_true, if_false, Action.perform_bind, hpart,
      Option.isSome_some, if_true, Action.perform_throw]

/-- An index that cannot be registered is refused, and the session stays as it is. -/
theorem Sound.perform_catalog_create_not (h : s.Sound) {fields : FieldPath} {kind : IndexKind}
    (hnot : ¬ s.view.Registrable fields kind) :
    ∃ e, (onCatalog (Catalog.create fields kind)).perform s = (.error e, s) := by
  refine ⟨_, h.perform_catalog_create_refused ?_⟩
  cases hkind : kind == .fullText && fields.isCompound with
  | true => exact Or.inl rfl
  | false =>
    have htaken : ¬ ∀ i ∈ s.view.indexes, i.descriptor.fields ≠ fields :=
      fun hall => hnot ⟨hkind, hall⟩
    rw [← h.get?_eq_none_iff] at htaken
    exact Or.inr (Option.ne_none_iff_exists'.mp htaken)

/-- Registering an index that is not refused. -/
theorem Sound.perform_catalog_create (h : s.Sound) {fields : FieldPath} {kind : IndexKind}
    (hkind : (kind == .fullText && fields.isCompound) = false)
    (hnew : SortedEntries.get? fields s.metaEntries = none) {m : IndexMeta}
    (hm : m = IndexMeta.new ⟨kind, fields, s.collection.name⟩ s.store.generation) :
    (onCatalog (Catalog.create fields kind)).perform s = (.ok m, s.withIndex m) := by
  have hpart := h.contains_part fields
  rw [hnew] at hpart
  have hd : m.descriptor = ⟨kind, fields, s.collection.name⟩ := hm ▸ rfl
  unfold catalogPart at hpart
  rw [perform_onCatalog]
  unfold Catalog.create
  simp only [hkind, Bool.false_eq_true, if_false, Action.perform_bind, Action.perform_pure, hpart,
    Option.isSome_none, Action.perform_get, Catalog.onStore, Store.newGeneration,
    Action.perform_within, Action.perform_modifyGet]
  have hput := MapRef.perform_put
    (s := { s.store with generation := s.store.generation + 1 }) h.metas fields m
  have hmap : (Catalog.onMap fun r => r.put fields m).perform
      ({ s.store with generation := s.store.generation + 1 }, s.collection.catalog) = _ :=
    congrArg (fun p => (p.1, (p.2, s.collection.catalog))) hput
  rw [h.catalog, ← hm]
  simp only [hmap, Catalog.setCache, Action.perform_modify, withIndex, hd]
  rfl

/-- Registering an index: refused for a full-text index on several fields and for fields that
have an index already, and otherwise a new, dirty and empty index in the order of fields. -/
theorem does_catalog_create (h : s.Sound) (fields : FieldPath) (kind : IndexKind) :
    (¬ s.view.Registrable fields kind ∧
        ∃ e, Does (onCatalog (Catalog.create fields kind)) s (.error e) s.view) ∨
      ∃ m before after, m.descriptor = ⟨kind, fields, s.view.name⟩ ∧
        s.view.indexes = before ++ after ∧
        Does (onCatalog (Catalog.create fields kind)) s (.ok m) { s.view with
          indexes := before ++ ⟨m.descriptor, true, .empty m.descriptor⟩ :: after } := by
  by_cases hfree : s.view.Registrable fields kind
  · obtain ⟨m, hm⟩ : ∃ m, m = IndexMeta.new ⟨kind, fields, s.collection.name⟩
        s.store.generation := ⟨_, rfl⟩
    have hd : m.descriptor = ⟨kind, fields, s.view.name⟩ := hm ▸ rfl
    have hdirty : m.dirty = true := hm ▸ rfl
    have hname : m.mapName = indexMapName m.descriptor s.store.generation := hm ▸ rfl
    have hget := h.get?_eq_none_iff.mpr hfree.2
    have hnew : SortedEntries.get? m.descriptor.fields s.metaEntries = none := hd ▸ hget
    obtain ⟨before, after, hv, hview⟩ := h.view_withIndex hnew hname
    rw [hdirty] at hview
    have hreach := h.reaches_withIndex hnew hname
    exact Or.inr ⟨m, before, after, hd, hv, s.withIndex m,
      h.perform_catalog_create hfree.1 hget hm, hreach.sound, hview, hreach.serves⟩
  · obtain ⟨e, he⟩ := h.perform_catalog_create_not hfree
    exact Or.inl ⟨hfree, e, s, he, Reaches.refl h⟩

end Session

end DocumentDb
