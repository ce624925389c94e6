import DocumentDb.Proofs.Result
import DocumentDb.Proofs.Writing
import Mathlib.Data.List.Induction

/-!
# `DocumentDb.Proofs.Opening`: a collection that has just been opened

`Session.sound_openOn`: a collection whose maps are not there yet is sound once it has been
opened, and it shows no record and no index.

`Session.exists_unbuilt`: any records and any indexes, still to be built, are those of some
sound session. So what is proved about sound sessions is about all such collections.
-/

set_option autoImplicit false

namespace DocumentDb

open SortedEntries (Sorted)
open Store (entriesOf)

/-- Whether a collection of a name is new to a store: neither of its maps is there. Other
collections may be, but no map may have a name that is still to be issued to a backing map. -/
structure Store.New (store : Store) (name : String) : Prop where
  records : store.hasMap name = false
  metas : store.hasMap (metaMapName name) = false
  fresh : ∀ d g, store.generation ≤ g → store.hasMap (indexMapName d g) = false

/-- In an empty store every name is new. -/
theorem Store.new_empty (name : String) : Store.New {} name :=
  ⟨hasMap_new _, hasMap_new _, fun _ _ _ => hasMap_new _⟩

/-- The store with the maps of a new collection. -/
def Store.withCollection (store : Store) (name : String) : Store :=
  { store with
    records := store.records ++ [NamedMap.create name]
    metas := store.metas ++ [NamedMap.create (metaMapName name)] }

variable {name : String} {config : Config} {store store' : Store} {c : Collection}

/-- Opening a new collection creates its maps. The node is looked at last. -/
theorem Collection.perform_openOn (config : Config) (hnew : store.New name)
    (hname : isName name = true) :
    (openOn name config).perform store
      = ((IdGenerator.ofNode (config.nodeId.getD 0)).map fun generator => {
          name, config, generator
          records := ⟨store.records.length⟩
          catalog := ⟨name, ⟨store.metas.length⟩, none⟩ }, store.withCollection name) := by
  obtain ⟨hrecords, -⟩ := Store.hasMap_eq_false_iff.mp hnew.records
  obtain ⟨hmr, hmm, hmi, hmt⟩ := Store.hasMap_eq_false_iff.mp hnew.metas
  have hfree : ({ store with records := store.records ++ [NamedMap.create name] } :
      Store).hasMap (metaMapName name) = false := by
    refine Store.hasMap_eq_false_iff.mpr ⟨?_, hmm, hmi, hmt⟩
    exact Store.lookup_append_eq_none hmr (ne_metaMapName_of_isName hname name).symm
  have hopenRecords : (Store.openMap RecordId name).perform store
      = (.ok ⟨store.records.length⟩,
          { store with records := store.records ++ [NamedMap.create name] }) :=
    Store.perform_openMap_new (Store.lookup_eq_none_iff.mp hrecords) hnew.records
  have hopenMetas : (Store.openMap FieldPath (metaMapName name)).perform
        { store with records := store.records ++ [NamedMap.create name] }
      = (.ok ⟨store.metas.length⟩, store.withCollection name) :=
    Store.perform_openMap_new (Store.lookup_eq_none_iff.mp hmm) hfree
  unfold openOn
  simp only [hname, Bool.not_true, Bool.false_eq_true, if_false, Action.perform_bind,
    hopenRecords, Catalog.openMap, hopenMetas, Action.perform_pure, Action.perform_ofResult]
  cases IdGenerator.ofNode (config.nodeId.getD 0) <;> rfl

/-- A new collection that could be opened. -/
theorem Collection.exists_of_openOn (hnew : store.New name)
    (hopen : (openOn name config).perform store = (.ok c, store')) :
    isName name = true ∧ store' = store.withCollection name ∧
      ∃ generator, IdGenerator.ofNode (config.nodeId.getD 0) = .ok generator ∧ c = {
        name, config, generator
        records := ⟨store.records.length⟩
        catalog := ⟨name, ⟨store.metas.length⟩, none⟩ } := by
  cases hname : isName name with
  | false =>
    unfold openOn at hopen
    simp only [hname, Bool.not_false, if_true, Action.perform_bind, Action.perform_throw] at hopen
    cases hopen
  | true =>
    rw [perform_openOn config hnew hname] at hopen
    obtain ⟨hc, hs⟩ := Prod.mk.inj hopen
    obtain ⟨generator, hnode, rfl⟩ := Result.map_eq_ok_iff.mp hc
    exact ⟨rfl, hs.symm, generator, hnode, rfl⟩

namespace Session

variable {σ : Type}

/-- A new collection is sound and empty. -/
theorem sound_openOn (hnew : store.New name)
    (hopen : (Collection.openOn name config).perform store = (.ok c, store')) (clock : UInt64)
    (observer : σ) :
    (⟨store', clock, c, observer⟩ : Session σ).Sound ∧
      (⟨store', clock, c, observer⟩ : Session σ).view
        = ⟨name, config, [], c.records, [], [], []⟩ := by
  obtain ⟨hname, rfl, generator, -, rfl⟩ := Collection.exists_of_openOn hnew hopen
  obtain ⟨hrecords, -⟩ := Store.hasMap_eq_false_iff.mp hnew.records
  obtain ⟨-, hmetas, -⟩ := Store.hasMap_eq_false_iff.mp hnew.metas
  have hnoRecords : entriesOf name (store.withCollection name).records = [] := by
    refine (Store.entriesOf_append store.records name name).trans ?_
    rw [entriesOf, hrecords]
    rfl
  have hnoMetas : entriesOf (metaMapName name) (store.withCollection name).metas = [] := by
    refine (Store.entriesOf_append store.metas _ _).trans ?_
    rw [entriesOf, hmetas]
    rfl
  constructor
  · exact {
      named := hname
      undropped := rfl
      catalog := rfl
      records := Store.refers_append hrecords
      metas := Store.refers_append hmetas
      recordsSorted := by
        rw [recordEntries, hnoRecords]
        exact SortedEntries.sorted_nil
      metasSorted := by
        rw [metaEntries, hnoMetas]
        exact SortedEntries.sorted_nil
      metasOwn := by simp [metaEntries, hnoMetas]
      issued := by simp [metaEntries, hnoMetas]
      unshared := by simp [metaEntries, hnoMetas]
      fresh := by
        intro d g hg
        obtain ⟨hr, hm, hrest⟩ := Store.hasMap_eq_false_iff.mp (hnew.fresh d g hg)
        -- names of backing maps are neither names of collections nor of metadata
        refine Store.hasMap_eq_false_iff.mpr ⟨?_, ?_, hrest⟩
        · exact Store.lookup_append_eq_none hr (ne_indexMapName_of_isName hname d g).symm
        · exact Store.lookup_append_eq_none hm (indexMapName_ne_metaMapName d g name)
      suited := by simp [metaEntries, hnoMetas]
      cache := by simp
      handlesSorted := SortedEntries.sorted_nil
      handles := by simp
      guards := by simp }
  · rw [view, recordEntries, metaEntries, hnoRecords, hnoMetas]
    rfl

/-- There are collections with any records and with indexes on any fields. The indexes are
dirty and empty; building them makes them clean. -/
theorem exists_unbuilt (name : String) (config : Config) (ds : List IndexDescriptor)
    (hname : Collection.isName name = true) (hnode : config.nodeId = none)
    {records : List (RecordId × Document)} (hsorted : Sorted records)
    (hds : ds.Pairwise fun d d' => compare d'.fields d.fields = .gt) :
    ∃ s : Session Unit, s.Sound ∧
      s.view = ⟨name, config, [], ⟨0⟩, [], records, ds.map fun d => ⟨d, true, .empty d⟩⟩ := by
  induction ds using List.reverseRecOn with
  | nil =>
    have hopen := Collection.perform_openOn config (Store.new_empty name) hname
    rw [hnode] at hopen
    obtain ⟨hsound, hview⟩ := sound_openOn (Store.new_empty name) hopen 0 ()
    have hreach := hsound.reaches_withRecords hsorted
    rw [hview] at hreach
    exact ⟨_, hreach.sound, hreach.view⟩
  | append_singleton ds d ih =>
    obtain ⟨hds, -, hlast⟩ := List.pairwise_append.mp hds
    obtain ⟨s, hsound, hview⟩ := ih hds
    have hreach := hsound.reaches_withIndex_last
      (m := ⟨d, indexMapName d s.store.generation, true⟩) (by
        rw [hview]
        simpa using fun d' hd' => hlast d' hd' d List.mem_cons_self) rfl
    rw [hview] at hreach
    refine ⟨_, hreach.sound, hreach.view.trans ?_⟩
    rw [List.map_append]
    rfl

end Session

end DocumentDb
