import DocumentDb.Index.Ordered
import DocumentDb.Proofs.Action
import DocumentDb.Proofs.Index.Content
import DocumentDb.Proofs.Result

/-!
# `DocumentDb.Proofs.Index.Ordered`: keys of records in ordered indexes

The keys of a record and the path below them make its places in an ordered index. An index
on one field changes its level directly, an index on several fields goes through the trees
below; both do to the content what adding or erasing an id at the end of a path does, key
by key: they change what stands under the keys by `Node.grow` and by `Node.prune`.

* `WellFormed.writeKeys` and `WellFormed.writeKeys_refused` say when the keys are taken and
  that a refused record changes nothing, because a unique index looks at all keys before it
  changes the first one.
* `WellFormed.eraseKeys` says that keys can always be erased.
-/

set_option autoImplicit false

namespace DocumentDb

open SortedEntries (alter alterAll alterAll_cons)

namespace OrderedIndex

variable {d : IndexDescriptor} {vs : FieldValues} {keys path : List Key}

/-- The path below the keys of a record has one key for each field after the first one. -/
theorem length_of_paths (h : paths d vs = .ok (keys, path)) :
    path.length = d.fields.fields.tail.length := by
  unfold paths at h
  split at h
  · obtain ⟨ks, -, h⟩ := Result.bind_eq_ok_iff.mp h
    obtain ⟨rest, hrest, h⟩ := Result.map_eq_ok_iff.mp h
    cases h
    exact (Result.mapM_eq_ok_iff.mp hrest).length_eq.symm
  · rename_i hcompound
    obtain ⟨ks, -, h⟩ := Result.map_eq_ok_iff.mp h
    cases h
    simp only [IndexDescriptor.isCompound, FieldPath.isCompound, decide_eq_true_eq] at hcompound
    rw [List.length_tail, List.length_nil]
    omega

/-- Only an index on several fields has keys below the first level. -/
theorem path_eq_nil_iff (h : paths d vs = .ok (keys, path)) :
    path = [] ↔ d.isCompound = false := by
  have hlen := length_of_paths h
  rw [List.length_tail] at hlen
  rw [← List.length_eq_zero_iff, hlen, IndexDescriptor.isCompound, FieldPath.isCompound,
    decide_eq_false_iff_not]
  omega

end OrderedIndex

namespace Content

variable {d : IndexDescriptor} {level : Level} {id : RecordId} {path : List Key}

/-- Adding an id below one key of a level. -/
theorem WellFormed.insert_below (h : (ordered level).WellFormed d)
    (hlen : path.length = d.fields.fields.tail.length) (k : Key) (id : RecordId)
    (hfree : d.isUnique = true → Free id [.path (k :: path)] (ordered level)) :
    ∃ child, ((SortedEntries.get? k level).getD (Node.emptyFor path)).insert id path = .ok child ∧
      (ordered (alter (Node.grow id path) k level)).WellFormed d ∧
      Adds id [.path (k :: path)] (ordered level)
        (ordered (alter (Node.grow id path) k level)) := by
  obtain ⟨hkind, hshaped⟩ := h
  rw [← hlen] at hshaped
  obtain ⟨node, hins, -, hnode, hids⟩ := Node.insert_spec id (k :: path) hshaped
    fun hu => hfree hu _ List.mem_cons_self
  obtain ⟨child, hchild, -⟩ := Result.map_eq_ok_iff.mp hins
  rw [Node.insert_cons hchild] at hins
  cases hins
  refine ⟨child, hchild, ⟨hkind, ?_⟩, ?_⟩
  · rw [← hlen]
    exact hnode
  · intro q
    cases q with
    | path q => simpa [idsAt, Place.among, Place.same] using hids q
    | token t => simp [idsAt, Place.among, Place.same]

/-- Removing an id below one key of a level. -/
theorem WellFormed.erase_below (h : (ordered level).WellFormed d)
    (hlen : path.length = d.fields.fields.tail.length) (k : Key) (id : RecordId) :
    (ordered (alter (Node.prune id path) k level)).WellFormed d ∧
      Drops id [.path (k :: path)] (ordered level)
        (ordered (alter (Node.prune id path) k level)) := by
  obtain ⟨hkind, hshaped⟩ := h
  rw [← hlen] at hshaped
  obtain ⟨hnode, hids⟩ := Node.erase_spec id (k :: path) hshaped
  rw [Node.erase_cons hshaped.1] at hnode hids
  refine ⟨⟨hkind, ?_⟩, ?_⟩
  · rw [← hlen]
    exact hnode
  · intro q
    cases q with
    | path q => simpa [idsAt, Place.among, Place.same] using hids q
    | token t => simp [idsAt, Place.among, Place.same]

/-! ### One field -/

/-- The levels of an index on one field lead to posting lists. -/
theorem WellFormed.get?_terminal (h : (ordered level).WellFormed d)
    (hone : d.fields.fields.tail.length = 0) (k : Key) :
    SortedEntries.get? k level = none ∧ (ordered level).idsAt (.path [k]) = [] ∨
      ∃ ids, SortedEntries.get? k level = some (.terminal ids) ∧ ids ≠ [] ∧
        (ordered level).idsAt (.path [k]) = ids := by
  rw [idsAt, Node.idsAt_cons_inner]
  cases hk : SortedEntries.get? k level with
  | none => exact Or.inl ⟨rfl, rfl⟩
  | some child =>
    have hchild := h.2.child hk
    rw [hone] at hchild
    cases child with
    | terminal ids =>
      refine Or.inr ⟨ids, rfl, ?_, rfl⟩
      simpa [Node.isEmpty] using hchild.1
    | inner level => exact hchild.2.elim

/-- A lookup in an index on one field finds the ids at the key. -/
theorem WellFormed.singleField_idsAt (h : (ordered level).WellFormed d)
    (hone : d.fields.fields.tail.length = 0) (k : Key) :
    SingleField.idsAt d level k = .ok ((ordered level).idsAt (.path [k])) := by
  unfold SingleField.idsAt
  rcases h.get?_terminal hone k with ⟨hk, hids⟩ | ⟨ids, hk, -, hids⟩
  · rw [hk, hids]
  · rw [hk, hids]

/-- One step of adding keys. An id that is there already leaves the level as it is, which is
what writing it again would do. -/
theorem WellFormed.singleField_addKeys_cons (h : (ordered level).WellFormed d)
    (hone : d.fields.fields.tail.length = 0) (k : Key) (rest : List Key) :
    (SingleField.addKeys d id (k :: rest)).perform level
      = (SingleField.addKeys d id rest).perform (alter (Node.grow id []) k level) := by
  rw [SingleField.addKeys]
  simp only [Action.perform_bind, Action.perform_get, Action.perform_ofResult,
    h.singleField_idsAt hone]
  rcases h.get?_terminal hone k with ⟨hk, hids⟩ | ⟨ids, hk, -, hids⟩
  · have hgrow : Node.grow id [] (SortedEntries.get? k level) = some (.terminal [id]) := by
      rw [hk]
      rfl
    rw [hids, SortedEntries.alter_eq_insert hgrow]
    rfl
  · have hgrow : Node.grow id [] (SortedEntries.get? k level)
        = some (.terminal (addId id ids)) := by
      rw [hk]
      rfl
    rw [hids, SortedEntries.alter_eq_insert hgrow]
    by_cases hid : id ∈ ids
    · rw [addId_of_mem hid, h.2.1.insert_eq_self hk]
      simp [hid]
    · rw [addId_of_not_mem hid]
      simp [hid]

/-- Adding free keys to an index on one field adds the ids there, and nowhere else. -/
theorem WellFormed.singleField_addKeys (h : (ordered level).WellFormed d)
    (hone : d.fields.fields.tail.length = 0) (keys : List Key)
    (hfree : d.isUnique = true → Free id (keys.map fun k => .path [k]) (ordered level)) :
    (SingleField.addKeys d id keys).perform level
        = (.ok (), alterAll (Node.grow id []) keys level) ∧
      (ordered (alterAll (Node.grow id []) keys level)).WellFormed d ∧
      Adds id (keys.map fun k => .path [k]) (ordered level)
        (ordered (alterAll (Node.grow id []) keys level)) := by
  induction keys generalizing level with
  | nil => exact ⟨rfl, h, adds_nil⟩
  | cons k rest ih =>
    obtain ⟨-, -, hwf, hadds⟩ := h.insert_below
      (show ([] : List Key).length = _ from hone.symm) k id fun hu => (free_cons.mp (hfree hu)).1
    obtain ⟨hrest, hwf', hadds'⟩ := ih hwf fun hu =>
      hadds.free (free_cons.mp (hfree hu)).2
    refine ⟨?_, hwf', hadds.cons hadds'⟩
    rw [h.singleField_addKeys_cons hone, hrest, alterAll_cons]

/-- One step of dropping keys, which takes a key out only when no id is left. -/
theorem WellFormed.singleField_dropKeys_cons (h : (ordered level).WellFormed d)
    (hone : d.fields.fields.tail.length = 0) (k : Key) (rest : List Key) :
    (SingleField.dropKeys d id (k :: rest)).perform level
      = (SingleField.dropKeys d id rest).perform (alter (Node.prune id []) k level) := by
  rw [SingleField.dropKeys]
  simp only [Action.perform_bind, Action.perform_get, Action.perform_ofResult,
    h.singleField_idsAt hone]
  rcases h.get?_terminal hone k with ⟨hk, hids⟩ | ⟨ids, hk, -, hids⟩
  · rw [hids, SortedEntries.alter_eq_erase (by rw [hk]; rfl)]
    simp [dropId]
  · rw [hids]
    -- a posting list that gets empty is taken out with its key
    by_cases hleft : (dropId id ids).isEmpty = true
    · have hprune : Node.prune id [] (SortedEntries.get? k level) = none := by
        simp [hk, Node.prune, Node.erase, Node.isEmpty, hleft]
      rw [SortedEntries.alter_eq_erase hprune]
      simp [hleft]
    · have hprune : Node.prune id [] (SortedEntries.get? k level)
          = some (.terminal (dropId id ids)) := by
        simpa [hk, Node.prune, Node.erase, Node.isEmpty] using hleft
      rw [SortedEntries.alter_eq_insert hprune]
      by_cases hsame : dropId id ids = ids
      · simp only [hsame] at hleft ⊢
        simp [hleft, h.2.1.insert_eq_self hk]
      · simp [hleft, hsame]

/-- Taking keys out of an index on one field takes the id away there, and nowhere else. -/
theorem WellFormed.singleField_dropKeys (h : (ordered level).WellFormed d)
    (hone : d.fields.fields.tail.length = 0) (id : RecordId) (keys : List Key) :
    (SingleField.dropKeys d id keys).perform level
        = (.ok (), alterAll (Node.prune id []) keys level) ∧
      (ordered (alterAll (Node.prune id []) keys level)).WellFormed d ∧
      Drops id (keys.map fun k => .path [k]) (ordered level)
        (ordered (alterAll (Node.prune id []) keys level)) := by
  induction keys generalizing level with
  | nil => exact ⟨rfl, h, drops_nil⟩
  | cons k rest ih =>
    obtain ⟨hwf, hdrops⟩ := h.erase_below
      (show ([] : List Key).length = _ from hone.symm) k id
    obtain ⟨hrest, hwf', hdrops'⟩ := ih hwf
    refine ⟨?_, hwf', hdrops.cons hdrops'⟩
    rw [h.singleField_dropKeys_cons hone, hrest, alterAll_cons]

/-! ### Several fields -/

/-- Adding free keys to a compound index adds the ids under the paths, and nowhere else. -/
theorem WellFormed.compound_addKeys (h : (ordered level).WellFormed d)
    (hlen : path.length = d.fields.fields.tail.length) (hpath : path ≠ []) (keys : List Key)
    (hfree : d.isUnique = true → Free id (keys.map fun k => .path (k :: path)) (ordered level)) :
    (Compound.addKeys id path keys).perform level
        = (.ok (), alterAll (Node.grow id path) keys level) ∧
      (ordered (alterAll (Node.grow id path) keys level)).WellFormed d ∧
      Adds id (keys.map fun k => .path (k :: path)) (ordered level)
        (ordered (alterAll (Node.grow id path) keys level)) := by
  induction keys generalizing level with
  | nil => exact ⟨rfl, h, adds_nil⟩
  | cons k rest ih =>
    obtain ⟨child, hchild, hwf, hadds⟩ := h.insert_below hlen k id
      fun hu => (free_cons.mp (hfree hu)).1
    obtain ⟨hrest, hwf', hadds'⟩ := ih hwf fun hu =>
      hadds.free (free_cons.mp (hfree hu)).2
    refine ⟨?_, hwf', hadds.cons hadds'⟩
    rw [SortedEntries.alter_eq_insert (Node.grow_eq_some hchild)] at hrest
    rw [alterAll_cons, SortedEntries.alter_eq_insert (Node.grow_eq_some hchild)]
    have hnew : Node.emptyFor path = .inner [] := by
      unfold Node.emptyFor
      rw [List.isEmpty_eq_false_iff.mpr hpath]
      rfl
    rw [hnew] at hchild
    simp only [Compound.addKeys, Action.perform_bind, Action.perform_get,
      Action.perform_ofResult, hchild, Action.perform_modify, hrest]

/-- One step of dropping keys below which there is a path. -/
theorem WellFormed.compound_dropKeys_cons (h : (ordered level).WellFormed d) (k : Key)
    (rest : List Key) :
    (Compound.dropKeys id path (k :: rest)).perform level
      = (Compound.dropKeys id path rest).perform (alter (Node.prune id path) k level) := by
  simp only [Compound.dropKeys, Action.perform_bind, Action.perform_get]
  cases hk : SortedEntries.get? k level with
  | none =>
    rw [SortedEntries.alter_eq_erase (by rw [hk]; rfl), h.2.1.erase_eq_self hk]
  | some child =>
    by_cases hempty : (Node.erase id path child).isEmpty = true
    · have hprune : Node.prune id path (SortedEntries.get? k level) = none := by
        simp [hk, Node.prune, hempty]
      rw [SortedEntries.alter_eq_erase hprune]
      simp [hempty]
    · have hprune : Node.prune id path (SortedEntries.get? k level)
          = some (Node.erase id path child) := by
        simp [hk, Node.prune, hempty]
      rw [SortedEntries.alter_eq_insert hprune]
      simp [hempty]

/-- Taking keys out of a compound index takes the id away under the paths, and nowhere else. -/
theorem WellFormed.compound_dropKeys (h : (ordered level).WellFormed d)
    (hlen : path.length = d.fields.fields.tail.length) (id : RecordId) (keys : List Key) :
    (Compound.dropKeys id path keys).perform level
        = (.ok (), alterAll (Node.prune id path) keys level) ∧
      (ordered (alterAll (Node.prune id path) keys level)).WellFormed d ∧
      Drops id (keys.map fun k => .path (k :: path)) (ordered level)
        (ordered (alterAll (Node.prune id path) keys level)) := by
  induction keys generalizing level with
  | nil => exact ⟨rfl, h, drops_nil⟩
  | cons k rest ih =>
    obtain ⟨hwf, hdrops⟩ := h.erase_below hlen k id
    obtain ⟨hrest, hwf', hdrops'⟩ := ih hwf
    refine ⟨?_, hwf', hdrops.cons hdrops'⟩
    rw [h.compound_dropKeys_cons, hrest, alterAll_cons]

/-! ### Unique indexes -/

/-- A place of a unique index is refused when another id stands there. -/
theorem WellFormed.refused_iff (h : (ordered level).WellFormed d) (hu : d.isUnique = true)
    (id : RecordId) (p : Place) :
    (!((ordered level).idsAt p).isEmpty && !((ordered level).idsAt p).contains id) = true ↔
      ¬ Free id [p] (ordered level) := by
  have hlen := (h.idsAt_nodup p).2 hu
  simp only [Free, List.forall_mem_singleton]
  rcases hids : (ordered level).idsAt p with _ | ⟨x, _ | ⟨y, rest⟩⟩
  · simp
  · simp [not_congr (eq_comm (a := id))]
  · rw [hids] at hlen
    simp at hlen

/-- The check of a unique index on one field passes if no other id has one of the keys. -/
theorem WellFormed.singleField_checkUnique (h : (ordered level).WellFormed d)
    (hu : d.isUnique = true) (hone : d.fields.fields.tail.length = 0) (keys : List Key) :
    SingleField.checkUnique d id level keys = .ok () ↔
      Free id (keys.map fun k => .path [k]) (ordered level) := by
  induction keys with
  | nil => simp [SingleField.checkUnique, Free]
  | cons k rest ih =>
    have hk := h.refused_iff hu id (.path [k])
    rw [SingleField.checkUnique, h.singleField_idsAt hone, Except.bind]
    split
    · rename_i hrefused
      simp only [reduceCtorEq, false_iff]
      exact fun hfree => hk.mp hrefused (free_cons.mp hfree).1
    · rename_i hok
      have hfirst : Free id [.path [k]] (ordered level) := by
        by_contra hne
        exact hok (hk.mpr hne)
      rw [ih]
      exact ⟨fun hrest => free_cons.mpr ⟨hfirst, hrest⟩, fun hall => (free_cons.mp hall).2⟩

/-- The check of a unique compound index passes if no other id has one of the paths. -/
theorem WellFormed.compound_checkUnique (h : (ordered level).WellFormed d)
    (hu : d.isUnique = true) (keys : List Key) :
    Compound.checkUnique d id path level keys = .ok () ↔
      Free id (keys.map fun k => .path (k :: path)) (ordered level) := by
  induction keys with
  | nil => simp [Compound.checkUnique, Free]
  | cons k rest ih =>
    have hk := h.refused_iff hu id (.path (k :: path))
    rw [Compound.checkUnique]
    change (if (!((ordered level).idsAt (.path (k :: path))).isEmpty &&
      !((ordered level).idsAt (.path (k :: path))).contains id) = true then _ else _) = _ ↔ _
    split
    · rename_i hrefused
      simp only [reduceCtorEq, false_iff]
      exact fun hfree => hk.mp hrefused (free_cons.mp hfree).1
    · rename_i hok
      have hfirst : Free id [.path (k :: path)] (ordered level) := by
        by_contra hne
        exact hok (hk.mpr hne)
      rw [ih]
      exact ⟨fun hrest => free_cons.mpr ⟨hfirst, hrest⟩, fun hall => (free_cons.mp hall).2⟩

/-! ### Keys of a record -/

/-- An index that no other id keeps from taking the keys takes them. -/
theorem WellFormed.writeKeys (h : (ordered level).WellFormed d) {vs : FieldValues}
    {keys : List Key} (hpaths : OrderedIndex.paths d vs = .ok (keys, path))
    (hfree : d.isUnique = true → Free id (keys.map fun k => .path (k :: path)) (ordered level)) :
    (OrderedIndex.writeKeys d id keys path).perform level
        = (.ok (), alterAll (Node.grow id path) keys level) ∧
      (ordered (alterAll (Node.grow id path) keys level)).WellFormed d ∧
      Adds id (keys.map fun k => .path (k :: path)) (ordered level)
        (ordered (alterAll (Node.grow id path) keys level)) := by
  have hlen := OrderedIndex.length_of_paths hpaths
  have hnil := OrderedIndex.path_eq_nil_iff hpaths
  unfold OrderedIndex.writeKeys
  cases hcompound : d.isCompound with
  | true =>
    -- a compound index has keys below the first field
    have hpath : path ≠ [] := by simp [hnil, hcompound]
    obtain ⟨hadd, hwf, hadds⟩ := h.compound_addKeys hlen hpath keys hfree
    refine ⟨?_, hwf, hadds⟩
    cases hu : d.isUnique with
    | true => simp [Compound.write, hu, (h.compound_checkUnique hu keys).mpr (hfree hu), hadd]
    | false => simp [Compound.write, hu, hadd]
  | false =>
    obtain rfl := hnil.mpr hcompound
    obtain ⟨hadd, hwf, hadds⟩ := h.singleField_addKeys hlen.symm keys hfree
    refine ⟨?_, hwf, hadds⟩
    cases hu : d.isUnique with
    | true =>
      simp [SingleField.write, hu, (h.singleField_checkUnique hu hlen.symm keys).mpr (hfree hu),
        hadd]
    | false => simp [SingleField.write, hu, hadd]

/-- A unique index that holds another id under one of the keys refuses them all. -/
theorem WellFormed.writeKeys_refused (h : (ordered level).WellFormed d) {vs : FieldValues}
    {keys : List Key} (hpaths : OrderedIndex.paths d vs = .ok (keys, path))
    (hu : d.isUnique = true)
    (hfree : ¬ Free id (keys.map fun k => .path (k :: path)) (ordered level)) :
    ∃ e, (OrderedIndex.writeKeys d id keys path).perform level = (.error e, level) := by
  have hlen := OrderedIndex.length_of_paths hpaths
  have hnil := OrderedIndex.path_eq_nil_iff hpaths
  unfold OrderedIndex.writeKeys
  cases hcompound : d.isCompound with
  | true =>
    cases hcheck : Compound.checkUnique d id path level keys with
    | ok u => exact absurd ((h.compound_checkUnique hu keys).mp hcheck) hfree
    | error e => exact ⟨e, by simp [Compound.write, hu, hcheck]⟩
  | false =>
    obtain rfl := hnil.mpr hcompound
    cases hcheck : SingleField.checkUnique d id level keys with
    | ok u => exact absurd ((h.singleField_checkUnique hu hlen.symm keys).mp hcheck) hfree
    | error e => exact ⟨e, by simp [SingleField.write, hu, hcheck]⟩

/-- Erasing the keys of a document takes its id away under their paths, and nowhere else. -/
theorem WellFormed.eraseKeys (h : (ordered level).WellFormed d) {vs : FieldValues}
    {keys : List Key} (hpaths : OrderedIndex.paths d vs = .ok (keys, path)) (id : RecordId) :
    (OrderedIndex.eraseKeys d id keys path).perform level
        = (.ok (), alterAll (Node.prune id path) keys level) ∧
      (ordered (alterAll (Node.prune id path) keys level)).WellFormed d ∧
      Drops id (keys.map fun k => .path (k :: path)) (ordered level)
        (ordered (alterAll (Node.prune id path) keys level)) := by
  have hlen := OrderedIndex.length_of_paths hpaths
  unfold OrderedIndex.eraseKeys
  cases hcompound : d.isCompound with
  | true => exact h.compound_dropKeys hlen id keys
  | false =>
    obtain rfl := (OrderedIndex.path_eq_nil_iff hpaths).mpr hcompound
    exact h.singleField_dropKeys hlen.symm id keys

end Content

end DocumentDb
