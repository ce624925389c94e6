import DocumentDb.Proofs.Action
import DocumentDb.Store

/-!
# `DocumentDb.Proofs.Store`: a store as maps found by name

A store keeps its maps in lists and hands out positions. What matters of it is what
`Store.lookup` says: the entries of the open map with a name. A reference is good for a name
when it points to the map that this name is found under (`Store.Refers`).

* `openPosition?_modify`, `openPosition?_append` and `openPosition?_dropIn` say what a
  change of entries, a new map and a drop do to the positions of all names. A good reference
  stays good until its name is dropped.
* `lookup_modify`, `lookup_append` and `lookup_dropIn` say the same of the entries: a change
  through a reference that is good for a name is a change at that name only.
* The lemmas `MapRef.perform_…` evaluate the actions on a map through a good reference.

A reference does not need a name to be followed. `LawfulMapKind` says what the four kinds of maps
have in common, and `read_setEntries`, `setEntries_setEntries` and `setEntries_self` are the laws of
reading a map and writing to it.
-/

set_option autoImplicit false

namespace DocumentDb

namespace Store

variable {K V : Type}

/-- The entries of the open map with a name. -/
def lookup (name : String) (maps : List (NamedMap K V)) : Option (List (K × V)) :=
  (maps.find? fun m => !m.dropped && m.name == name).map (·.entries)

/-- The entries of the open map with a name, none if no map has it. -/
def entriesOf (name : String) (maps : List (NamedMap K V)) : List (K × V) :=
  (lookup name maps).getD []

/-- The first open map of a name is at the front or among the others. -/
theorem openPosition?_cons (m : NamedMap K V) (ms : List (NamedMap K V)) (name : String) :
    openPosition? (m :: ms) name
      = if !m.dropped && m.name == name then some 0
        else (openPosition? ms name).map (· + 1) := by
  unfold openPosition?
  rw [List.findIdx?_cons]

/-- A name is looked up at the front first. Maps that have been dropped are passed over. -/
theorem lookup_cons (m : NamedMap K V) (ms : List (NamedMap K V)) (name : String) :
    lookup name (m :: ms)
      = if !m.dropped && m.name == name then some m.entries else lookup name ms := by
  unfold lookup
  rw [List.find?_cons]
  split <;> simp_all

/-- A name is found by position exactly when it is found by its entries. -/
theorem lookup_eq_none_iff {name : String} {maps : List (NamedMap K V)} :
    lookup name maps = none ↔ openPosition? maps name = none := by
  simp [lookup, openPosition?]

/-- The open names are those that can be looked up. -/
theorem mem_openNames_iff {name : String} {maps : List (NamedMap K V)} :
    name ∈ openNames maps ↔ lookup name maps ≠ none := by
  simp only [openNames, lookup, List.mem_map, List.mem_filter, ne_eq, Option.map_eq_none_iff,
    List.find?_eq_none, Classical.not_forall, Bool.and_eq_true, Bool.not_eq_true', beq_iff_eq,
    Classical.not_not]
  constructor
  · rintro ⟨m, ⟨hm, hopen⟩, hname⟩
    exact ⟨m, hm, hopen, hname⟩
  · rintro ⟨m, hm, hopen, hname⟩
    exact ⟨m, ⟨hm, hopen⟩, hname⟩

/-- The map that an open position leads to. -/
theorem getElem?_of_openPosition? {name : String} {maps : List (NamedMap K V)} {i : Nat}
    (h : openPosition? maps name = some i) :
    maps[i]? = some ⟨name, entriesOf name maps, false⟩ := by
  induction maps generalizing i with
  | nil => simp [openPosition?] at h
  | cons m ms ih =>
    rw [openPosition?_cons] at h
    rw [entriesOf, lookup_cons]
    split at h
    · rename_i hm
      rw [if_pos hm]
      simp only [Bool.and_eq_true, Bool.not_eq_true', beq_iff_eq] at hm
      cases h
      rw [List.getElem?_cons_zero, Option.getD_some, ← hm.1, ← hm.2]
    · rename_i hm
      obtain ⟨j, hj, rfl⟩ := Option.map_eq_some_iff.mp h
      rw [if_neg hm, List.getElem?_cons_succ, ih hj]
      rfl

/-- Where there is an open map of a name, looking it up gives its entries. -/
theorem lookup_of_openPosition? {name : String} {maps : List (NamedMap K V)} {i : Nat}
    (h : openPosition? maps name = some i) : lookup name maps = some (entriesOf name maps) := by
  cases hl : lookup name maps with
  | none =>
    rw [lookup_eq_none_iff.mp hl] at h
    cases h
  | some es => rw [entriesOf, hl, Option.getD_some]

/-! ### Changes of entries -/

/-- Changing the entries of a map moves no map. -/
theorem openPosition?_modify (maps : List (NamedMap K V)) (i : Nat) (es : List (K × V))
    (name : String) :
    openPosition? (maps.modify i fun m => { m with entries := es }) name
      = openPosition? maps name := by
  induction maps generalizing i with
  | nil => simp
  | cons m ms ih =>
    cases i with
    | zero => rw [List.modify_zero_cons, openPosition?_cons, openPosition?_cons]
    | succ i => rw [List.modify_succ_cons, openPosition?_cons, openPosition?_cons, ih]

/-- Changing the entries of the map with a name changes nothing under other names. -/
theorem lookup_modify {maps : List (NamedMap K V)} {name : String} {i : Nat}
    (h : openPosition? maps name = some i) (es : List (K × V)) (name' : String) :
    lookup name' (maps.modify i fun m => { m with entries := es })
      = if name' = name then some es else lookup name' maps := by
  induction maps generalizing i with
  | nil => simp [openPosition?] at h
  | cons m ms ih =>
    rw [openPosition?_cons] at h
    split at h
    · rename_i hm
      cases h
      rw [List.modify_zero_cons, lookup_cons, lookup_cons]
      simp only [Bool.and_eq_true, Bool.not_eq_true', beq_iff_eq] at hm ⊢
      by_cases hname : name' = name
      · simp [hm, hname]
      · have hne : ¬ (m.dropped = false ∧ m.name = name') := fun hh => hname (hh.2.symm.trans hm.2)
        simp [hne, hname]
    · rename_i hm
      obtain ⟨j, hj, rfl⟩ := Option.map_eq_some_iff.mp h
      rw [List.modify_succ_cons, lookup_cons, lookup_cons, ih hj]
      by_cases hname : name' = name
      · subst hname
        simp [hm]
      · simp [hname]

/-- New entries in the open map of a name are the entries of that name. -/
theorem entriesOf_modify {maps : List (NamedMap K V)} {name : String} {i : Nat}
    (h : openPosition? maps name = some i) (es : List (K × V)) (name' : String) :
    entriesOf name' (maps.modify i fun m => { m with entries := es })
      = if name' = name then es else entriesOf name' maps := by
  rw [entriesOf, lookup_modify h]
  split <;> rfl

/-! ### New maps -/

/-- A new map under a name that was not found moves no other map. -/
theorem openPosition?_append (maps : List (NamedMap K V)) (name name' : String) :
    openPosition? (maps ++ [NamedMap.create name]) name'
      = (openPosition? maps name').or (if name' = name then some maps.length else none) := by
  induction maps with
  | nil =>
    rw [List.nil_append, openPosition?_cons]
    by_cases hname : name' = name
    · simp [NamedMap.create, openPosition?, hname]
    · simp [NamedMap.create, openPosition?, hname, Ne.symm hname]
  | cons m ms ih =>
    rw [List.cons_append, openPosition?_cons, openPosition?_cons, ih]
    split
    · rfl
    · cases openPosition? ms name' <;> by_cases hname : name' = name <;> simp [hname]

/-- A map that is created at the end is found unless an open one of its name comes before it. -/
theorem lookup_append (maps : List (NamedMap K V)) (name name' : String) :
    lookup name' (maps ++ [NamedMap.create name])
      = (lookup name' maps).or (if name' = name then some [] else none) := by
  induction maps with
  | nil =>
    rw [List.nil_append, lookup_cons]
    by_cases hname : name' = name
    · simp [NamedMap.create, lookup, hname]
    · simp [NamedMap.create, lookup, hname, Ne.symm hname]
  | cons m ms ih =>
    rw [List.cons_append, lookup_cons, lookup_cons, ih]
    split <;> rfl

/-- A new map is found under its own name only. -/
theorem lookup_append_eq_none {maps : List (NamedMap K V)} {name name' : String}
    (h : lookup name' maps = none) (hne : name' ≠ name) :
    lookup name' (maps ++ [NamedMap.create name]) = none := by
  rw [lookup_append, h, if_neg hne]
  rfl

/-- A new map is empty, so it changes no entries. -/
theorem entriesOf_append (maps : List (NamedMap K V)) (name name' : String) :
    entriesOf name' (maps ++ [NamedMap.create name]) = entriesOf name' maps := by
  rw [entriesOf, lookup_append, entriesOf]
  cases lookup name' maps with
  | some es => rfl
  | none => split <;> rfl

/-! ### Drops -/

/-- A drop moves no map under another name. -/
theorem openPosition?_dropIn (maps : List (NamedMap K V)) (name name' : String) :
    openPosition? (dropIn name maps) name'
      = if name' = name then none else openPosition? maps name' := by
  induction maps with
  | nil => simp [dropIn, openPosition?]
  | cons m ms ih =>
    have hcons : dropIn name (m :: ms)
        = (if !m.dropped && m.name == name then m.drop else m) :: dropIn name ms := rfl
    rw [hcons, openPosition?_cons, openPosition?_cons, ih]
    by_cases hname : name' = name
    · subst hname
      by_cases hm : (!m.dropped && m.name == name') = true
      · simp [hm, NamedMap.drop]
      · simp [hm]
    · by_cases hm : (!m.dropped && m.name == name) = true
      · simp only [Bool.and_eq_true, Bool.not_eq_true', beq_iff_eq] at hm
        simp [hm, hname, NamedMap.drop, Ne.symm hname]
      · simp [hm, hname]

/-- After a drop of a name nothing is found under it, and all else as before. -/
theorem lookup_dropIn (maps : List (NamedMap K V)) (name name' : String) :
    lookup name' (dropIn name maps) = if name' = name then none else lookup name' maps := by
  induction maps with
  | nil => simp [dropIn, lookup]
  | cons m ms ih =>
    have hcons : dropIn name (m :: ms)
        = (if !m.dropped && m.name == name then m.drop else m) :: dropIn name ms := rfl
    rw [hcons, lookup_cons, lookup_cons, ih]
    by_cases hname : name' = name
    · subst hname
      by_cases hm : (!m.dropped && m.name == name') = true
      · simp [hm, NamedMap.drop]
      · simp [hm]
    · by_cases hm : (!m.dropped && m.name == name) = true
      · simp only [Bool.and_eq_true, Bool.not_eq_true', beq_iff_eq] at hm
        simp [hm, hname, NamedMap.drop, Ne.symm hname]
      · simp [hm, hname]

/-- Nor are there any entries under it. -/
theorem entriesOf_dropIn (maps : List (NamedMap K V)) (name name' : String) :
    entriesOf name' (dropIn name maps) = if name' = name then [] else entriesOf name' maps := by
  rw [entriesOf, lookup_dropIn]
  split <;> rfl

/-- A drop finds no new names. -/
theorem lookup_dropIn_eq_none {maps : List (NamedMap K V)} {name' : String}
    (h : lookup name' maps = none) (name : String) : lookup name' (dropIn name maps) = none := by
  rw [lookup_dropIn, h, ite_self]

/-- A store after maps with some names have been dropped in turn. -/
def dropMaps (s : Store) (names : List String) : Store := names.foldl dropMap s

/-- Dropping several maps is, for each kind, dropping them in the list of that kind. -/
theorem dropMaps_eq (s : Store) (names : List String) :
    s.dropMaps names = { s with
      records := names.foldl (fun ms n => dropIn n ms) s.records
      metas := names.foldl (fun ms n => dropIn n ms) s.metas
      indexes := names.foldl (fun ms n => dropIn n ms) s.indexes
      texts := names.foldl (fun ms n => dropIn n ms) s.texts } := by
  induction names generalizing s with
  | nil => rfl
  | cons n names ih => exact ih (s.dropMap n)

/-- Drops of other names leave the position of a map as it is. -/
theorem openPosition?_dropAll (maps : List (NamedMap K V)) (names : List String)
    (name' : String) (hname : name' ∉ names) :
    openPosition? (names.foldl (fun ms n => dropIn n ms) maps) name'
      = openPosition? maps name' := by
  induction names generalizing maps with
  | nil => rfl
  | cons n names ih =>
    rw [List.mem_cons, not_or] at hname
    rw [List.foldl_cons, ih _ hname.2, openPosition?_dropIn, if_neg hname.1]

/-- Drops of other names leave what is found under a name as it is. -/
theorem lookup_dropAll (maps : List (NamedMap K V)) (names : List String) (name' : String)
    (hname : name' ∉ names) :
    lookup name' (names.foldl (fun ms n => dropIn n ms) maps) = lookup name' maps := by
  induction names generalizing maps with
  | nil => rfl
  | cons n names ih =>
    rw [List.mem_cons, not_or] at hname
    rw [List.foldl_cons, ih _ hname.2, lookup_dropIn, if_neg hname.1]

/-- What is not there does not appear when names are dropped. -/
theorem lookup_dropAll_eq_none {maps : List (NamedMap K V)} {name' : String}
    (h : lookup name' maps = none) (names : List String) :
    lookup name' (names.foldl (fun ms n => dropIn n ms) maps) = none := by
  induction names generalizing maps with
  | nil => exact h
  | cons n names ih => exact ih (lookup_dropIn_eq_none h n)

/-! ### The four kinds together -/

/-- A name is free when no map of any kind has it. -/
theorem hasMap_eq_false_iff {s : Store} {name : String} :
    s.hasMap name = false ↔
      lookup name s.records = none ∧ lookup name s.metas = none ∧
        lookup name s.indexes = none ∧ lookup name s.texts = none := by
  rw [hasMap, Bool.eq_false_iff, ne_eq, List.contains_iff_mem, names, List.mem_mergeSort]
  simp only [List.mem_append, mem_openNames_iff, not_or, ne_eq, Classical.not_not,
    and_assoc]

/-- Whether a store finds all maps where another one finds them, whatever they hold. -/
structure SamePlaces (s s' : Store) : Prop where
  records : ∀ name, openPosition? s'.records name = openPosition? s.records name
  metas : ∀ name, openPosition? s'.metas name = openPosition? s.metas name
  indexes : ∀ name, openPosition? s'.indexes name = openPosition? s.indexes name
  texts : ∀ name, openPosition? s'.texts name = openPosition? s.texts name

/-- Then no name has been taken or freed. -/
theorem SamePlaces.hasMap_eq {s s' : Store} (h : s.SamePlaces s') (name : String) :
    s'.hasMap name = s.hasMap name := by
  rw [← Bool.not_inj_iff, Bool.eq_iff_iff, Bool.not_eq_true', Bool.not_eq_true']
  simp only [hasMap_eq_false_iff, lookup_eq_none_iff, h.records, h.metas, h.indexes, h.texts]

/-- A new store has no maps. -/
theorem hasMap_new (name : String) : ({} : Store).hasMap name = false :=
  hasMap_eq_false_iff.mpr ⟨rfl, rfl, rfl, rfl⟩

/-- A reference that is good for a name. -/
def Refers (maps : List (NamedMap K V)) (r : MapRef K) (name : String) : Prop :=
  openPosition? maps name = some r.position

/-- A reference leads to the same map after a change of entries. -/
theorem Refers.modify {maps : List (NamedMap K V)} {r : MapRef K} {name : String}
    (h : Refers maps r name) (i : Nat) (es : List (K × V)) :
    Refers (maps.modify i fun m => { m with entries := es }) r name :=
  (openPosition?_modify maps i es name).trans h

/-- A new map moves none of the maps that are referred to. -/
theorem Refers.append {maps : List (NamedMap K V)} {r : MapRef K} {name : String}
    (h : Refers maps r name) (name' : String) :
    Refers (maps ++ [NamedMap.create name']) r name := by
  rw [Refers, openPosition?_append, h]
  rfl

/-- A new map is the last one. -/
theorem refers_append {maps : List (NamedMap K V)} {name : String}
    (h : lookup name maps = none) :
    Refers (maps ++ [NamedMap.create name]) ⟨maps.length⟩ name := by
  rw [Refers, openPosition?_append, lookup_eq_none_iff.mp h, if_pos rfl]
  rfl

/-- A reference outlives drops of maps with other names. -/
theorem Refers.dropIn {maps : List (NamedMap K V)} {r : MapRef K} {name name' : String}
    (h : Refers maps r name') (hne : name' ≠ name) : Refers (dropIn name maps) r name' := by
  rw [Refers, openPosition?_dropIn, if_neg hne]
  exact h

/-- A reference outlives the drops of other names. -/
theorem Refers.dropAll {maps : List (NamedMap K V)} {r : MapRef K} {name : String}
    (h : Refers maps r name) {names : List String} (hname : name ∉ names) :
    Refers (names.foldl (fun ms n => Store.dropIn n ms) maps) r name :=
  (openPosition?_dropAll maps names name hname).trans h

/-- A reference that is good leads to an open map with the entries of its name. -/
theorem map_of_refers [MapKind K V] {s : Store} {r : MapRef K} {name : String}
    (h : Refers (MapKind.maps s) r name) :
    s.map r = ⟨name, entriesOf name (MapKind.maps s), false⟩ := by
  rw [map, getElem?_of_openPosition? h]
  rfl

/-- After it has been dropped, there is no map of a name, of whatever kind it was. -/
theorem hasMap_dropMap (s : Store) (name : String) : (s.dropMap name).hasMap name = false := by
  refine hasMap_eq_false_iff.mpr ⟨?_, ?_, ?_, ?_⟩
  all_goals exact (lookup_dropIn _ _ _).trans (if_pos rfl)

/-- Opening a map that is open. -/
theorem perform_openMap_old [MapKind K V] {s : Store} {name : String} {i : Nat}
    (h : openPosition? (MapKind.maps (K := K) s) name = some i) :
    (openMap K name).perform s = (.ok ⟨i⟩, s) := by
  unfold openMap
  simp only [Action.perform_bind, Action.perform_get, h, Action.perform_pure]

/-- Opening a map that is not there creates it, unless a map of another kind has the name. -/
theorem perform_openMap_new [MapKind K V] {s : Store} {name : String}
    (h : openPosition? (MapKind.maps (K := K) s) name = none) (hfree : s.hasMap name = false) :
    (openMap K name).perform s
      = (.ok ⟨(MapKind.maps (K := K) s).length⟩,
          MapKind.setMaps s (MapKind.maps (K := K) s ++ [NamedMap.create name])) := by
  unfold openMap
  simp only [Action.perform_bind, Action.perform_get, h, hfree, Bool.false_eq_true, if_false,
    Action.perform_set, Action.perform_pure]

end Store

/-! ### Reading and writing back

The list of maps of a kind is a part of the store. A map that can be read gives back what was last
written to it, and writing what it holds already changes nothing. -/

/-- Kinds of maps whose list can be read and replaced, and is affected by drops. -/
class LawfulMapKind (K : Type) {V : outParam Type} [MapKind K V] : Prop where
  maps_setMaps : ∀ (s : Store) (ms : List (NamedMap K V)),
    MapKind.maps (MapKind.setMaps s ms) = ms
  setMaps_maps : ∀ s : Store, MapKind.setMaps s (MapKind.maps (K := K) s) = s
  setMaps_setMaps : ∀ (s : Store) (ms ms' : List (NamedMap K V)),
    MapKind.setMaps (MapKind.setMaps s ms) ms' = MapKind.setMaps s ms'
  maps_dropMap : ∀ (s : Store) (name : String),
    MapKind.maps (K := K) (s.dropMap name) = Store.dropIn name (MapKind.maps s)

instance : LawfulMapKind RecordId :=
  ⟨fun _ _ => rfl, fun _ => rfl, fun _ _ _ => rfl, fun _ _ => rfl⟩

instance : LawfulMapKind FieldPath :=
  ⟨fun _ _ => rfl, fun _ => rfl, fun _ _ _ => rfl, fun _ _ => rfl⟩

instance : LawfulMapKind Key := ⟨fun _ _ => rfl, fun _ => rfl, fun _ _ _ => rfl, fun _ _ => rfl⟩

instance : LawfulMapKind String := ⟨fun _ _ => rfl, fun _ => rfl, fun _ _ _ => rfl, fun _ _ => rfl⟩

namespace Store

variable {K V : Type} [MapKind K V] {s : Store} {r : MapRef K} {es : List (K × V)}

/-- A map that a good reference leads to can be read. -/
theorem read_of_refers {name : String} (h : Refers (MapKind.maps s) r name) :
    (s.map r).read = .ok (entriesOf name (MapKind.maps s)) := by
  rw [map_of_refers h]
  rfl

/-- A map that can be read is one of the maps, and it is open. -/
theorem map_of_read (h : (s.map r).read = .ok es) :
    (MapKind.maps (K := K) s)[r.position]? = some ⟨(s.map r).name, es, false⟩ := by
  unfold map at h ⊢
  cases hm : (MapKind.maps (K := K) s)[r.position]? with
  | none =>
    rw [hm] at h
    cases h
  | some m =>
    rw [hm, Option.getD_some, NamedMap.read] at h
    cases hdropped : m.dropped with
    | true =>
      rw [if_pos hdropped] at h
      cases h
    | false =>
      rw [if_neg (by simp [hdropped]), Except.ok.injEq] at h
      rw [Option.getD_some, ← h, ← hdropped]

variable [LawfulMapKind K]

/-- New entries are written to the map at the position of the reference. -/
theorem map_setEntries (s : Store) (r : MapRef K) (es : List (K × V)) :
    (s.setEntries r es).map r
      = (((MapKind.maps (K := K) s)[r.position]?).map fun m => { m with entries := es }).getD
          ⟨"", [], true⟩ := by
  rw [map, setEntries, LawfulMapKind.maps_setMaps, List.getElem?_modify]
  simp only [if_true]
  rfl

/-- A map holds what was last written to it. -/
theorem read_setEntries (h : (s.map r).read = .ok es) (es' : List (K × V)) :
    ((s.setEntries r es').map r).read = .ok es' := by
  rw [map_setEntries, map_of_read h]
  rfl

/-- What is written last stands. -/
theorem setEntries_setEntries (s : Store) (r : MapRef K) (es es' : List (K × V)) :
    (s.setEntries r es).setEntries r es' = s.setEntries r es' := by
  rw [setEntries, setEntries, LawfulMapKind.maps_setMaps, LawfulMapKind.setMaps_setMaps,
    List.modify_modify_eq]
  rfl

/-- A map that is opened under a free name is empty. -/
theorem exists_openMap_new {name : String} (h : lookup name (MapKind.maps (K := K) s) = none)
    (hfree : s.hasMap name = false) :
    ∃ (r : MapRef K) (s' : Store), (openMap K name).perform s = (.ok r, s') ∧
      (s'.map r).read = .ok [] := by
  refine ⟨_, _, perform_openMap_new (lookup_eq_none_iff.mp h) hfree, ?_⟩
  rw [map, LawfulMapKind.maps_setMaps, List.getElem?_concat_length]
  rfl

/-- Writing what a map holds changes nothing. -/
theorem setEntries_self (h : (s.map r).read = .ok es) : s.setEntries r es = s := by
  have hsame : (MapKind.maps (K := K) s).modify r.position (fun m => { m with entries := es })
      = MapKind.maps s := by
    have hm := map_of_read h
    refine List.ext_getElem? fun i => ?_
    rw [List.getElem?_modify]
    by_cases hi : r.position = i
    · subst hi
      rw [hm]
      simp
    · simp [hi]
  rw [setEntries, hsame, LawfulMapKind.setMaps_maps]

end Store

/-! ### Actions on a map -/

namespace MapRef

open Store (Refers entriesOf)

variable {K V : Type} [MapKind K V] {s : Store} {r : MapRef K} {name : String}

/-- What reading a map gives when the map can be read. -/
theorem perform_entries_of_read {es : List (K × V)} (h : (s.map r).read = .ok es) :
    r.entries.perform s = (.ok es, s) := by
  show ((s.map r).read, s) = _
  rw [h]

/-- Reading all entries through a good reference. -/
theorem perform_entries (h : Refers (MapKind.maps s) r name) :
    r.entries.perform s = (.ok (entriesOf name (MapKind.maps s)), s) :=
  perform_entries_of_read (Store.read_of_refers h)

/-- What replacing the entries of a map does when the map can be read. -/
theorem perform_setEntries_of_read {es : List (K × V)} (h : (s.map r).read = .ok es)
    (f : List (K × V) → List (K × V)) :
    (r.setEntries f).perform s = (.ok (), s.setEntries r (f es)) := by
  rw [setEntries]
  simp only [Action.perform_bind, perform_entries_of_read h, Action.perform_modify]

/-- A map that cannot be read is not written to. -/
theorem perform_setEntries_of_error {e : Error} (h : (s.map r).read = .error e)
    (f : List (K × V) → List (K × V)) : (r.setEntries f).perform s = (.error e, s) := by
  have hentries : r.entries.perform s = (.error e, s) := by
    show ((s.map r).read, s) = _
    rw [h]
  rw [setEntries]
  simp only [Action.perform_bind, hentries]

/-- Changing all entries through a good reference. -/
theorem perform_setEntries (h : Refers (MapKind.maps s) r name) (f : List (K × V) → List (K × V)) :
    (r.setEntries f).perform s = (.ok (), s.setEntries r (f (entriesOf name (MapKind.maps s)))) :=
  perform_setEntries_of_read (Store.read_of_refers h) f

/-- Clearing a map through a good reference. -/
theorem perform_clear (h : Refers (MapKind.maps s) r name) :
    r.clear.perform s = (.ok (), s.setEntries r []) := by
  rw [clear, perform_setEntries h]

/-- What an action on the entries of a map does when the map can be read. -/
theorem perform_onEntries_of_read {α : Type} {es : List (K × V)} (h : (s.map r).read = .ok es)
    (x : Action (List (K × V)) α) :
    (r.onEntries x).perform s = ((x.perform es).1, s.setEntries r (x.perform es).2) := by
  simp only [Action.perform, onEntries, h]
  rfl

variable [Ord K]

/-- Looking up a key through a good reference. -/
theorem perform_get? (h : Refers (MapKind.maps s) r name) (k : K) :
    (r.get? k).perform s = (.ok (SortedEntries.get? k (entriesOf name (MapKind.maps s))), s) := by
  rw [get?]
  simp only [Action.perform_bind, perform_entries h, Action.perform_pure]

/-- Asking for a key through a good reference. -/
theorem perform_contains (h : Refers (MapKind.maps s) r name) (k : K) :
    (r.contains k).perform s
      = (.ok (SortedEntries.get? k (entriesOf name (MapKind.maps s))).isSome, s) := by
  rw [contains]
  simp only [Action.perform_bind, perform_entries h, Action.perform_pure]
  rfl

/-- Removing a key changes the map as taking the key out of its entries does. -/
theorem perform_erase_snd (r : MapRef K) (k : K) (s : Store) :
    ((r.erase k).perform s).2 = ((r.setEntries (SortedEntries.erase k)).perform s).2 := by
  have hentries : r.entries.perform s = ((s.map r).read, s) := rfl
  rw [erase, get?, Action.perform_bind, Action.perform_bind, hentries]
  cases hread : (s.map r).read with
  | error e => rw [perform_setEntries_of_error hread]
  | ok es =>
    simp only [Action.perform_pure, Action.perform_bind, perform_setEntries_of_read hread]

/-- Storing an entry through a good reference. -/
theorem perform_put (h : Refers (MapKind.maps s) r name) (k : K) (v : V) :
    (r.put k v).perform s
      = (.ok (), s.setEntries r (SortedEntries.insert k v (entriesOf name (MapKind.maps s)))) := by
  rw [put, perform_setEntries h]

/-- Erasing an entry through a good reference, which gives what was there. -/
theorem perform_erase (h : Refers (MapKind.maps s) r name) (k : K) :
    (r.erase k).perform s
      = (.ok (SortedEntries.get? k (entriesOf name (MapKind.maps s))),
          s.setEntries r (SortedEntries.erase k (entriesOf name (MapKind.maps s)))) := by
  rw [erase]
  simp only [Action.perform_bind, perform_get? h, perform_setEntries h, Action.perform_pure]

end MapRef

end DocumentDb
