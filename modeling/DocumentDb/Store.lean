import DocumentDb.Action
import DocumentDb.Index.Node
import DocumentDb.Value.RecordId

/-!
# The store

A store holds named ordered maps of four kinds: records, index metadata, ordered indexes and
full-text indexes. Opening a name creates the map if there is none. A map that is dropped loses its
name and its content, and every reference to it fails from then on; opening the name again gives a
new map.

Actions on a store are `StoreM`: they can fail, and what they changed before they failed stays
changed.
-/

set_option autoImplicit false

namespace DocumentDb

/-- A map with its name. -/
structure NamedMap (K V : Type) where
  name : String
  entries : List (K × V)
  dropped : Bool
deriving Inhabited

namespace NamedMap

variable {K V : Type}

/-- A new map. -/
def create (name : String) : NamedMap K V := ⟨name, [], false⟩

/-- The map after it has been dropped. -/
def drop (m : NamedMap K V) : NamedMap K V := { m with entries := [], dropped := true }

/-- The entries of a map that has not been dropped. -/
def read (m : NamedMap K V) : Result (List (K × V)) :=
  if m.dropped then .error (.mapDropped m.name) else .ok m.entries

end NamedMap

/-- The maps that were ever opened, by kind. `generation` numbers the backing maps of indexes, so
that no two of them get one name. -/
structure Store where
  records : List (NamedMap RecordId Document) := []
  metas : List (NamedMap FieldPath IndexMeta) := []
  indexes : List (NamedMap Key Node) := []
  texts : List (NamedMap String (List RecordId)) := []
  generation : Nat := 0
deriving Inhabited

/-- A reference to a map: its position among the maps of its kind. -/
structure MapRef (K : Type) where
  position : Nat
deriving DecidableEq, Inhabited, Repr

/-- The four kinds of maps, told apart by their keys. -/
class MapKind (K : Type) (V : outParam Type) where
  maps : Store → List (NamedMap K V)
  setMaps : Store → List (NamedMap K V) → Store

instance : MapKind RecordId Document := ⟨(·.records), fun s ms => { s with records := ms }⟩

instance : MapKind FieldPath IndexMeta := ⟨(·.metas), fun s ms => { s with metas := ms }⟩

instance : MapKind Key Node := ⟨(·.indexes), fun s ms => { s with indexes := ms }⟩

instance : MapKind String (List RecordId) := ⟨(·.texts), fun s ms => { s with texts := ms }⟩

namespace Store

variable {K V : Type}

/-- The position of the open map with a name. -/
def openPosition? (maps : List (NamedMap K V)) (name : String) : Option Nat :=
  maps.findIdx? fun m => !m.dropped && m.name == name

/-- The names of the open maps in a list. -/
def openNames (maps : List (NamedMap K V)) : List String :=
  (maps.filter fun m => !m.dropped).map (·.name)

/-- The names of all open maps, in order. -/
def names (s : Store) : List String :=
  (openNames s.records ++ openNames s.metas ++ openNames s.indexes ++ openNames s.texts).mergeSort

/-- Whether a map with the name is open. -/
def hasMap (s : Store) (name : String) : Bool := s.names.contains name

/-- Drops the open map with a name in a list. -/
def dropIn (name : String) (maps : List (NamedMap K V)) : List (NamedMap K V) :=
  maps.map fun m => if !m.dropped && m.name == name then m.drop else m

/-- Drops the map with a name, if there is one. -/
def dropMap (s : Store) (name : String) : Store :=
  { s with
    records := dropIn name s.records
    metas := dropIn name s.metas
    indexes := dropIn name s.indexes
    texts := dropIn name s.texts }

/-- The map a reference points to. -/
def map [MapKind K V] (s : Store) (r : MapRef K) : NamedMap K V :=
  ((MapKind.maps s)[r.position]?).getD ⟨"", [], true⟩

/-- Changes the entries of the map a reference points to. -/
def setEntries [MapKind K V] (s : Store) (r : MapRef K) (entries : List (K × V)) : Store :=
  MapKind.setMaps s ((MapKind.maps s).modify r.position fun m => { m with entries })

end Store

/-! ### Actions -/

/-- Actions on a store. -/
abbrev StoreM (α : Type) : Type := Action Store α

namespace MapRef

variable {K V : Type} [MapKind K V]

/-- The entries of the map. -/
def entries (r : MapRef K) : StoreM (List (K × V)) := fun s => ((s.map r).read, s)

variable [Ord K]

/-- What a map has under a key. -/
def get? (r : MapRef K) (k : K) : StoreM (Option V) := do
  return SortedEntries.get? k (← r.entries)

/-- Whether a map has something under a key. -/
def contains (r : MapRef K) (k : K) : StoreM Bool := do
  return SortedEntries.contains k (← r.entries)

/-- Runs an action on the entries of the map. What the action changed before it failed stays
changed. -/
def onEntries {α : Type} (r : MapRef K) (x : Action (List (K × V)) α) : StoreM α := fun s =>
  match (s.map r).read with
  | .error e => (.error e, s)
  | .ok es =>
    match x es with
    | (result, es') => (result, s.setEntries r es')

/-- Replaces the entries of the map. -/
def setEntries (r : MapRef K) (f : List (K × V) → List (K × V)) : StoreM Unit := do
  let es ← r.entries
  modify fun s => s.setEntries r (f es)

/-- Stores a value under a key. A key equal to a stored one keeps its stored form. -/
def put (r : MapRef K) (k : K) (v : V) : StoreM Unit := r.setEntries (SortedEntries.insert k v)

/-- Removes a key and gives the value it had. -/
def erase (r : MapRef K) (k : K) : StoreM (Option V) := do
  let old ← r.get? k
  r.setEntries (SortedEntries.erase k)
  return old

/-- Removes all entries. -/
def clear (r : MapRef K) : StoreM Unit := r.setEntries fun _ => []

/-- The number of entries of a map. -/
def size (r : MapRef K) : StoreM Nat := do
  return (← r.entries).length

end MapRef

/-- Opens the map of a name, and creates it if no map has the name. A map of another kind under the
name is an error. -/
def Store.openMap (K : Type) {V : Type} [MapKind K V] (name : String) : StoreM (MapRef K) := do
  let s ← get
  match Store.openPosition? (MapKind.maps (K := K) s) name with
  | some i => return ⟨i⟩
  | none =>
    if s.hasMap name then throw (.mapOfOtherType name)
    else
      let maps := MapKind.maps (K := K) s
      set (MapKind.setMaps s (maps ++ [NamedMap.create name]))
      return ⟨maps.length⟩

/-- Drops the map with a name. -/
def Store.dropNamed (name : String) : StoreM Unit := modify fun s => s.dropMap name

/-- A number that no backing map has got yet. -/
def Store.newGeneration : StoreM Nat :=
  modifyGet fun s => (s.generation, { s with generation := s.generation + 1 })

/-! ### Walks -/

/-- A walk through a map, one entry at a time. The next entry is looked up when it is pulled: it is
the one that follows the last key at that time. -/
structure Walk (K : Type) where
  map : MapRef K
  reverse : Bool
  last : Option K
  finished : Bool
deriving Inhabited

namespace Walk

variable {K V : Type} [MapKind K V]

/-- A walk that has not begun. -/
def start (map : MapRef K) (reverse : Bool) : Walk K := ⟨map, reverse, none, false⟩

/-- The walk after its end. -/
def finish (w : Walk K) : Walk K := { w with finished := true }

/-- The walk after it has reached a key. -/
def reach (w : Walk K) (k : K) : Walk K := { w with last := some k }

variable [Ord K]

/-- The entries that are still ahead, nearest first. -/
def ahead (w : Walk K) (es : List (K × V)) : List (K × V) :=
  match w.last with
  | none => SortedEntries.walk w.reverse es
  | some k => SortedEntries.walk w.reverse
      (es.filter fun e => compare k e.1 == if w.reverse then .gt else .lt)

/-- What the walk yields on a store that does not change, with the walk as it is after each entry.
It ends with an error if the map has been dropped. -/
def run (w : Walk K) (s : Store) : List (Result (K × V) × Walk K) :=
  if w.finished then []
  else
    match (s.map w.map).read with
    | .error e => [(.error e, w.finish)]
    | .ok es => (w.ahead es).map fun e => (.ok e, w.reach e.1)

/-- The next entry. A walk that has come to an end stays there, whatever is stored later. -/
def next (w : Walk K) (s : Store) : Option (Result (K × V)) × Walk K :=
  match w.run s with
  | [] => (none, w.finish)
  | (item, w') :: _ => (some item, w')

end Walk

end DocumentDb
