import DocumentDb.Index.FanOut
import DocumentDb.Notation.Query
import DocumentDb.Store

/-!
# Indexes in JSON

A list of ids is the end of a path through an index tree; a level is an array of pairs of a key and
what it leads to. `ofIndexes` describes the indexes of a collection as its store holds them.
-/

set_option autoImplicit false

namespace DocumentDb.Notation

open Json (unexpected ofOption ofList ofTexts)

/-! ### Trees -/

mutual

def readNode : Json → Result Node
  | .object [("inner", .array entries)] =>
    (readEntries entries).map fun es => .inner (Level.ofEntries es)
  | j => (readIds j).map .terminal

def readEntries : List Json → Result (List (Key × Node))
  | [] => .ok []
  | .array [k, n] :: rest => do return (← readKey k, ← readNode n) :: (← readEntries rest)
  | _ => unexpected

end

mutual

def ofNode : Node → Json
  | .terminal ids => ofIds ids
  | .inner level => .object [("inner", .array (ofLevel level))]

def ofLevel : List (Key × Node) → List Json
  | [] => []
  | (k, n) :: rest => .array [ofKey k, ofNode n] :: ofLevel rest

end

/-- What a full-text index holds. -/
def ofPostings : List (String × List RecordId) → Json :=
  ofList fun (word, ids) => .array [.string word, ofIds ids]

/-! ### Descriptors and metadata -/

/-- The parts of a descriptor, and what follows from them. -/
def ofDescriptorParts (d : IndexDescriptor) : Json :=
  Json.ofMembers [("kind", .string d.kind.render), ("fields", ofTexts d.fields.fields),
    ("show", ofDescriptor d),
    ("unique", .bool d.isUnique), ("compound", .bool d.isCompound),
      ("full_text", .bool d.isFullText)]

def ofMeta (m : IndexMeta) : Json :=
  Json.ofMembers [("index", ofDescriptor m.descriptor), ("map", .string m.mapName),
    ("dirty", .bool m.dirty)]

/-- What an index takes from a document. -/
def ofFieldValues (vs : FieldValues) : Json :=
  Json.ofMembers [("id", ofId vs.id),
    ("values", ofList (fun (field, v) => .array [.string field, ofValue v]) vs.values),
    ("first", ofValue vs.firstValue), ("last", ofFound (vs.fields.fields.getLast?.bind vs.get?))]

/-! ### Content of a store -/

/-- The entries of the open map with a name, if there is one of this kind. -/
def entriesNamed? (K : Type) {V : Type} [MapKind K V] (name : String) (s : Store) :
    Option (List (K × V)) :=
  (Store.openPosition? (MapKind.maps (K := K) s) name).map fun i => (s.map (⟨i⟩ : MapRef K)).entries

/-- The content of the backing map with a name. -/
def ofBacking (name : String) (s : Store) : Json :=
  match entriesNamed? Key name s, entriesNamed? String name s with
  | some level, _ => .array (ofLevel level)
  | _, some postings => ofPostings postings
  | _, _ => .null

/-- The indexes of a collection with their content. -/
def ofIndexes (collection : String) (s : Store) : Json :=
  ofOption (ofList fun (_, m) =>
      Json.ofMembers [("index", ofDescriptor m.descriptor), ("dirty", .bool m.dirty),
        ("entries", ofBacking m.mapName s)])
    (entriesNamed? FieldPath (metaMapName collection) s)

end DocumentDb.Notation
