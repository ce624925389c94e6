import DocumentDb.Config
import DocumentDb.Query.Plan
import DocumentDb.Serial.Shape

/-!
# Typed form of ids, indexes and configurations

How record ids, field paths, index descriptors and metadata, sort orders and configurations are
written as JSON text and read again. Paths are read as they stand, without the check of paths given
by a user.
-/

set_option autoImplicit false

namespace DocumentDb.Serial

open Json (Tree)

/-! ### Ids and paths -/

def recordId (id : RecordId) : String := Json.quote id.render

def recordId? (t : Tree) : Option RecordId := (text? t).bind RecordId.read?

def fieldPath (p : FieldPath) : String := list (p.fields.map Json.quote)

def fieldPath? (depth : Nat) (t : Tree) : Option FieldPath := (list? text? depth t).map .mk

/-! ### Variants -/

/-- The names of index kinds. -/
def indexKinds : List (String × IndexKind) :=
  [("Unique", .unique), ("NonUnique", .nonUnique), ("FullText", .fullText)]

/-- The names of sort orders. -/
def sortOrders : List (String × SortOrder) :=
  [("Ascending", .ascending), ("Descending", .descending)]

def indexKind : IndexKind → String
  | .unique => Json.quote "Unique"
  | .nonUnique => Json.quote "NonUnique"
  | .fullText => Json.quote "FullText"

def sortOrder (o : SortOrder) : String := Json.quote o.render

/-! ### Descriptors and metadata -/

def descriptor (d : IndexDescriptor) : String :=
  record [("kind", indexKind d.kind), ("fields", fieldPath d.fields),
    ("collection", Json.quote d.collection)]

def descriptor? (depth : Nat) (t : Tree) : Option IndexDescriptor := do
  match ← record? ["kind", "fields", "collection"] depth t with
  | [kind, fields, collection] =>
    some ⟨← required? (unit? indexKinds (depth - 1)) kind,
      ← required? (fieldPath? (depth - 1)) fields,
      ← required? text? collection⟩
  | _ => none

def indexMeta (m : IndexMeta) : String :=
  record [("descriptor", descriptor m.descriptor), ("map_name", Json.quote m.mapName),
    ("dirty", (Json.bool m.dirty).render)]

def indexMeta? (depth : Nat) (t : Tree) : Option IndexMeta := do
  match ← record? ["descriptor", "map_name", "dirty"] depth t with
  | [d, mapName, dirty] =>
    some ⟨← required? (descriptor? (depth - 1)) d, ← required? text? mapName,
      ← required? bool? dirty⟩
  | _ => none

/-! ### Configurations -/

/-- The part of a configuration that is plain data. -/
def config (c : Config) : String :=
  record [("rebuild_dirty_on_write", (Json.bool c.rebuildDirtyOnWrite).render),
    ("parallel_index_drop", (Json.bool c.parallelIndexDrop).render),
    ("node_id", optional toString c.nodeId),
    ("stop_words", optional (fun words => list (words.map Json.quote)) c.stopWords)]

/-- A configuration. What is missing has its default. -/
def config? (depth : Nat) (t : Tree) : Option Config := do
  match ← record? ["rebuild_dirty_on_write", "parallel_index_drop", "node_id", "stop_words"] depth
    t with
  | [rebuild, parallel, node, words] =>
    some
      { rebuildDirtyOnWrite := ← defaulted? true bool? rebuild
        parallelIndexDrop := ← defaulted? true bool? parallel
        nodeId := ← defaulted? none (optional? fun t => (integer? 0 65535 t).map Int.toNat) node
        stopWords := ← defaulted? none (optional? (list? text? (depth - 1))) words }
  | _ => none

end DocumentDb.Serial
