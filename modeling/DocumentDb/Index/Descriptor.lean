import DocumentDb.FieldPath

/-!
# Index descriptors

An index is identified by the collection it belongs to and the fields it covers. Its metadata add
the name of its backing map and whether its content can be trusted.
-/

set_option autoImplicit false

namespace DocumentDb

/-- The kinds of indexes. -/
inductive IndexKind
  /-- At most one record per key. -/
  | unique
  | nonUnique
  /-- Words of texts; covers a single field. -/
  | fullText
deriving DecidableEq, Inhabited, Repr

namespace IndexKind

def render : IndexKind → String
  | .unique => "unique"
  | .nonUnique => "non-unique"
  | .fullText => "full-text"

end IndexKind

/-- Identity of an index. -/
structure IndexDescriptor where
  kind : IndexKind
  fields : FieldPath
  collection : String
deriving DecidableEq, Inhabited, Repr

namespace IndexDescriptor

/-- Whether no two records may share an entry of the index. -/
def isUnique (d : IndexDescriptor) : Bool := d.kind == .unique

/-- Whether the index maps tokens and not keys. -/
def isFullText (d : IndexDescriptor) : Bool := d.kind == .fullText

/-- Whether the index is on more than one field. -/
def isCompound (d : IndexDescriptor) : Bool := d.fields.isCompound

def render (d : IndexDescriptor) : String :=
  d.kind.render ++ " index on " ++ d.collection ++ d.fields.render

end IndexDescriptor

/-- What a collection records about one of its indexes. An index is dirty from its registration
until a build completes, and again while a rebuild runs; it stays dirty when a build fails. -/
structure IndexMeta where
  descriptor : IndexDescriptor
  mapName : String
  dirty : Bool
deriving DecidableEq, Inhabited, Repr

/-! ### Names of backing maps -/

/-- First part of the name of every backing map of an index. -/
def indexMapMark : String := "$cairn_index"

/-- First part of the name of every map of index metadata. -/
def metaMapMark : String := "$cairn_meta"

/-- The name of the map that holds the metadata of a collection's indexes. -/
def metaMapName (collection : String) : String := metaMapMark ++ "|" ++ collection

/-- Thirty-two hexadecimal digits that tell the generations of an index apart. -/
def generationText (generation : Nat) : String :=
  let digits := Nat.toDigits 16 generation
  String.ofList (List.replicate (32 - digits.length) '0' ++ digits)

/-- The name of the backing map of an index. The generation keeps an index that is created again
from finding the map of its predecessor. -/
def indexMapName (d : IndexDescriptor) (generation : Nat) : String :=
  "|".intercalate [indexMapMark, d.collection, d.fields.encoded, d.kind.render,
    generationText generation]

/-- The metadata of a new index. -/
def IndexMeta.new (d : IndexDescriptor) (generation : Nat) : IndexMeta :=
  ⟨d, indexMapName d generation, true⟩

end DocumentDb
