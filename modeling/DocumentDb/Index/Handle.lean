import DocumentDb.Index.FullText
import DocumentDb.Index.Ordered

/-!
# Handles of indexes

A handle ties a descriptor to the backing map of its index. It is the one place where ordered and
full-text indexes meet: writing and removing the entries of a record, clearing, dropping and
scanning.
-/

set_option autoImplicit false

namespace DocumentDb

/-- The backing map of an index. -/
inductive Backing
  | ordered (map : MapRef Key)
  | fullText (map : MapRef String) (tokenizer : Text.Tokenizer)

/-- An index with its backing map opened. -/
structure IndexHandle where
  descriptor : IndexDescriptor
  mapName : String
  backing : Backing

namespace IndexHandle

/-- Opens the backing map of an index, and creates it if it is not there. -/
def openMap (d : IndexDescriptor) (mapName : String) (tokenizer : Text.Tokenizer) :
    StoreM IndexHandle := do
  if d.isFullText then return ⟨d, mapName, .fullText (← Store.openMap String mapName) tokenizer⟩
  else return ⟨d, mapName, .ordered (← Store.openMap Key mapName)⟩

/-- Adds the entries of a record. -/
def write (h : IndexHandle) (vs : FieldValues) : StoreM Unit :=
  match h.backing with
  | .ordered map => OrderedIndex.write h.descriptor map vs
  | .fullText map tokenizer => FullText.write tokenizer h.descriptor map vs

/-- Removes the entries of a record. -/
def erase (h : IndexHandle) (vs : FieldValues) : StoreM Unit :=
  match h.backing with
  | .ordered map => OrderedIndex.erase h.descriptor map vs
  | .fullText map tokenizer => FullText.erase tokenizer h.descriptor map vs

/-- Removes every entry. The index stays usable. -/
def clear (h : IndexHandle) : StoreM Unit :=
  match h.backing with
  | .ordered map => map.clear
  | .fullText map _ => map.clear

/-- Drops the backing map. -/
def drop (h : IndexHandle) : StoreM Unit := Store.dropNamed h.mapName

/-- The ids that the conditions select, each once, in the order of the walk. -/
def scan (h : IndexHandle) (order : ScanOrder) (conditions : List Comparison) :
    StoreM RecordIdSet :=
  match h.backing with
  | .ordered map => OrderedIndex.scan h.descriptor map order conditions
  | .fullText map tokenizer => FullText.scan tokenizer map conditions

end IndexHandle

end DocumentDb
