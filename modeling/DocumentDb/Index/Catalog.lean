import DocumentDb.Store

/-!
# The catalog of a collection

The catalog records which indexes a collection has. It keeps their metadata in a map of the store
and the list of their descriptors in a cache, which every change through this catalog empties.
Another catalog of the same collection shares the map but not the cache.
-/

set_option autoImplicit false

namespace DocumentDb

/-- The indexes of a collection. -/
structure Catalog where
  collection : String
  metaMap : MapRef FieldPath
  cache : Option (List IndexDescriptor)
deriving Inhabited

/-- Actions on a store and a catalog in it. -/
abbrev CatalogM (α : Type) : Type := Action (Store × Catalog) α

namespace Catalog

/-- Opens the catalog of a collection. -/
def openMap (collection : String) : StoreM Catalog := do
  return ⟨collection, ← Store.openMap FieldPath (metaMapName collection), none⟩

/-- Runs an action on the store. -/
def onStore {α : Type} (x : StoreM α) : CatalogM α := x.within (·.1) fun p s => (s, p.2)

/-- Runs an action on the map of metadata. -/
def onMap {α : Type} (f : MapRef FieldPath → StoreM α) : CatalogM α := do
  let (_, c) ← get
  onStore (f c.metaMap)

def setCache (cache : Option (List IndexDescriptor)) : CatalogM Unit :=
  modify fun (s, c) => (s, { c with cache })

/-! ### Reading -/

/-- The metadata of all indexes, in the order of their fields. -/
def metas : CatalogM (List IndexMeta) := do
  return (← onMap (·.entries)).map (·.2)

/-- The metadata of the index on exactly these fields. -/
def metaOf? (fields : FieldPath) : CatalogM (Option IndexMeta) := onMap (·.get? fields)

/-- The descriptors of all indexes, in the order of their fields. -/
def descriptors : CatalogM (List IndexDescriptor) := do
  let (_, c) ← get
  match c.cache with
  | some ds => return ds
  | none =>
    let ds := (← metas).map (·.descriptor)
    setCache (some ds)
    return ds

/-- The descriptor of the index on exactly these fields. -/
def descriptorOf? (fields : FieldPath) : CatalogM (Option IndexDescriptor) := do
  return (← metaOf? fields).map (·.descriptor)

/-- The descriptors of the indexes whose fields begin with the given ones. -/
def matching (fields : FieldPath) : CatalogM (List IndexDescriptor) := do
  return (← descriptors).filter (·.fields.startsWith fields)

/-- Whether the fields of some index begin with the given ones. -/
def has (fields : FieldPath) : CatalogM Bool := do
  return !(← matching fields).isEmpty

/-- Whether the index on exactly these fields is dirty. -/
def isDirty (fields : FieldPath) : CatalogM Bool := do
  return (← metaOf? fields).any (·.dirty)

/-! ### Changes -/

/-- Registers an index. It starts out dirty. -/
def create (fields : FieldPath) (kind : IndexKind) : CatalogM IndexMeta := do
  if kind == .fullText && fields.isCompound then throw (.fullTextCompound fields)
  if ← onMap (·.contains fields) then throw (.alreadyIndexed fields)
  let (_, c) ← get
  let m := IndexMeta.new ⟨kind, fields, c.collection⟩ (← onStore Store.newGeneration)
  onMap (·.put fields m)
  setCache none
  return m

/-- Removes an index and drops its backing map. -/
def remove (fields : FieldPath) : CatalogM IndexMeta := do
  match ← metaOf? fields with
  | none => throw (.notIndexed fields)
  | some m =>
    onStore (Store.dropNamed m.mapName)
    let _ ← onMap (·.erase fields)
    setCache none
    return m

/-- Marks an index, if there is one on exactly these fields, as dirty or clean. -/
def setDirty (fields : FieldPath) (dirty : Bool) : CatalogM Unit := do
  match ← metaOf? fields with
  | some m => onMap (·.put fields { m with dirty })
  | none => pure ()
  setCache none

/-- Marks the beginning of a build: the index is dirty. -/
def beginBuild (fields : FieldPath) : CatalogM Unit := setDirty fields true

/-- Marks the end of a build: the index is clean. -/
def endBuild (fields : FieldPath) : CatalogM Unit := setDirty fields false

/-- Drops the map of metadata. The catalog cannot be used afterwards. -/
def dropMap : CatalogM Unit := do
  onMap (·.clear)
  let (_, c) ← get
  onStore (Store.dropNamed (metaMapName c.collection))
  setCache none

end Catalog

end DocumentDb
