import DocumentDb.Session

/-!
# Life of an index

An index is registered as dirty, built from all records, and clean once a build has come to its end.
Queries trust clean indexes only. A build holds the flag of its fields from before the start is
announced until just before the end is announced. While the flag is held, no other build of these
fields begins and the index is not dropped.
-/

set_option autoImplicit false

namespace DocumentDb.Indexing

open Session

variable {σ : Type}

/-! ### Handles -/

/-- The handle of a registered index. It is opened once and kept. -/
def handleOf (m : IndexMeta) : SessionM σ IndexHandle := do
  let c ← here
  match SortedEntries.get? m.mapName c.handles with
  | some h => return h
  | none =>
    let h ← onStore (IndexHandle.openMap m.descriptor m.mapName c.config.tokenizer)
    change fun c => { c with handles := SortedEntries.insert m.mapName h c.handles }
    return h

/-- The handle of the index on exactly the fields of a descriptor. -/
def handle (d : IndexDescriptor) : SessionM σ IndexHandle := do
  match ← onCatalog (Catalog.metaOf? d.fields) with
  | some m => handleOf m
  | none => throw (.notIndexed d.fields)

/-! ### Questions -/

/-- The descriptors of all indexes. -/
def list : SessionM σ (List IndexDescriptor) := onCatalog Catalog.descriptors

/-- The index on exactly these fields. -/
def find? (fields : FieldPath) : SessionM σ (Option IndexDescriptor) :=
  onCatalog (Catalog.descriptorOf? fields)

/-- Whether the fields of some index begin with the given ones. -/
def has (fields : FieldPath) : SessionM σ Bool := onCatalog (Catalog.has fields)

/-- Whether a build of exactly these fields is running. -/
def isBuilding (fields : FieldPath) : SessionM σ Bool := do
  return (← here).builds.isBuilding fields

/-- Whether there is an index on the fields and a build of them is running. -/
def isIndexing (fields : FieldPath) : SessionM σ Bool := do
  if ← has fields then isBuilding fields else return false

/-- Whether the index on the fields is dirty and no build of it is running. -/
def shouldRebuild (fields : FieldPath) : SessionM σ Bool := do
  if ← onCatalog (Catalog.isDirty fields) then return !(← isBuilding fields) else return false

/-! ### Building -/

/-- Takes the flag of the fields, unless it is held. -/
def tryBegin (fields : FieldPath) : SessionM σ (Option Guard) := do
  match (← here).builds.tryBegin fields with
  | none => return none
  | some (guard, builds) =>
    change fun c => { c with builds }
    return some guard

/-- The session after a guard has been released. -/
def released (guard : Guard) (s : Session σ) : Session σ :=
  { s with collection := { s.collection with builds := s.collection.builds.release guard } }

/-- Adds the entries of documents to an index, one after the other. -/
def writeAll (extract : Extractor) (h : IndexHandle) (fields : FieldPath) : List Document →
    StoreM Unit
  | [] => pure ()
  | d :: rest => do
    h.write (← Action.ofResult (extract d fields))
    writeAll extract h fields rest

/-- Fills an index from all records. The index is marked dirty first and clean in the end. -/
def fill (d : IndexDescriptor) (rebuild : Bool) : SessionM σ Unit := do
  onCatalog (Catalog.beginBuild d.fields)
  let h ← handle d
  if rebuild then onStore h.clear
  let c ← here
  let entries ← onStore c.records.entries
  onStore (writeAll c.config.extractor h d.fields (entries.map (·.2)))
  onCatalog (Catalog.endBuild d.fields)

/-- Builds an index whose flag is held, and announces the start and the end of the build. -/
def buildHolding (listener : Listener σ) (guard : Guard) (d : IndexDescriptor) (rebuild : Bool) :
    SessionM σ Unit := do
  publish listener (.buildStart d.fields)
  let result ← ((fill d rebuild).andAlways (released guard)).attempt
  publish listener (.buildEnd d.fields)
  Action.ofResult result

/-- Builds an index, unless a build of its fields is running. Answers whether it did. -/
def tryBuild (listener : Listener σ) (d : IndexDescriptor) (rebuild : Bool) : SessionM σ Bool := do
  match ← tryBegin d.fields with
  | none => return false
  | some guard =>
    buildHolding listener guard d rebuild
    return true

/-- Builds an index. A running build of its fields is an error. -/
def build (listener : Listener σ) (d : IndexDescriptor) (rebuild : Bool) : SessionM σ Unit := do
  if !(← tryBuild listener d rebuild) then throw (.buildRunning d.fields)

/-- Registers an index and builds it from the records that are there. -/
def create (listener : Listener σ) (fields : FieldPath) (kind : IndexKind) :
    SessionM σ IndexDescriptor := do
  match ← tryBegin fields with
  | none => throw (.buildRunning fields)
  | some guard =>
    match ← (onCatalog (Catalog.create fields kind)).attempt with
    | .error e =>
      modify (released guard)
      throw e
    | .ok m =>
      buildHolding listener guard m.descriptor false
      return m.descriptor

/-- Builds the index on exactly these fields anew. -/
def rebuild (listener : Listener σ) (fields : FieldPath) : SessionM σ Unit := do
  match ← find? fields with
  | none => throw (.notIndexed fields)
  | some d => build listener d true

/-! ### Dropping -/

/-- Drops the index on exactly these fields. -/
def drop (fields : FieldPath) : SessionM σ Unit := do
  if ← isBuilding fields then throw (.dropDuringBuild fields)
  let m ← onCatalog (Catalog.remove fields)
  change fun c =>
    { c with handles := SortedEntries.erase m.mapName c.handles, builds := c.builds.forget fields }

/-- Drops all indexes and opens a new catalog. -/
def dropAll : SessionM σ Unit := do
  if (← here).builds.anyBuilding then throw .dropAllDuringBuild
  let handles ← (← onCatalog Catalog.metas).mapM handleOf
  handles.forM fun h => onStore h.drop
  change fun c => { c with handles := [], builds := c.builds.forgetAll }
  onCatalog Catalog.dropMap
  let catalog ← onStore (Catalog.openMap (← here).name)
  change fun c => { c with catalog }

end DocumentDb.Indexing
