import DocumentDb.Index.Upkeep
import DocumentDb.Query.Optimizer
import DocumentDb.Stream.Cursor
import DocumentDb.Stream.OfPlan
import DocumentDb.Text.Blank

/-!
# Collections

The operations of a collection: writing and reading documents, queries, and the life of its indexes.
A record is stored before its index entries are written, and it leaves the records before its
entries are removed. When an index refuses a document, the record is put back as it was.
-/

set_option autoImplicit false

namespace DocumentDb

/-- A generator for a node. -/
def IdGenerator.ofNode (node : Nat) : Result IdGenerator :=
  if RecordId.maxNode.toNat < node then .error (.nodeTooLarge node)
  else .ok (.start (UInt64.ofNat node))

namespace Collection

open Session

variable {σ : Type}

/-- Whether a text can be the name of a collection: it is not blank, and it does not begin like the
names of backing maps. -/
def isName (name : String) : Bool := !Text.allBlank name.toList && name.toList.head? != some '$'

/-- Opens a collection, and creates its maps if they are not there. A node that the configuration
leaves open is the first one. -/
def openOn (name : String) (config : Config) : StoreM Collection := do
  if !isName name then throw (.badCollectionName name)
  let records ← Store.openMap RecordId name
  let catalog ← Catalog.openMap name
  let generator ← Action.ofResult (IdGenerator.ofNode (config.nodeId.getD 0))
  return { name, config, records, catalog, generator }

/-- Every operation but a question for the name is refused once the collection has been dropped. -/
def checkOpen : SessionM σ Unit := do
  let c ← here
  if c.dropped then throw (.collectionDropped c.name)

/-! ### Writing -/

/-- A new record id, at the next reading of the clock. -/
def newId : SessionM σ RecordId := modifyGet fun s =>
  let clock := s.clock + 1
  let (id, generator) := s.collection.generator.issue clock
  (id, { s with clock, collection := { s.collection with generator } })

/-- A document with the id that it names, or with a new one if it names none. -/
def withId (d : Document) : SessionM σ (RecordId × Document) := do
  match ← Action.ofResult d.id with
  | some id => return (id, d)
  | none =>
    let id ← newId
    return (id, d.setId id)

/-- Stores a new document and gives its id. Nothing is stored if an index refuses it. -/
def insert (listener : Listener σ) (d : Document) : SessionM σ RecordId := do
  checkOpen
  let c ← here
  let (id, d) ← withId (← Action.ofResult (Processor.writeAll c.processors d))
  if ← onStore (c.records.contains id) then throw (.recordExists id c.name)
  onStore (c.records.put id d)
  match ← (Indexing.writeEntries listener d).attempt with
  | .ok _ => return id
  | .error e =>
    let _ ← onStore (c.records.erase id)
    throw e

/-- Stores documents in turn. The ones before the first that is refused stay. -/
def insertMany (listener : Listener σ) : List Document → SessionM σ (List RecordId)
  | [] => return []
  | d :: rest => do
    let id ← insert listener d
    return id :: (← insertMany listener rest)

/-- Replaces a record. The old version stays if an index refuses the new one. -/
def update (listener : Listener σ) (id : RecordId) (d : Document) : SessionM σ Unit := do
  checkOpen
  let c ← here
  match ← onStore (c.records.get? id) with
  | none => throw (.noRecord id c.name)
  | some old =>
    let new := (← Action.ofResult (Processor.writeAll c.processors d)).setId id
    onStore (c.records.put id new)
    match ← (Indexing.updateEntries listener old new).attempt with
    | .ok _ => pure ()
    | .error e =>
      onStore (c.records.put id old)
      throw e

/-- Removes a record and gives the document, if there was one. -/
def remove (listener : Listener σ) (id : RecordId) : SessionM σ (Option Document) := do
  checkOpen
  let c ← here
  match ← onStore (c.records.erase id) with
  | none => return none
  | some old =>
    match ← (Indexing.removeEntries listener old).attempt with
    | .error e =>
      onStore (c.records.put id old)
      throw e
    | .ok _ => return some (← Action.ofResult (Processor.readAll (← here).processors old))

/-! ### Reading -/

/-- The document of a record. -/
def get? (id : RecordId) : SessionM σ (Option Document) := do
  checkOpen
  let c ← here
  match ← onStore (c.records.get? id) with
  | none => return none
  | some d => return some (← Action.ofResult (Processor.readAll c.processors d))

/-- The number of records. -/
def size : SessionM σ Nat := do
  checkOpen
  onStore (← here).records.size

/-- The plan of a query. Dirty indexes that it scans are rebuilt first. -/
def explain (listener : Listener σ) (f : Filter) (options : FindOptions) : SessionM σ Plan := do
  checkOpen
  let collation := (← here).config.collation
  Indexing.plan listener fun ds => Action.ofResult (Plan.optimize collation f options ds)

/-- Runs a query. What goes wrong with a single record shows when the cursor reaches it. -/
def find (listener : Listener σ) (f : Filter) (options : FindOptions) : SessionM σ Cursor := do
  let plan ← explain listener f options
  let stream ← RecordStream.ofPlan plan
  return ⟨stream, (← here).processors⟩

/-- Removes records in turn and counts those that were there. -/
def removeEach (listener : Listener σ) : List RecordId → SessionM σ Nat
  | [] => return 0
  | id :: rest => do
    let found ← remove listener id
    let count ← removeEach listener rest
    return if found.isSome then count + 1 else count

/-- Removes all records that pass a filter and counts them. -/
def removeWhere (listener : Listener σ) (f : Filter) : SessionM σ Nat := do
  let plan ← explain listener f {}
  let stream ← RecordStream.ofPlan plan
  let entries ← Action.ofResult ((stream.drain (← get).store).mapM id)
  removeEach listener (entries.map (·.1))

/-! ### Indexes -/

/-- Creates an index and fills it. -/
def createIndex (listener : Listener σ) (fields : FieldPath) (kind : IndexKind) :
    SessionM σ IndexDescriptor := do
  checkOpen
  Indexing.create listener fields kind

/-- Drops the index on some fields. -/
def dropIndex (fields : FieldPath) : SessionM σ Unit := do
  checkOpen
  Indexing.drop fields

/-- Drops all indexes, unless one of them is being built. -/
def dropAllIndexes : SessionM σ Unit := do
  checkOpen
  Indexing.dropAll

/-- Builds an index anew from all records. -/
def rebuildIndex (listener : Listener σ) (fields : FieldPath) : SessionM σ Unit := do
  checkOpen
  Indexing.rebuild listener fields

/-- The descriptors of the indexes there are. -/
def indexes : SessionM σ (List IndexDescriptor) := do
  checkOpen
  Indexing.list

/-- Whether the fields of some index begin with the given ones. -/
def hasIndex (fields : FieldPath) : SessionM σ Bool := do
  checkOpen
  Indexing.has fields

/-- Whether there is an index on the fields and a build of them is running. -/
def isIndexing (fields : FieldPath) : SessionM σ Bool := do
  checkOpen
  Indexing.isIndexing fields

/-! ### The collection as a whole -/

/-- Adds a processor after the ones that are there. -/
def addProcessor (p : Processor) : SessionM σ Unit :=
  change fun c => { c with processors := c.processors ++ [p] }

/-- Drops all indexes and the records. The collection cannot be used afterwards. -/
def drop : SessionM σ Unit := do
  checkOpen
  Indexing.dropAll
  let c ← here
  let _ ← (onStore c.records.clear).attempt
  onStore (Store.dropNamed c.name)
  change fun c => { c with dropped := true }

end Collection

end DocumentDb
