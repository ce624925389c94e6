import DocumentDb.Index.Lifecycle

/-!
# Index entries of documents

When a document is written, its entries are written to every index in the order of the catalog. If
one index refuses, the entries already written to the others are removed again. An index that is
being built takes entries directly, as the build may have passed the record already. A dirty index
at rest is rebuilt from the records, or passed by if the configuration says so.
-/

set_option autoImplicit false

namespace DocumentDb.Indexing

open Session

variable {σ : Type}

/-- The values of an index's fields in a document. -/
def valuesOf (d : Document) (fields : FieldPath) : SessionM σ FieldValues := do
  Action.ofResult ((← here).config.extractor d fields)

/-- Settles a dirty index at rest ahead of a write. Answers whether the write needs to do nothing
more: the index was rebuilt, or it stays dirty. Otherwise another build has begun. -/
def settle (listener : Listener σ) (d : IndexDescriptor) : SessionM σ Bool := do
  if (← here).config.rebuildDirtyOnWrite then tryBuild listener d true else return true

/-! ### Writing -/

/-- Adds the entries of a document to one index, and gives its handle. -/
def writeEntry (doc : Document) (d : IndexDescriptor) : SessionM σ IndexHandle := do
  let h ← handle d
  onStore (h.write (← valuesOf doc d.fields))
  return h

/-- Brings one index up to a new document, and gives its handle if it has the entries of the
document now. The document is among the records already, so a rebuild picks it up. -/
def bringUp (listener : Listener σ) (doc : Document) (d : IndexDescriptor) (dirty : Bool) :
    SessionM σ (Option IndexHandle) := do
  if dirty then
    if ← settle listener d then
      if (← here).config.rebuildDirtyOnWrite then return some (← handle d) else return none
    else return some (← writeEntry doc d)
  else return some (← writeEntry doc d)

/-- Removes the entries of a document from the indexes that have them. What goes wrong is passed
over. -/
def rollBack (doc : Document) : List (IndexHandle × FieldPath) → SessionM σ Unit
  | [] => pure ()
  | (h, fields) :: rest => do
    let _ ← Action.attempt (do onStore (h.erase (← valuesOf doc fields)))
    rollBack doc rest

/-- Adds the entries of a document to indexes in turn. `written` are the indexes that have them
already. -/
def writeEach (listener : Listener σ) (doc : Document) :
    List IndexDescriptor → (written : List (IndexHandle × FieldPath)) → SessionM σ Unit
  | [], _ => pure ()
  | d :: rest, written => do
    let dirty ← shouldRebuild d.fields
    match ← (bringUp listener doc d dirty).attempt with
    | .error e =>
      rollBack doc written
      throw e
    | .ok h => writeEach listener doc rest (written ++ h.toList.map fun h => (h, d.fields))

/-- Adds the entries of a stored document to every index, or to none. -/
def writeEntries (listener : Listener σ) (doc : Document) : SessionM σ Unit := do
  writeEach listener doc (← list) []

/-! ### Removing -/

/-- Removes the entries of a document from indexes in turn. -/
def removeEach (listener : Listener σ) (doc : Document) : List IndexDescriptor → SessionM σ Unit
  | [] => pure ()
  | d :: rest => do
    let dirty ← shouldRebuild d.fields
    let settled ← if dirty then settle listener d else pure false
    if !settled then
      let vs ← valuesOf doc d.fields
      let h ← handle d
      onStore (h.erase vs)
    removeEach listener doc rest

/-- Removes the entries of a document from every index. The records must not hold this version of
the document any more, so that a rebuild does not index it again. -/
def removeEntries (listener : Listener σ) (doc : Document) : SessionM σ Unit := do
  removeEach listener doc (← list)

/-! ### Replacing -/

/-- Replaces the entries of a document by those of its new version. If the new ones are refused, the
old ones are written again. -/
def updateEntries (listener : Listener σ) (old new : Document) : SessionM σ Unit := do
  removeEntries listener old
  match ← (writeEntries listener new).attempt with
  | .ok _ => pure ()
  | .error e =>
    let _ ← (writeEntries listener old).attempt
    throw e

end DocumentDb.Indexing
