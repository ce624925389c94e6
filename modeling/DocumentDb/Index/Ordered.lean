import DocumentDb.Index.FanOut
import DocumentDb.Index.Scan
import DocumentDb.Store

/-!
# Ordered indexes

An ordered index maps each key of its first field to record ids, or, when it covers several fields,
to the tree of the levels below. A unique index takes an id only under paths that no other id holds,
and looks at all of them before it changes anything.
-/

set_option autoImplicit false

namespace DocumentDb

/-! ### One field -/

namespace SingleField

/-- The ids under a key. A nested level under it is an error. -/
def idsAt (d : IndexDescriptor) (level : Level) (k : Key) : Result (List RecordId) :=
  match SortedEntries.get? k level with
  | none => .ok []
  | some (.terminal ids) => .ok ids
  | some (.inner _) => .error (.nestedEntry d)

/-- None of the keys may lead to another id. -/
def checkUnique (d : IndexDescriptor) (id : RecordId) (level : Level) : List Key → Result Unit
  | [] => .ok ()
  | k :: rest =>
    (idsAt d level k).bind fun ids =>
      if !ids.isEmpty && !ids.contains id then .error (.duplicateKey k d.fields.first)
      else checkUnique d id level rest

/-- Adds an id under every key. -/
def addKeys (d : IndexDescriptor) (id : RecordId) : List Key → Action Level Unit
  | [] => pure ()
  | k :: rest => do
    let ids ← Action.ofResult (idsAt d (← get) k)
    if !ids.contains id then modify (SortedEntries.insert k (.terminal (ids ++ [id])))
    addKeys d id rest

/-- Removes an id under every key, and the keys that this leaves without ids. -/
def dropKeys (d : IndexDescriptor) (id : RecordId) : List Key → Action Level Unit
  | [] => pure ()
  | k :: rest => do
    let ids ← Action.ofResult (idsAt d (← get) k)
    let left := dropId id ids
    if left.isEmpty then modify (SortedEntries.erase k)
    else if left ≠ ids then modify (SortedEntries.insert k (.terminal left))
    dropKeys d id rest

/-- Adds an id under its keys; a unique index checks them first. -/
def write (d : IndexDescriptor) (id : RecordId) (keys : List Key) : Action Level Unit := do
  if d.isUnique then Action.ofResult (checkUnique d id (← get) keys)
  addKeys d id keys

end SingleField

/-! ### Several fields -/

namespace Compound

/-- The path below none of the keys may lead to another id. -/
def checkUnique (d : IndexDescriptor) (id : RecordId) (path : List Key) (level : Level) :
    List Key → Result Unit
  | [] => .ok ()
  | k :: rest =>
    let ids := ((SortedEntries.get? k level).bind (Node.terminalAt? path)).getD []
    if !ids.isEmpty && !ids.contains id then .error (.duplicatePath k d.fields)
    else checkUnique d id path level rest

/-- Adds an id at the end of the path below every key. -/
def addKeys (id : RecordId) (path : List Key) : List Key → Action Level Unit
  | [] => pure ()
  | k :: rest => do
    let node ← Action.ofResult
      (((SortedEntries.get? k (← get)).getD (.inner [])).insert id path)
    modify (SortedEntries.insert k node)
    addKeys id path rest

/-- Removes an id at the end of the path below every key, and what this leaves empty. -/
def dropKeys (id : RecordId) (path : List Key) : List Key → Action Level Unit
  | [] => pure ()
  | k :: rest => do
    match SortedEntries.get? k (← get) with
    | none => pure ()
    | some node =>
      let node := node.erase id path
      if node.isEmpty then modify (SortedEntries.erase k)
      else modify (SortedEntries.insert k node)
    dropKeys id path rest

/-- Adds an id under its paths; a unique index checks them first. -/
def write (d : IndexDescriptor) (id : RecordId) (keys path : List Key) : Action Level Unit := do
  if d.isUnique then Action.ofResult (checkUnique d id path (← get) keys)
  addKeys id path keys

end Compound

/-! ### Both -/

namespace OrderedIndex

/-- What writing a record does to the tree. -/
def writeKeys (d : IndexDescriptor) (id : RecordId) (keys path : List Key) : Action Level Unit :=
  if d.isCompound then Compound.write d id keys path else SingleField.write d id keys

/-- What removing a record does to the tree. -/
def eraseKeys (d : IndexDescriptor) (id : RecordId) (keys path : List Key) : Action Level Unit :=
  if d.isCompound then Compound.dropKeys id path keys else SingleField.dropKeys d id keys

/-- The keys of a record and the path below each of them. -/
def paths (d : IndexDescriptor) (vs : FieldValues) : Result (List Key × List Key) :=
  if d.isCompound then FanOut.keyPaths d.fields vs
  else (FanOut.firstKeys d.fields.first vs.firstValue).map fun ks => (ks, [])

/-- Adds the entries of a record. A record without keys leaves the map alone. -/
def write (d : IndexDescriptor) (map : MapRef Key) (vs : FieldValues) : StoreM Unit := do
  let (keys, path) ← Action.ofResult (paths d vs)
  if !keys.isEmpty then map.onEntries (writeKeys d vs.id keys path)

/-- Removes the entries of a record. -/
def erase (d : IndexDescriptor) (map : MapRef Key) (vs : FieldValues) : StoreM Unit := do
  let (keys, path) ← Action.ofResult (paths d vs)
  if !keys.isEmpty then map.onEntries (eraseKeys d vs.id keys path)

/-- The ids that the conditions select. -/
def scan (d : IndexDescriptor) (map : MapRef Key) (order : ScanOrder)
    (conditions : List Comparison) : StoreM RecordIdSet := do
  Action.ofResult (Scan.check d.fields.fields conditions)
  if ← Action.ofResult (Scan.looksAtTree conditions) then
    Action.ofResult (Scan.scan order d.fields.fields conditions (← map.entries))
  else return []

end OrderedIndex

end DocumentDb
