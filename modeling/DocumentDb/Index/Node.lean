import DocumentDb.Error
import DocumentDb.SortedEntries

/-!
# Index trees

The content of an ordered index is a tree of sorted levels. The level of the last field leads to
lists of record ids, the posting lists; every other level leads to the level of the next field. A
path through the tree is one key per field.
-/

set_option autoImplicit false

namespace DocumentDb

/-- What a key leads to: record ids, or the level of the next field. -/
inductive Node
  | terminal (ids : List RecordId)
  | inner (level : List (Key × Node))
deriving Inhabited

/-- A level of an index tree: keys in ascending order with what they lead to. -/
abbrev Level : Type := List (Key × Node)

/-- The level with the given entries. Of entries with one key the first gives the key and the last
the node. -/
def Level.ofEntries (entries : List (Key × Node)) : Level :=
  entries.foldl (fun level (k, n) => SortedEntries.insert k n level) []

/-- A list of record ids with one more id, unless it is there already. -/
def addId (id : RecordId) (ids : List RecordId) : List RecordId :=
  if id ∈ ids then ids else ids ++ [id]

/-- A list of record ids without an id. -/
def dropId (id : RecordId) (ids : List RecordId) : List RecordId := ids.filter (· ≠ id)

namespace Node

/-- An empty node for the end of the path `rest`. -/
def emptyFor (rest : List Key) : Node := if rest.isEmpty then .terminal [] else .inner []

/-- Whether a node leads to nothing. -/
def isEmpty : Node → Bool
  | .terminal ids => ids.isEmpty
  | .inner level => level.isEmpty

/-- The record ids at the end of a path. -/
def terminalAt? : (path : List Key) → Node → Option (List RecordId)
  | [], .terminal ids => some ids
  | k :: rest, .inner level => (SortedEntries.get? k level).bind (terminalAt? rest)
  | _, _ => none

/-- Adds an id at the end of a path, creating levels as needed. The path must be as long as the tree
is deep. -/
def insert (id : RecordId) : (path : List Key) → Node → Result Node
  | [], .terminal ids => .ok (.terminal (addId id ids))
  | k :: rest, .inner level =>
    (insert id rest ((SortedEntries.get? k level).getD (emptyFor rest))).map fun child =>
      .inner (SortedEntries.insert k child level)
  | _, _ => .error .wrongDepth

/-- Removes an id at the end of a path, and the levels that this leaves empty. -/
def erase (id : RecordId) : (path : List Key) → Node → Node
  | [], .terminal ids => .terminal (dropId id ids)
  | k :: rest, .inner level =>
    match SortedEntries.get? k level with
    | none => .inner level
    | some child =>
      let child' := erase id rest child
      .inner (if child'.isEmpty then SortedEntries.erase k level
        else SortedEntries.insert k child' level)
  | _, node => node

end Node

/-! ### Sets of record ids -/

/-- Record ids without repetition, in the order of their first occurrence. -/
abbrev RecordIdSet : Type := List RecordId

namespace RecordIdSet

/-- Adds ids in order; those already present stay where they are. -/
def addAll (set ids : List RecordId) : List RecordId := ids.foldl (fun set id => addId id set) set

end RecordIdSet

end DocumentDb
