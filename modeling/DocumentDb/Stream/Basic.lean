import DocumentDb.Query.Filter
import DocumentDb.Query.Plan
import DocumentDb.Store

/-!
# Record streams

A stream yields records one at a time from a store that may change between two pulls.
`RecordStream.run` gives what a stream yields on a store that does not change, together with the
stream as it is after each item; `RecordStream.pull` takes the first of these. A stream that has
come to its end stays there.

Sources are literal items, walks through all records, and lookups of ids. Unions, filters, sorts and
bounds are built on top of them.
-/

set_option autoImplicit false

namespace DocumentDb

/-- A record with its id. -/
abbrev Entry : Type := RecordId × Document

/-- A stream of records, as far as it has been pulled. -/
inductive RecordStream
  /-- Items given in advance, errors among them. -/
  | items (left : List (Result Entry))
  /-- All records, in the order of their ids. -/
  | walk (w : Walk RecordId)
  /-- The records with the given ids, in this order. Ids without a record are passed over. -/
  | lookup (records : MapRef RecordId) (left : List RecordId)
  /-- One stream after the other. An error ends all of them. -/
  | union (branches : List RecordStream)
  /-- Each record where it occurs first. -/
  | distinct (seen : List RecordId) (inner : RecordStream)
  /-- The records that pass a filter. -/
  | filtered (inner : RecordStream) (f : Filter)
  /-- All records in the order of sort keys, before any has been pulled. -/
  | sorted (inner : RecordStream) (keys : SortKeys) (collation : Text.Collation)
  /-- At most `limit` records after the first `skip`. -/
  | bounded (skip : Nat) (limit : Option Nat) (inner : RecordStream)
deriving Inhabited

namespace RecordStream

/-- What a stream yields, with the stream as it is after each item. -/
abbrev Run : Type := List (Result Entry × RecordStream)

/-- The stream that yields nothing more. -/
def ended : RecordStream := .items []

/-! ### Sources -/

/-- The run of items that are there already. -/
def runItems : List (Result Entry) → Run
  | [] => []
  | item :: rest => (item, .items rest) :: runItems rest

/-- The run of a walk through a map. -/
def runWalk (w : Walk RecordId) (s : Store) : Run :=
  (w.run s).map fun (item, w') => (item, .walk w')

/-- The run of a lookup of ids, which leaves out those without a record. -/
def runLookup (records : MapRef RecordId) (s : Store) : List RecordId → Run
  | [] => []
  | id :: rest =>
    match (s.map records).read with
    | .error e => [(.error e, ended)]
    | .ok es =>
      match SortedEntries.get? id es with
      | some d => (.ok (id, d), .lookup records rest) :: runLookup records s rest
      | none => runLookup records s rest

/-! ### Stages -/

/-- The items of a branch, followed by those of the `later` branches unless there is an error. -/
def runBranch (later : List RecordStream) (next : Run) : Run → Run
  | [] => next
  | (.error e, _) :: _ => [(.error e, ended)]
  | (.ok entry, branch) :: rest =>
    (.ok entry, .union (branch :: later)) :: runBranch later next rest

/-- The run without the records whose ids have been handed out before. -/
def runDistinct (seen : List RecordId) : Run → Run
  | [] => []
  | (.error e, inner) :: rest => (.error e, .distinct seen inner) :: runDistinct seen rest
  | (.ok entry, inner) :: rest =>
    if seen.contains entry.1 then runDistinct seen rest
    else
      (.ok entry, .distinct (entry.1 :: seen) inner) :: runDistinct (entry.1 :: seen) rest

/-- The run of the records that pass a filter. It ends with an error, of the filter or before it. -/
def runFiltered (f : Filter) : Run → Run
  | [] => []
  | (.error e, _) :: _ => [(.error e, ended)]
  | (.ok entry, inner) :: rest =>
    match f.apply entry.2 with
    | .error e => [(.error e, ended)]
    | .ok true => (.ok entry, .filtered inner f) :: runFiltered f rest
    | .ok false => runFiltered f rest

/-- The run without the records to skip, and no longer than the limit. -/
def runBounded : (skip : Nat) → (limit : Option Nat) → Run → Run
  | _, some 0, _ => []
  | _, _, [] => []
  | skip + 1, limit, (.ok _, _) :: rest => runBounded skip limit rest
  | skip + 1, limit, (.error e, inner) :: rest =>
    (.error e, .bounded skip limit inner) :: runBounded skip limit rest
  | 0, limit, (item, inner) :: rest =>
    (item, .bounded 0 (limit.map (· - 1)) inner) :: runBounded 0 (limit.map (· - 1)) rest

/-! ### Sorting -/

/-- The value of a record under a sort key. Arrays and documents have no place in an order. -/
def sortValue (d : Document) (field : String) : Result Value :=
  let v := d.valueAt field
  if v.isArray || v.isDocument then .error (.unsortable v.typeName field) else .ok v

/-- The values of an item under all sort keys. -/
def sortRow (keys : SortKeys) (item : Result Entry) : Result (List Value × Entry) :=
  item.bind fun entry =>
    (keys.mapM fun key => sortValue entry.2 key.1).map fun values => (values, entry)

/-- The order of two values in a sort: null first, texts by the collation, and unlike classes by
class. -/
def compareSortValues (collation : Text.Collation) : Value → Value → Ordering
  | .null, .null => .eq
  | .null, _ => .lt
  | _, .null => .gt
  | .string a, .string b => collation.compare a b
  | a, b => (Value.compareScalars a b).getD (compare a.keyClass b.keyClass)

/-- The order of two rows of values, by the first key under which they differ. -/
def compareRows (collation : Text.Collation) : SortKeys → List Value → List Value → Ordering
  | (_, direction) :: keys, a :: as, b :: bs =>
    let o := compareSortValues collation a b
    (if direction.isDescending then o.swap else o).then (compareRows collation keys as bs)
  | _, _, _ => .eq

/-- The rows in order. Rows that compare equal keep their order. -/
def sortRows (collation : Text.Collation) (keys : SortKeys) (rows : List (List Value × Entry)) :
    List Entry :=
  (rows.mergeSort fun a b => compareRows collation keys a.1 b.1 != .gt).map (·.2)

/-- The items of a sorted stream. The first error among the items, or the first value that cannot be
sorted, is all that is yielded. -/
def runSorted (keys : SortKeys) (collation : Text.Collation) (inner : Run) : Run :=
  match inner.mapM fun step => sortRow keys step.1 with
  | .error e => [(.error e, ended)]
  | .ok rows => runItems ((sortRows collation keys rows).map .ok)

/-! ### Pulling -/

mutual

/-- What a stream yields on a store that does not change. -/
def run (s : Store) : RecordStream → Run
  | .items left => runItems left
  | .walk w => runWalk w s
  | .lookup records left => runLookup records s left
  | .union branches => runAll s branches
  | .distinct seen inner => runDistinct seen (run s inner)
  | .filtered inner f => runFiltered f (run s inner)
  | .sorted inner keys collation => runSorted keys collation (run s inner)
  | .bounded skip limit inner => runBounded skip limit (run s inner)

/-- The runs of branches, one after the other. -/
def runAll (s : Store) : List RecordStream → Run
  | [] => []
  | branch :: later => runBranch later (runAll s later) (run s branch)

end

/-- The next item, and the stream after it. -/
def pull (s : Store) (stream : RecordStream) : Option (Result Entry) × RecordStream :=
  match run s stream with
  | [] => (none, ended)
  | (item, stream') :: _ => (some item, stream')

/-- All that a stream yields on a store that does not change. -/
def drain (s : Store) (stream : RecordStream) : List (Result Entry) := (run s stream).map (·.1)

end RecordStream

end DocumentDb
