import DocumentDb.Query.Planning
import DocumentDb.Stream.Basic

/-!
# The stream of a plan

A plan is carried out by a stream: its source, then the residual filter, the sort, and the bounds.
Indexes are scanned when the stream is made; records are read when it is pulled.
-/

set_option autoImplicit false

namespace DocumentDb

/-- The record id that a value names in an equality on the record id. A value that names none
selects nothing. -/
def RecordId.ofValue? : Value → Option RecordId
  | .string text => RecordId.read? text
  | .int n => if 0 ≤ n.toInt then some ⟨n.toUInt64⟩ else none
  | _ => none

namespace RecordStream

open Session

variable {σ : Type}

/-- A bound as a count. Negative bounds are refused. -/
def bound (name : String) : Option Int → Result (Option Nat)
  | none => .ok none
  | some n => if n < 0 then .error (.negativeBound name n) else .ok (some n.toNat)

/-- The stream with bounds. -/
def between (skip limit : Option Int) (inner : RecordStream) : Result RecordStream :=
  (bound "skip" skip).bind fun skip =>
    (bound "limit" limit).map fun limit => .bounded (skip.getD 0) limit inner

/-- The stream through the residual filter, if there is one. -/
def sifted (residual : Option Filter) (inner : RecordStream) : RecordStream :=
  match residual with
  | some f => .filtered inner f
  | none => inner

/-- The stream in the order of sort keys, if there are any. -/
def inOrder (keys : SortKeys) (collation : Option Text.Collation) (inner : RecordStream) :
    RecordStream :=
  if keys.isEmpty then inner else .sorted inner keys (collation.getD .binary)

/-- The stages that a plan puts on its source. -/
def staged (residual : Option Filter) (keys : SortKeys) (collation : Option Text.Collation)
    (skip limit : Option Int) (source : RecordStream) : Result RecordStream :=
  let stream := inOrder keys collation (sifted residual source)
  if skip.isSome || limit.isSome then between skip limit stream else .ok stream

mutual

/-- The stream that carries out a plan. -/
def ofPlan : Plan → SessionM σ RecordStream
  | { source, scanOrder, residual, sort, collation, skip, limit } => do
    let stream ← ofSource scanOrder source
    Action.ofResult (staged residual sort collation skip limit stream)

/-- The stream of the records of a source. -/
def ofSource (scanOrder : ScanOrder) : Source Plan → SessionM σ RecordStream
  | .collection => do return .walk (Walk.start (← here).records false)
  | .byId v => do return .lookup (← here).records (RecordId.ofValue? v).toList
  | .index d conditions => do
    let ids ← Indexing.scan d scanOrder conditions
    return .lookup (← here).records ids
  | .union branches => do return .distinct [] (.union (← ofAll branches))

/-- The streams of several plans. -/
def ofAll : List Plan → SessionM σ (List RecordStream)
  | [] => return []
  | p :: rest => do
    let stream ← ofPlan p
    return stream :: (← ofAll rest)

end

end RecordStream

end DocumentDb
