import DocumentDb.Index.Node
import DocumentDb.Query.Plan

/-!
# Scanning an index tree

A scan walks the tree level by level. A condition on the field of a level selects some of its keys;
once the conditions run out, every key is taken. The level of a field ascends or descends as the
scan order says, and each record id counts where it is met first.
-/

set_option autoImplicit false

namespace DocumentDb.Scan

open SortedEntries (follow)

/-- The key that the operand of a condition denotes. -/
def operandKey (field : String) (v : Value) : Result Key :=
  match Key.ofValue? v with
  | some k => .ok k
  | none => .error (.incomparableOperand v.typeName field)

/-- The keys that the operands of a condition denote. -/
def operandKeys (field : String) (vs : List Value) : Result (List Key) :=
  vs.mapM (operandKey field)

/-- Drops every key that is equal to the one before it. -/
def dropRepeats : List Key → List Key
  | [] => []
  | k :: rest =>
    match dropRepeats rest with
    | [] => [k]
    | k' :: rest' => if k.same k' then k :: rest' else k :: k' :: rest'

/-- The keys in ascending order, each one once. -/
def sortedKeys (ks : List Key) : List Key :=
  dropRepeats (ks.mergeSort fun a b => a.compare b != .gt)

/-- Which keys of a level a condition selects. -/
inductive Selection
  /-- Those of the given keys that the level has. -/
  | these (ks : List Key)
  /-- The keys of the bound's class on one side of the bound. -/
  | range (op : RangeOp) (bound : Key)
  /-- All keys but the given ones. -/
  | allBut (ks : List Key)

/-- The selection that a condition makes. Operands must be able to be keys. -/
def selection (c : Comparison) : Result Selection :=
  match c.condition with
  | .eq v => (operandKey c.field v).map fun k => .these [k]
  | .isIn vs => (operandKeys c.field vs).map fun ks => .these (sortedKeys ks)
  | .range op v => (operandKey c.field v).map (.range op)
  | .ne v => (operandKey c.field v).map fun k => .allBut [k]
  | .notIn vs => (operandKeys c.field vs).map .allBut
  | .text _ => .error (.textOnOrdered c.field)

/-! ### Walking a level -/

variable {V : Type}

/-- All keys of a level, from one end to the other. -/
def allKeys (reverse : Bool) (level : List (Key × V)) : List Key :=
  let step (start : Option Key) := (SortedEntries.next? reverse start level).map (·.1)
  follow (fun _ => true) (fun k => step (some k)) level.length (step none)

/-- The keys of the bound's class on one side of the bound, ascending. They are met from the bound
on. -/
def rangeKeys (op : RangeOp) (bound : Key) (level : List (Key × V)) : List Key :=
  let met (step : Key → List (Key × V) → Option (Key × V)) (start : Option (Key × V)) :=
    follow (fun k => k.keyClass == bound.keyClass) (fun k => (step k level).map (·.1)) level.length
      (start.map (·.1))
  match op with
  | .gt => met SortedEntries.above? (SortedEntries.above? bound level)
  | .gte => met SortedEntries.above? (SortedEntries.atOrAbove? bound level)
  | .lt => (met SortedEntries.below? (SortedEntries.below? bound level)).reverse
  | .lte => (met SortedEntries.below? (SortedEntries.atOrBelow? bound level)).reverse

/-- The keys of a level that a selection takes, in walking order. -/
def matchingKeys (reverse : Bool) (level : List (Key × V)) : Selection → List Key
  | .these ks => (if reverse then ks.reverse else ks).filter fun k => SortedEntries.contains k level
  | .range op bound =>
    let ks := rangeKeys op bound level
    if reverse then ks.reverse else ks
  | .allBut ks => (allKeys reverse level).filter fun k => !ks.any (·.same k)

/-- The entries of a level under some keys. -/
def entriesAt (level : List (Key × V)) (ks : List Key) : List (Key × V) :=
  ks.filterMap fun k => (SortedEntries.get? k level).map (k, ·)

/-- The entries of a level that a selection takes, in walking order. -/
def select (reverse : Bool) (level : List (Key × V)) (s : Selection) : List (Key × V) :=
  entriesAt level (matchingKeys reverse level s)

/-- The entries of a level that a condition takes, all of them without a condition. -/
def taken (reverse : Bool) (condition : Option Comparison) (level : List (Key × V)) :
    Result (List (Key × V)) :=
  match condition with
  | none => .ok (entriesAt level (allKeys reverse level))
  | some c => (selection c).map (select reverse level)

/-! ### Walking a tree -/

/-- The ids of several scans, one after the other. -/
def joined : List (Key × Result (List RecordId)) → Result (List RecordId)
  | [] => .ok []
  | (_, r) :: rest => r.bind fun ids => (joined rest).map (ids ++ ·)

mutual

/-- The ids that the conditions select below a node, with repetitions. `fields` are the fields of
the node's own level and of those below it. -/
def scanNode (order : ScanOrder) (fields : List String) (conditions : List Comparison) :
    Node → Result (List RecordId)
  | .terminal ids => .ok ids
  | .inner level =>
    (taken (fields.head?.any order.isReverse) conditions.head?
      (scanEntries order fields.tail conditions.tail level)).bind joined

/-- What the conditions select below each entry of a level. -/
def scanEntries (order : ScanOrder) (fields : List String) (conditions : List Comparison) :
    Level → List (Key × Result (List RecordId))
  | [] => []
  | (k, node) :: rest => (k, scanNode order fields conditions node) ::
      scanEntries order fields conditions rest

end

/-- The conditions must be about the leading fields of the index, in order. -/
def checkFields : (conditions : List Comparison) → (fields : List String) → Result Unit
  | c :: conditions, field :: fields =>
    if c.field = field then checkFields conditions fields else .error (.wrongLevel c.field field)
  | _, _ => .ok ()

/-- A scan takes at most one condition per field of the index. -/
def check (fields : List String) (conditions : List Comparison) : Result Unit :=
  if fields.length < conditions.length then
    .error (.tooManyConditions conditions.length fields.length)
  else checkFields conditions fields

/-- The ids that a scan of an index tree selects, each once, in the order of the walk. -/
def scan (order : ScanOrder) (fields : List String) (conditions : List Comparison) (root : Level) :
    Result RecordIdSet :=
  (check fields conditions).bind fun _ =>
    (scanNode order fields conditions (.inner root)).map (RecordIdSet.addAll [])

/-- Whether a scan looks at the tree at all. An empty list of wanted keys is answered without it. -/
def looksAtTree (conditions : List Comparison) : Result Bool :=
  match conditions with
  | [] => .ok true
  | c :: _ =>
    (selection c).map fun s =>
      match s with
      | .these ks => !ks.isEmpty
      | _ => true

end DocumentDb.Scan
