import DocumentDb.Notation.Value
import DocumentDb.Pattern
import DocumentDb.Query.Plan
import DocumentDb.Query.TextQuery

/-!
# Queries in JSON

A condition on a field names the field under `f` and has its operand under the name of the operator.
The other filters are objects with one member: `and` and `or` flatten what they are given, `And` and
`Or` keep it. A plan is written as a description for a reader: nothing reads it back.
-/

set_option autoImplicit false

namespace DocumentDb.Notation

open Json (asText asBool asInt asMembers unexpected expect listOf pairOf required optional defaulted
    ofOption ofList
  ofTexts)

/-! ### Paths and indexes -/

/-- A path: the name of one field as it stands, or an array of names, which is checked. -/
def readPath : Json → Result FieldPath
  | .string name => .ok (.single name)
  | j => do FieldPath.parse (← listOf asText j)

def readKind (j : Json) : Result IndexKind := do
  let name ← asText j
  expect ([IndexKind.unique, .nonUnique, .fullText].find? (·.render == name))

def ofDescriptor (d : IndexDescriptor) : Json := .string d.render

/-! ### Filters -/

/-- The filter with an operator and its operand. -/
def readCondition (field operator : String) (operand : Json) : Result Filter := do
  let compare (c : Condition) : Filter := .compare ⟨field, c⟩
  match operator with
  | "eq" => return compare (.eq (← readValue operand))
  | "ne" => return compare (.ne (← readValue operand))
  | "gt" => return compare (.range .gt (← readValue operand))
  | "gte" => return compare (.range .gte (← readValue operand))
  | "lt" => return compare (.range .lt (← readValue operand))
  | "lte" => return compare (.range .lte (← readValue operand))
  | "in" => return compare (.isIn (← listOf readValue operand))
  | "nin" => return compare (.notIn (← listOf readValue operand))
  | "text" => return compare (.text (← asText operand))
  | "between" =>
    let (low, high) ← pairOf readValue readValue operand
    return .between field low high
  | "regex" =>
    let source ← asText operand
    match Pattern.read? source with
    | some p => return .pattern field p
    | none => throw (.badPattern source)
  | _ => unexpected

mutual

def readFilter : Json → Result Filter
  | .object [("all", _)] => .ok .everything
  | .object [("and", .array fs)] => (readFilters fs).map .all
  | .object [("or", .array fs)] => (readFilters fs).map .any
  | .object [("And", .array fs)] => (readFilters fs).map .and
  | .object [("Or", .array fs)] => (readFilters fs).map .or
  | .object [("not", f)] => (readFilter f).map .not
  | .object [("f", .string field), (operator, operand)] => readCondition field operator operand
  | .object [(operator, operand), ("f", .string field)] => readCondition field operator operand
  | _ => unexpected

def readFilters : List Json → Result (List Filter)
  | [] => .ok []
  | j :: rest => do return (← readFilter j) :: (← readFilters rest)

end

/-- A condition on one field. -/
def readComparison (j : Json) : Result Comparison := do
  match ← readFilter j with
  | .compare c => return c
  | _ => unexpected

def readComparisons : Json → Result (List Comparison) := listOf readComparison

def ofFilter (f : Filter) : Json := .string f.render

def ofComparison (c : Comparison) : Json := .string c.render

/-- What a text condition looks for. -/
def ofTextQuery : TextQuery → Json
  | .words text => ofTexts ["words", text]
  | .beginsWith start => ofTexts ["prefix", start]
  | .endsWith tail => ofTexts ["suffix", tail]
  | .contains part => ofTexts ["contains", part]

/-! ### Options -/

def readCollation (j : Json) : Result Text.Collation := do
  match ← asText j with
  | "binary" => return .binary
  | "unicode" => return .unicode
  | _ => unexpected

def ofCollation : Text.Collation → Json
  | .binary => .string "BinaryCollator"
  | .unicode => .string "UnicodeCollator"

def readDirection (j : Json) : Result SortOrder := do
  match ← asText j with
  | "asc" => return .ascending
  | "desc" => return .descending
  | _ => unexpected

def readSort : Json → Result SortKeys := listOf (pairOf asText readDirection)

def ofSort : SortKeys → Json :=
  ofList fun (field, order) => ofTexts [field, if order.isDescending then "desc" else "asc"]

/-- The options of a query. Each may be missing. -/
def readOptions (j : Json) : Result FindOptions := do
  return ⟨← defaulted "sort" [] readSort j, ← optional "skip" asInt j, ← optional "limit" asInt j,
    ← optional "collator" readCollation j⟩

/-- The fields whose levels a scan walks in a stated direction; true walks downward. -/
def readScanOrder (j : Json) : Result ScanOrder := do
  (← asMembers j).mapM fun (field, reverse) => do return (field, ← asBool reverse)

/-! ### Plans -/

mutual

def ofPlan : Plan → Json
  | { source, scanOrder, residual, sort, collation, skip, limit } =>
    let p : Plan := { source, scanOrder, residual, sort, collation, skip, limit }
    Json.ofMembers (ofSource source ++
      [("show", .string p.render), ("index", ofOption ofDescriptor p.index?),
        ("uses", ofList ofDescriptor p.indexes),
        ("order", ofList (fun (field, reverse) => .array [.string field, .bool reverse]) scanOrder),
        ("residual", ofOption ofFilter residual), ("sort", ofSort sort),
        ("collator", ofOption ofCollation collation), ("skip", ofOption .integer skip),
        ("limit", ofOption .integer limit), ("collection_scan", .bool p.isCollectionScan)])

/-- What tells the sources of plans apart. -/
def ofSource : Source Plan → List (String × Json)
  | .collection => [("by_id", .null), ("scan", .null), ("sub", .array [])]
  | .byId id => [("by_id", ofFound (some id)), ("scan", .null), ("sub", .array [])]
  | .index _ conditions =>
    [("by_id", .null), ("scan", ofList ofComparison conditions), ("sub", .array [])]
  | .union branches => [("by_id", .null), ("scan", .null), ("sub", .array (ofPlans branches))]

def ofPlans : List Plan → List Json
  | [] => []
  | p :: rest => ofPlan p :: ofPlans rest

end

end DocumentDb.Notation
