import DocumentDb.Index.Descriptor
import DocumentDb.Query.Filter
import DocumentDb.Text.Collation

/-!
# Find options and plans

Options say in which order and how many of the matching documents are wanted. A plan says where a
query takes its records from (one record by its id, an index scan, the union of the plans of the
branches of a disjunction, or all records), which filter remains to be applied to them, and how they
are sorted and bounded.
-/

set_option autoImplicit false

namespace DocumentDb

/-- Direction of a sort key. -/
inductive SortOrder
  | ascending
  | descending
deriving DecidableEq, Inhabited, Repr

namespace SortOrder

def isDescending (o : SortOrder) : Bool := o == .descending

def render : SortOrder → String
  | .ascending => "Ascending"
  | .descending => "Descending"

end SortOrder

/-- Sort keys: field and direction, most important first. -/
abbrev SortKeys : Type := List (String × SortOrder)

/-- What a query asks for beside its filter. -/
structure FindOptions where
  sort : SortKeys := []
  skip : Option Int := none
  limit : Option Int := none
  collation : Option Text.Collation := none
deriving Inhabited

/-- The direction in which an index scan walks the level of a field, sorted by field. Levels of
fields that are not listed ascend. -/
abbrev ScanOrder : Type := List (String × Bool)

namespace ScanOrder

/-- The directions of sort keys; of two keys on one field the last counts. -/
def ofSort (sort : SortKeys) : ScanOrder :=
  sort.foldl (fun order (field, direction) =>
    SortedEntries.insert field direction.isDescending order) []

/-- Whether the level of a field is walked downward. -/
def isReverse (order : ScanOrder) (field : String) : Bool :=
  (SortedEntries.get? field order).getD false

end ScanOrder

/-- Where the records of a query come from. -/
inductive Source (Branch : Type)
  /-- All records, by ascending id. -/
  | collection
  /-- The record that an equality on the record id names; no index is used then. -/
  | byId (id : Value)
  /-- An index scan, with the conditions it answers in the order of the index fields. -/
  | index (d : IndexDescriptor) (conditions : List Comparison)
  /-- The plans of the branches of a disjunction, each record once. -/
  | union (branches : List Branch)
deriving Inhabited

/-- How a query is executed. -/
structure Plan where
  source : Source Plan
  /-- The walk of the scanned index. -/
  scanOrder : ScanOrder := []
  /-- The filter that every record from the source has to pass. -/
  residual : Option Filter := none
  /-- A sort for which all records have to be read first. -/
  sort : SortKeys := []
  collation : Option Text.Collation := none
  skip : Option Int := none
  limit : Option Int := none
deriving Inhabited

namespace Plan

/-- Whether the plan reads all records. -/
def isCollectionScan (p : Plan) : Bool :=
  match p.source with
  | .collection => true
  | _ => false

/-- The index that the plan itself scans. -/
def index? (p : Plan) : Option IndexDescriptor :=
  match p.source with
  | .index d _ => some d
  | _ => none

mutual

/-- The indexes that the plan scans, those of its branches included. -/
def indexes : Plan → List IndexDescriptor
  | { source, .. } => indexesOf source

/-- The indexes that a source scans. -/
def indexesOf : Source Plan → List IndexDescriptor
  | .collection => []
  | .byId _ => []
  | .index d _ => [d]
  | .union branches => indexesAll branches

/-- The indexes of several plans. -/
def indexesAll : List Plan → List IndexDescriptor
  | [] => []
  | p :: rest => indexes p ++ indexesAll rest

end

/-- Text of the residual filter and the sort. -/
def renderStages (residual : Option Filter) (sort : SortKeys) : String :=
  let filter := match residual with
    | some f => " filter" ++ f.render
    | none => ""
  let keys := sort.map fun (field, order) => field ++ " " ++ order.render
  filter ++ if sort.isEmpty then "" else " sort[" ++ ", ".intercalate keys ++ "]"

mutual

def render : Plan → String
  | { source, residual, sort, .. } => renderSource source ++ renderStages residual sort

def renderSource : Source Plan → String
  | .collection => "collection-scan"
  | .byId id => "by-id(" ++ id.render ++ ")"
  | .index d conditions =>
    "index-scan(" ++ d.fields.render ++ " [" ++
      ", ".intercalate (conditions.map Comparison.render) ++ "])"
  | .union branches => "union(" ++ ", ".intercalate (renderAll branches) ++ ")"

def renderAll : List Plan → List String
  | [] => []
  | p :: rest => render p :: renderAll rest

end

end Plan

end DocumentDb
