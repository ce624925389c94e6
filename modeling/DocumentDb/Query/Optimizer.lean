import DocumentDb.Query.Plan
import DocumentDb.Value.RecordId

/-!
# Choosing a plan

`Plan.optimize` turns a filter and options into a plan, given the indexes that may be used. A
conjunction is answered by the record id if it fixes one, else by a full-text index if it has a text
condition, else by the ordered index that covers most of its conditions, else by reading all
records. The terms that the source does not answer remain as the residual filter. A disjunction
unites the plans of its branches unless one of them would read all records anyway.
-/

set_option autoImplicit false

namespace DocumentDb

namespace Plan

/-- The residual filter of the terms that a source does not answer. -/
def residualOf (terms : List Filter) : Option Filter :=
  match Filter.all terms with
  | .everything => none
  | f => some f

/-- The value that a term fixes for the record id. -/
def fixedId? : Filter → Option Value
  | .compare ⟨field, .eq v⟩ => if field = idField then some v else none
  | _ => none

/-- The first element that `f` accepts, and the list without it. -/
def pick? {α β : Type} (f : α → Option β) : List α → Option (β × List α)
  | [] => none
  | a :: rest =>
    match f a with
    | some b => some (b, rest)
    | none => (pick? f rest).map fun (b, others) => (b, a :: others)

/-- A lookup by record id, if a term fixes one. -/
def byIdPlan? (terms : List Filter) : Option Plan :=
  (pick? fixedId? terms).map fun (id, rest) =>
    { source := .byId id, residual := residualOf rest }

/-! ### Text conditions -/

/-- The text condition that a term consists of. -/
def textTerm? (f : Filter) : Option Comparison := f.comparison?.filter Comparison.isText

/-- The full-text index on a field. -/
def fullTextIndex? (field : String) (indexes : List IndexDescriptor) : Option IndexDescriptor :=
  indexes.find? fun d => d.isFullText && d.fields == FieldPath.single field

/-- Every text condition needs a full-text index on its field. -/
def requireFullText (indexes : List IndexDescriptor) : List Comparison → Result Unit
  | [] => .ok ()
  | c :: rest =>
    if (fullTextIndex? c.field indexes).isNone then .error (.notFullTextIndexed c.field)
    else requireFullText indexes rest

/-- A scan of a full-text index for the first text condition; the others are left to the residual
filter. -/
def textPlan? (terms : List Filter) (indexes : List IndexDescriptor) : Result (Option Plan) :=
  (requireFullText indexes (terms.filterMap textTerm?)).map fun _ =>
    (pick? textTerm? terms).bind fun (c, rest) =>
      (fullTextIndex? c.field indexes).map fun d =>
        { source := .index d [c], residual := residualOf rest }

/-! ### Ordered indexes -/

/-- The condition of a term that an ordered index can answer. -/
def orderedTerm? (f : Filter) : Option Comparison := f.comparison?.filter (!·.isText)

/-- Number of leading fields of an index that some condition is about. -/
def covered (conditions : List Comparison) (d : IndexDescriptor) : Nat :=
  (d.fields.fields.takeWhile fun field => conditions.any (·.field == field)).length

/-- Whether the index `d` is preferred over `e`: more leading fields covered, then unique, then
fewer fields. -/
def beats (conditions : List Comparison) (d e : IndexDescriptor) : Bool :=
  let c := covered conditions d
  let c' := covered conditions e
  if c ≠ c' then c' < c
  else if d.isUnique != e.isUnique then d.isUnique
  else d.fields.length < e.fields.length

/-- The index preferred over all others; of equally good ones the first. -/
def bestIndex? (conditions : List Comparison) (indexes : List IndexDescriptor) :
    Option IndexDescriptor :=
  (indexes.filter fun d => !d.isFullText && covered conditions d ≠ 0).foldl
    (fun best d =>
      match best with
      | none => some d
      | some e => if beats conditions d e then some d else some e)
    none

/-- The first condition about each field. -/
def scanConditions (conditions : List Comparison) (fields : List String) : List Comparison :=
  fields.filterMap fun field => conditions.find? (·.field == field)

/-- The terms without the first one about each field. -/
def leftOver : (fields : List String) → (terms : List Filter) → List Filter
  | _, [] => []
  | fields, f :: rest =>
    match (orderedTerm? f).filter fun c => fields.contains c.field with
    | some c => leftOver (fields.filter (· != c.field)) rest
    | none => f :: leftOver fields rest

/-- A scan of the best ordered index, if one has its first field among the conditions. -/
def orderedPlan? (terms : List Filter) (indexes : List IndexDescriptor) : Option Plan :=
  let conditions := terms.filterMap orderedTerm?
  (bestIndex? conditions indexes).map fun d =>
    let fields := d.fields.fields.take (covered conditions d)
    { source := .index d (scanConditions conditions fields)
      residual := residualOf (leftOver fields terms) }

/-! ### Whole filters -/

/-- The plan of a conjunction. -/
def ofConjunction (f : Filter) (indexes : List IndexDescriptor) : Result Plan :=
  let terms := f.conjuncts
  match byIdPlan? terms with
  | some p => .ok p
  | none =>
    (textPlan? terms indexes).map fun text =>
      match text with
      | some p => p
      | none =>
        (orderedPlan? terms indexes).getD { source := .collection, residual := residualOf terms }

/-- The plans of the branches of a disjunction; nothing as soon as one reads all records. -/
def ofBranches (indexes : List IndexDescriptor) : List Filter → Result (Option (List Plan))
  | [] => .ok (some [])
  | f :: rest =>
    (ofConjunction f indexes).bind fun p =>
      if p.isCollectionScan then .ok none
      else (ofBranches indexes rest).map fun ps => ps.map (p :: ·)

/-- The union of branches; without branches there is nothing to unite, and all records are read. -/
def unite (branches : List Plan) : Plan :=
  { source := if branches.isEmpty then .collection else .union branches }

/-- The plan of a filter, its order and bounds not settled. -/
def ofFilter (f : Filter) (indexes : List IndexDescriptor) : Result Plan :=
  match f with
  | .or branches =>
    (ofBranches indexes branches).map fun ps =>
      match ps with
      | some ps => unite ps
      | none => { source := .collection, residual := some f }
  | f => ofConjunction f indexes

/-- Whether the walk of the scanned index yields the wanted order: the sort fields are its leading
fields. -/
def walkSorts (p : Plan) (sort : SortKeys) : Bool :=
  match p.index? with
  | some d => !d.isFullText && (sort.map (·.1)).isPrefixOf d.fields.fields
  | none => false

/-- Settles the order of the result. -/
def sorted (p : Plan) (sort : SortKeys) : Plan :=
  if sort.isEmpty then p
  else if p.walkSorts sort then
    { p with scanOrder := ScanOrder.ofSort sort }
  else { p with sort }

/-- The plan of a query. `collation` orders texts unless the options name one. -/
def optimize (collation : Text.Collation) (f : Filter) (options : FindOptions)
    (indexes : List IndexDescriptor) : Result Plan :=
  (ofFilter f indexes).map fun p =>
    { p.sorted options.sort with
      collation := some (options.collation.getD collation)
      skip := options.skip
      limit := options.limit }

end Plan

end DocumentDb
