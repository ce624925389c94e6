import DocumentDb.Index.Lifecycle
import DocumentDb.Query.Plan

/-!
# Planning over the indexes that can be trusted

Indexes under construction are not offered to the optimizer. Dirty ones at rest are, and they are
rebuilt when the chosen plan scans them. If an index of the plan is being built by then, it is
withdrawn and a new plan is chosen from the rest.
-/

set_option autoImplicit false

namespace DocumentDb.Indexing

open Session

variable {σ : Type}

/-- Makes an index of a plan fit for a scan. Answers whether it is: it is not if it is being
built. -/
def prepare (listener : Listener σ) (d : IndexDescriptor) : SessionM σ Bool := do
  if ← isBuilding d.fields then return false
  else if ← onCatalog (Catalog.isDirty d.fields) then tryBuild listener d true
  else return true

/-- Prepares the indexes of a plan and gives the fields of those that cannot be scanned. -/
def prepareAll (listener : Listener σ) : List IndexDescriptor → SessionM σ (List FieldPath)
  | [] => return []
  | d :: rest => do
    let fit ← prepare listener d
    let unfit ← prepareAll listener rest
    return if fit then unfit else d.fields :: unfit

/-- The candidates without those on the given fields. -/
def withdraw (unfit : List FieldPath) (candidates : List IndexDescriptor) : List IndexDescriptor :=
  candidates.filter fun d => !unfit.contains d.fields

/-- Plans over the candidates, and over fewer of them until all indexes of the plan can be
scanned. -/
def planOver (listener : Listener σ) (optimize : List IndexDescriptor → SessionM σ Plan)
    (candidates : List IndexDescriptor) : SessionM σ Plan := do
  let plan ← optimize candidates
  let unfit ← prepareAll listener plan.indexes
  let rest := withdraw unfit candidates
  -- An optimizer that insists on an index it has not been offered gets its way.
  if rest.length < candidates.length then planOver listener optimize rest else return plan
termination_by candidates.length

/-- The plan that an optimizer chooses over the indexes that are not being built. -/
def plan (listener : Listener σ) (optimize : List IndexDescriptor → SessionM σ Plan) :
    SessionM σ Plan := do
  let all ← list
  let builds := (← here).builds
  planOver listener optimize (all.filter fun d => !builds.isBuilding d.fields)

/-- The ids that a scan of an index selects. -/
def scan (d : IndexDescriptor) (order : ScanOrder) (conditions : List Comparison) :
    SessionM σ RecordIdSet := do
  let h ← handle d
  onStore (h.scan order conditions)

end DocumentDb.Indexing
