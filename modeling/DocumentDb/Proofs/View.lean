import DocumentDb.Proofs.Index.State
import DocumentDb.Session

/-!
# `DocumentDb.Proofs.View`: what a collection shows of itself

A collection is spread over the maps of a store: records, metadata of indexes, one backing
map for each index. `View` is all of it that an operation can tell: the records, and each
index with its flag and content in the order of the catalog.

The functions below say what the upkeep of indexes does to a view, one index at a time.
They are the operations of `DocumentDb.Index.Upkeep` with the store taken out, and
`DocumentDb.Proofs.Upkeep` proves that those operations do just this. What holds of
indexes is then proved here, where one index cannot touch another.
-/

set_option autoImplicit false

namespace DocumentDb

/-- A collection as it stands, with its indexes in the order of the catalog. -/
structure View where
  name : String
  config : Config
  processors : List Processor
  /-- The map of the records. -/
  recordMap : MapRef RecordId
  /-- The flags of the builds that run. -/
  held : List (FieldPath × Guard)
  records : List (RecordId × Document)
  indexes : List IndexState

namespace View

/-- Whether a build of exactly these fields is running. -/
def isBuilding (v : View) (fields : FieldPath) : Bool := v.held.any (·.1 == fields)

/-- Whether an index is dirty and no build of it is running. -/
def atRest (v : View) (i : IndexState) : Bool := i.dirty && !v.isBuilding i.descriptor.fields

/-- Whether the content of an index is to be relied on: it is clean and not being built. -/
def trusts (v : View) (i : IndexState) : Bool := !i.dirty && !v.isBuilding i.descriptor.fields

/-- The documents of all records, in the order of their ids. -/
def documents (v : View) : List Document := v.records.map (·.2)

/-- The document of a record. -/
def record (v : View) (id : RecordId) : Option Document := SortedEntries.get? id v.records

/-- The view with an index in place of the one on the same fields. -/
def put (v : View) (i : IndexState) : View :=
  { v with indexes := v.indexes.map fun j =>
      if j.descriptor.fields = i.descriptor.fields then i else j }

/-- The view with other indexes. -/
def withIndexes (v : View) (is : List IndexState) : View := { v with indexes := is }

/-- The indexes of a view are those that were put into it. -/
@[simp] theorem withIndexes_indexes (v : View) (is : List IndexState) :
    (v.withIndexes is).indexes = is := rfl

/-- A view is what it is with its own indexes. -/
@[simp] theorem withIndexes_self (v : View) : v.withIndexes v.indexes = v := rfl

/-- What is put into a view last stands. -/
@[simp] theorem withIndexes_withIndexes (v : View) (is is' : List IndexState) :
    (v.withIndexes is).withIndexes is' = v.withIndexes is' := rfl

/-! ### Upkeep -/

/-- Builds an index anew from all records. -/
def rebuild (v : View) : Action IndexState Unit := IndexState.fill v.config v.documents true

/-- Brings one index up to a new document, and answers whether it has the entries of the
document now. -/
def bringUp (v : View) (doc : Document) : Action IndexState Bool := do
  if v.atRest (← get) then
    if v.config.rebuildDirtyOnWrite then
      v.rebuild
      return true
    else return false
  else
    IndexState.add v.config doc
    return true

/-- Makes one index forget a document. -/
def forget (v : View) (doc : Document) : Action IndexState Unit := do
  if v.atRest (← get) then
    if v.config.rebuildDirtyOnWrite then v.rebuild else pure ()
  else IndexState.remove v.config doc

/-- Brings indexes up to a new document in turn. When one refuses it, the ones before it take
it back. -/
def writeEach (v : View) (doc : Document) : List IndexState → Result Unit × List IndexState
  | [] => (.ok (), [])
  | i :: rest =>
    match (v.bringUp doc).perform i with
    | (.error e, i') => (.error e, i' :: rest)
    | (.ok has, i') =>
      match writeEach v doc rest with
      | (.ok (), rest') => (.ok (), i' :: rest')
      | (.error e, rest') => (.error e, (if has then i'.undone v.config doc else i') :: rest')

/-- Indexes after those on some fields have taken the entries of a document back. -/
def takeBack (v : View) (doc : Document) (fields : List FieldPath) (is : List IndexState) :
    List IndexState :=
  is.map fun i => if i.descriptor.fields ∈ fields then i.undone v.config doc else i

/-- The indexes after a loop over the last of them. If it failed, the ones on the given fields
have taken the entries of the document back. -/
def rejoin (v : View) (doc : Document) (fields : List FieldPath) (before : List IndexState) :
    Result Unit × List IndexState → List IndexState
  | (.ok (), after) => before ++ after
  | (.error _, after) => v.takeBack doc fields before ++ after

/-- Makes indexes forget a document in turn, up to the first where that fails. -/
def forgetEach (v : View) (doc : Document) : List IndexState → Result Unit × List IndexState
  | [] => (.ok (), [])
  | i :: rest =>
    match (v.forget doc).perform i with
    | (.error e, i') => (.error e, i' :: rest)
    | (.ok (), i') =>
      let (r, rest') := forgetEach v doc rest
      (r, i' :: rest')

/-- Makes indexes forget a document and brings them up to its new version. If they refuse the
new version, they are brought up to the old one again. -/
def replaceEach (v : View) (old new : Document) (is : List IndexState) :
    Result Unit × List IndexState :=
  match v.forgetEach old is with
  | (.error e, is') => (.error e, is')
  | (.ok (), is') =>
    match v.writeEach new is' with
    | (.ok (), is'') => (.ok (), is'')
    | (.error e, is'') => (.error e, (v.writeEach old is'').2)

/-! ### Records -/

/-- The view with a document stored under an id. -/
def setRecord (v : View) (id : RecordId) (doc : Document) : View :=
  { v with records := SortedEntries.insert id doc v.records }

/-- Records have no part in the configuration. -/
@[simp] theorem setRecord_config (v : View) (id : RecordId) (doc : Document) :
    (v.setRecord id doc).config = v.config := rfl

/-- The view without a record. -/
def eraseRecord (v : View) (id : RecordId) : View :=
  { v with records := SortedEntries.erase id v.records }

/-- Stores a new document. -/
def insert (v : View) (id : RecordId) (doc : Document) : Result Unit × View :=
  match (v.setRecord id doc).writeEach doc v.indexes with
  | (.ok (), is) => (.ok (), (v.setRecord id doc).withIndexes is)
  | (.error e, is) => (.error e, v.withIndexes is)

/-- Replaces a document by a new version. -/
def update (v : View) (id : RecordId) (old new : Document) : Result Unit × View :=
  match (v.setRecord id new).replaceEach old new v.indexes with
  | (.ok (), is) => (.ok (), (v.setRecord id new).withIndexes is)
  | (.error e, is) => (.error e, v.withIndexes is)

/-- Removes a document. -/
def remove (v : View) (id : RecordId) (old : Document) : Result Unit × View :=
  match (v.eraseRecord id).forgetEach old v.indexes with
  | (.ok (), is) => (.ok (), (v.eraseRecord id).withIndexes is)
  | (.error e, is) => (.error e, v.withIndexes is)

/-! What a failed write puts back leaves the records as they were. -/

section restored

variable {v : View} {id : RecordId} {old : Document} (hsorted : SortedEntries.Sorted v.records)
  (is : List IndexState)

include hsorted

/-- Erasing a record that was new takes its storing back. -/
theorem eraseRecord_setRecord (hnew : v.record id = none) (doc : Document) :
    ((v.setRecord id doc).withIndexes is).eraseRecord id = v.withIndexes is :=
  congrArg (fun records => { v with records, indexes := is }) (hsorted.erase_insert doc hnew)

/-- Putting the old version back takes a replacement back. -/
theorem setRecord_setRecord (hold : v.record id = some old) (new : Document) :
    ((v.setRecord id new).withIndexes is).setRecord id old = v.withIndexes is :=
  congrArg (fun records => { v with records, indexes := is }) (hsorted.insert_insert new hold)

/-- Storing a record again takes its removal back. -/
theorem setRecord_eraseRecord (hold : v.record id = some old) :
    ((v.eraseRecord id).withIndexes is).setRecord id old = v.withIndexes is :=
  congrArg (fun records => { v with records, indexes := is }) (hsorted.insert_erase hold)

end restored

/-! ### What upkeep depends on -/

section equations

variable {v : View} {doc : Document} {i i' : IndexState} {is rest : List IndexState}

/-- Upkeep of one index does not look at the others. -/
theorem writeEach_withIndexes (v : View) (is : List IndexState) (doc : Document)
    (rest : List IndexState) :
    (v.withIndexes is).writeEach doc rest = v.writeEach doc rest := by
  induction rest with
  | nil => rfl
  | cons i rest ih =>
    have hone : (v.withIndexes is).bringUp doc = v.bringUp doc := rfl
    rw [writeEach, writeEach, hone, ih]
    rfl

/-- Forgetting a document goes by the records and flags of a view, not by its indexes. -/
theorem forgetEach_withIndexes (v : View) (is : List IndexState) (doc : Document)
    (rest : List IndexState) :
    (v.withIndexes is).forgetEach doc rest = v.forgetEach doc rest := by
  induction rest with
  | nil => rfl
  | cons i rest ih =>
    have hone : (v.withIndexes is).forget doc = v.forget doc := rfl
    rw [forgetEach, forgetEach, hone, ih]

/-- Where nothing was written, there is nothing to take back. -/
@[simp] theorem takeBack_nil (v : View) (doc : Document) (is : List IndexState) :
    v.takeBack doc [] is = is := by
  simp [takeBack]

/-- A roll back treats each index for itself. -/
theorem takeBack_append (v : View) (doc : Document) (fields : List FieldPath)
    (is js : List IndexState) :
    v.takeBack doc fields (is ++ js) = v.takeBack doc fields is ++ v.takeBack doc fields js :=
  List.map_append

/-- Indexes on other fields keep their entries. -/
theorem takeBack_eq_self {fields : List FieldPath} (h : ∀ i ∈ is, i.descriptor.fields ∉ fields) :
    v.takeBack doc fields is = is := by
  rw [takeBack, List.map_congr_left (g := id), List.map_id]
  intro i hi
  exact if_neg (h i hi)

/-- Fields on which there is no index make no difference to a roll back. -/
theorem takeBack_append_fields {fields fields' : List FieldPath}
    (h : ∀ i ∈ is, i.descriptor.fields ∉ fields') :
    v.takeBack doc (fields ++ fields') is = v.takeBack doc fields is := by
  refine List.map_congr_left fun i hi => ?_
  simp only [List.mem_append, h i hi, or_false]

/-- Going on with the next index comes to the same, whether it counts among the indexes before
or among those of the loop. -/
theorem rejoin_step (rest : List IndexState) (fields : List FieldPath)
    (before : List IndexState) {has : Bool}
    (hbefore : ∀ j ∈ before, j.descriptor.fields ≠ i'.descriptor.fields)
    (hnext : i'.descriptor.fields ∉ fields)
    (hrun : (v.bringUp doc).perform i = (.ok has, i')) :
    v.rejoin doc (fields ++ if has then [i'.descriptor.fields] else []) (before ++ [i'])
        (v.writeEach doc rest)
      = v.rejoin doc fields before (v.writeEach doc (i :: rest)) := by
  rw [writeEach, hrun]
  dsimp only
  rcases v.writeEach doc rest with ⟨e | _, rest'⟩
  · simp only [rejoin]
    rw [takeBack_append, takeBack_append_fields, List.append_assoc, List.singleton_append.symm]
    · congr 2
      cases has <;> simp [takeBack, hnext]
    · intro j hj
      cases has <;> simp [hbefore j hj]
  · simp only [rejoin, List.append_assoc, List.singleton_append]

/-- What bringing up an index comes to: nothing for an index at rest that stays dirty, a
rebuild for one that is rebuilt, and otherwise an addition. -/
theorem perform_bringUp_rest (hrest : v.atRest i = true)
    (hrebuild : v.config.rebuildDirtyOnWrite = true) :
    (v.bringUp doc).perform i
      = ((v.rebuild.perform i).1.map fun _ => true, (v.rebuild.perform i).2) := by
  simp only [bringUp, Action.perform_bind, Action.perform_get, hrest, hrebuild, if_true]
  rcases v.rebuild.perform i with ⟨_ | _, _⟩ <;> rfl

/-- A write skips an index at rest if it is not to be rebuilt. -/
theorem perform_bringUp_stay (hrest : v.atRest i = true)
    (hrebuild : v.config.rebuildDirtyOnWrite = false) :
    (v.bringUp doc).perform i = (.ok false, i) := by
  simp only [bringUp, Action.perform_bind, Action.perform_get, hrest, hrebuild, if_true,
    Bool.false_eq_true, if_false, Action.perform_pure]

/-- A write adds the entries of the document to an index that is not at rest. -/
theorem perform_bringUp_add (hrest : v.atRest i = false) :
    (v.bringUp doc).perform i
      = (((IndexState.add v.config doc).perform i).1.map fun _ => true,
          ((IndexState.add v.config doc).perform i).2) := by
  simp only [bringUp, Action.perform_bind, Action.perform_get, hrest, Bool.false_eq_true, if_false]
  rcases (IndexState.add v.config doc).perform i with ⟨_ | _, _⟩ <;> rfl

/-- A removal rebuilds an index at rest if it may. -/
theorem perform_forget_rest (hrest : v.atRest i = true)
    (hrebuild : v.config.rebuildDirtyOnWrite = true) :
    (v.forget doc).perform i = v.rebuild.perform i := by
  simp only [forget, Action.perform_bind, Action.perform_get, hrest, hrebuild, if_true]

/-- Otherwise it skips the index. -/
theorem perform_forget_stay (hrest : v.atRest i = true)
    (hrebuild : v.config.rebuildDirtyOnWrite = false) :
    (v.forget doc).perform i = (.ok (), i) := by
  simp only [forget, Action.perform_bind, Action.perform_get, hrest, hrebuild, if_true,
    Bool.false_eq_true, if_false, Action.perform_pure]

/-- A removal takes the entries of the document out of an index that is not at rest. -/
theorem perform_forget_remove (hrest : v.atRest i = false) :
    (v.forget doc).perform i = (IndexState.remove v.config doc).perform i := by
  simp only [forget, Action.perform_bind, Action.perform_get, hrest, Bool.false_eq_true, if_false]

/-- A rebuild keeps the descriptor of its index. -/
@[simp] theorem rebuild_descriptor (v : View) (i : IndexState) :
    (v.rebuild.perform i).2.descriptor = i.descriptor := IndexState.fill_descriptor _ _ _ _

/-- So does a write, whether it rebuilds the index or not. -/
@[simp] theorem bringUp_descriptor (v : View) (doc : Document) (i : IndexState) :
    ((v.bringUp doc).perform i).2.descriptor = i.descriptor := by
  cases hrest : v.atRest i with
  | true =>
    cases hrebuild : v.config.rebuildDirtyOnWrite with
    | true => rw [perform_bringUp_rest hrest hrebuild, rebuild_descriptor]
    | false => rw [perform_bringUp_stay hrest hrebuild]
  | false => rw [perform_bringUp_add hrest, IndexState.add_descriptor]

/-- So does a removal. -/
@[simp] theorem forget_descriptor (v : View) (doc : Document) (i : IndexState) :
    ((v.forget doc).perform i).2.descriptor = i.descriptor := by
  cases hrest : v.atRest i with
  | true =>
    cases hrebuild : v.config.rebuildDirtyOnWrite with
    | true => rw [perform_forget_rest hrest hrebuild, rebuild_descriptor]
    | false => rw [perform_forget_stay hrest hrebuild]
  | false => rw [perform_forget_remove hrest, IndexState.remove_descriptor]

/-- Upkeep changes no descriptor. -/
theorem writeEach_descriptors (v : View) (doc : Document) (is : List IndexState) :
    (v.writeEach doc is).2.map (·.descriptor) = is.map (·.descriptor) := by
  induction is with
  | nil => rfl
  | cons i rest ih =>
    have hone := bringUp_descriptor v doc i
    rw [writeEach]
    rcases hrun : (v.bringUp doc).perform i with ⟨_ | has, i'⟩
    · rw [hrun] at hone
      simpa using hone
    · rw [hrun] at hone
      dsimp only at hone ⊢
      rcases hrest : v.writeEach doc rest with ⟨_ | _, rest'⟩
      · rw [hrest] at ih
        cases has <;> simpa [hone] using ih
      · rw [hrest] at ih
        simpa [hone] using ih

/-- Forgetting a document keeps the descriptors of all indexes. -/
theorem forgetEach_descriptors (v : View) (doc : Document) (is : List IndexState) :
    (v.forgetEach doc is).2.map (·.descriptor) = is.map (·.descriptor) := by
  induction is with
  | nil => rfl
  | cons i rest ih =>
    have hone := forget_descriptor v doc i
    rw [forgetEach]
    rcases hrun : (v.forget doc).perform i with ⟨_ | _, i'⟩
    · rw [hrun] at hone
      simpa using hone
    · rw [hrun] at hone
      dsimp only at hone ⊢
      simpa [hone] using ih

/-- So does replacing one. -/
theorem replaceEach_descriptors (v : View) (old new : Document) (is : List IndexState) :
    (v.replaceEach old new is).2.map (·.descriptor) = is.map (·.descriptor) := by
  have hforget := forgetEach_descriptors v old is
  unfold replaceEach
  rcases hrun : v.forgetEach old is with ⟨e | _, is₁⟩
  · rw [hrun] at hforget
    exact hforget
  · rw [hrun] at hforget
    have hwrite := writeEach_descriptors v new is₁
    dsimp only at hforget ⊢
    rcases hrun' : v.writeEach new is₁ with ⟨e | _, is₂⟩
    · rw [hrun'] at hwrite
      exact (writeEach_descriptors v old is₂).trans (hwrite.trans hforget)
    · rw [hrun'] at hwrite
      exact hwrite.trans hforget

end equations

end View

end DocumentDb
