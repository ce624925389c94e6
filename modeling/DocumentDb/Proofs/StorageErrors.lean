import DocumentDb.Proofs.Index.Scanning
import DocumentDb.Proofs.Index.State
import DocumentDb.Proofs.Query.StreamSteps
import DocumentDb.Query.Optimizer

/-!
# `DocumentDb.Proofs.StorageErrors`: who can blame the store

An error of the kind `storage` says that a map is gone or has another type. Only the actions on
maps give such errors. Everything between two of these actions is pure: taking keys and tokens
from documents, changing a tree of keys, evaluating filters, choosing a plan, sorting. Each of
these functions has many ways to fail, and `Result.Spares` says of its result that it does not
blame the store.

The lemmas are simp lemmas, one for each function, and follow its recursion. With them the errors
of an operation are traced back to its reads of maps, where soundness of the session rules them
out, and to the extractor and the processors of the caller, who can report what they like.
-/

set_option autoImplicit false

namespace DocumentDb

variable {σ α β : Type}

/-- A result that is no error of the store. -/
def Result.Spares (r : Result α) : Prop := ∀ e, r = .error e → e.kind ≠ .storage

/-- An action none of whose errors is one of the store. -/
def Action.Spares (x : Action σ α) : Prop := ∀ s, (x.perform s).1.Spares

/-! ### Compound results -/

namespace Result

/-- A value is no error. -/
@[simp] theorem spares_ok (a : α) : Spares (.ok a) := nofun

/-- An error blames the store exactly if it is of that kind. -/
@[simp] theorem spares_error_iff {e : Error} :
    Spares (.error e : Result α) ↔ e.kind ≠ .storage := by
  constructor
  · intro h
    exact h e rfl
  · rintro h e' ⟨⟩
    exact h

/-- Changing the value of a result leaves its errors as they are. -/
@[simp] theorem spares_map {x : Result α} {f : α → β} (hx : x.Spares) : Spares (x.map f) := by
  cases x with
  | error e => exact spares_error_iff.mpr (hx e rfl)
  | ok a => exact spares_ok (f a)

/-- What fails in a chain is one of its links. -/
@[simp] theorem spares_bind {x : Result α} {f : α → Result β} (hx : x.Spares)
    (hf : ∀ a, (f a).Spares) : Spares (x.bind f) := by
  cases x with
  | error e => exact spares_error_iff.mpr (hx e rfl)
  | ok a => exact hf a

/-- Mapping a list fails with an error of one of its elements. -/
@[simp] theorem spares_mapM {f : α → Result β} {xs : List α} (hf : ∀ a ∈ xs, (f a).Spares) :
    Spares (xs.mapM f) := by
  induction xs with
  | nil => exact spares_ok []
  | cons a xs ih =>
    rw [List.forall_mem_cons] at hf
    rw [List.mapM_cons]
    refine spares_bind hf.1 fun b => ?_
    exact spares_bind (ih hf.2) fun bs => spares_ok (b :: bs)

end Result

namespace Action

/-- An action that only gives a value has nothing to report. -/
@[simp] theorem spares_pure (a : α) : Spares (pure a : Action σ α) := fun _ => Result.spares_ok a

/-- Changing the state in memory does not touch a map. -/
@[simp] theorem spares_modify (f : σ → σ) : Spares (modify f : Action σ PUnit) :=
  fun _ => Result.spares_ok _

/-- Nor does reading it. -/
@[simp] theorem spares_get : Spares (get : Action σ σ) := fun s => Result.spares_ok s

/-- A result taken into an action keeps its error. -/
@[simp] theorem spares_ofResult {r : Result α} (hr : r.Spares) :
    Spares (ofResult r : Action σ α) := fun _ => hr

/-- Of two actions in turn the first or the second one fails. -/
@[simp] theorem spares_bind {x : Action σ α} {f : α → Action σ β} (hx : x.Spares)
    (hf : ∀ a, (f a).Spares) : Spares (x >>= f) := by
  intro s
  have hs := hx s
  rw [perform_bind]
  rcases hrun : x.perform s with ⟨e | a, s'⟩
  · rw [hrun] at hs
    exact Result.spares_error_iff.mpr (hs e rfl)
  · exact hf a s'

end Action

open DocumentDb.Result DocumentDb.Action

/-! ### Keys, tokens and trees -/

/-- A document without a proper id is to blame for that itself. -/
@[simp] theorem Document.spares_id (d : Document) : d.id.Spares := by
  unfold Document.id Value.recordId RecordId.parse
  split
  · simp
  · refine spares_map ?_
    split <;> simp [Error.kind]
  · split <;> simp [Error.kind]
  · simp [Error.kind]

namespace FanOut

/-- A value that can be no key is an error of indexing. -/
@[simp] theorem spares_keyOf (field : String) (v : Value) : (keyOf field v).Spares := by
  unfold keyOf
  split <;> simp [Error.kind]

/-- So is an element that can be none. -/
@[simp] theorem spares_elementKey (field : String) (v : Value) : (elementKey field v).Spares := by
  unfold elementKey
  split <;> simp [Error.kind]

/-- The keys of a first field fail with the error of one element. -/
@[simp] theorem spares_firstKeys (field : String) (v : Value) : (firstKeys field v).Spares := by
  unfold firstKeys
  split <;> simp

/-- The key of a later field may be missing or be an array, which are errors of indexing. -/
@[simp] theorem spares_laterKey (vs : FieldValues) (fields : FieldPath) (field : String) :
    (laterKey vs fields field).Spares := by
  unfold laterKey
  dsimp only
  split <;> simp [Error.kind]

end FanOut

/-- Inserting a path fails where the tree has another shape than the path. -/
@[simp] theorem Node.spares_insert (id : RecordId) (path : List Key) (node : Node) :
    (node.insert id path).Spares := by
  induction path generalizing node with
  | nil => cases node <;> simp [Node.insert, Error.kind]
  | cons k path ih => cases node <;> simp [Node.insert, Error.kind, ih]

namespace SingleField

/-- Looking up the ids of a key fails if there is a deeper level under it. -/
@[simp] theorem spares_idsAt (d : IndexDescriptor) (level : Level) (k : Key) :
    (idsAt d level k).Spares := by
  unfold idsAt
  split <;> simp [Error.kind]

/-- The check of a unique index reports a clash of values. -/
@[simp] theorem spares_checkUnique (d : IndexDescriptor) (id : RecordId) (level : Level)
    (keys : List Key) : (checkUnique d id level keys).Spares := by
  induction keys with
  | nil => exact spares_ok ()
  | cons k keys ih =>
    refine spares_bind (spares_idsAt d level k) fun ids => ?_
    split
    · simp [Error.kind]
    · exact ih

/-- Adding keys fails as adding one of them does. -/
@[simp] theorem spares_addKeys (d : IndexDescriptor) (id : RecordId) (keys : List Key) :
    (addKeys d id keys).Spares := by
  induction keys with
  | nil => exact Action.spares_pure ()
  | cons k keys ih =>
    refine Action.spares_bind spares_get fun level => Action.spares_bind (by simp) fun ids => ?_
    dsimp only
    split
    · exact Action.spares_bind (spares_modify _) fun _ => ih
    · exact ih

/-- Dropping keys fails as dropping one of them does. -/
@[simp] theorem spares_dropKeys (d : IndexDescriptor) (id : RecordId) (keys : List Key) :
    (dropKeys d id keys).Spares := by
  induction keys with
  | nil => exact Action.spares_pure ()
  | cons k keys ih =>
    refine Action.spares_bind spares_get fun level => Action.spares_bind (by simp) fun ids => ?_
    dsimp only
    split
    · exact Action.spares_bind (spares_modify _) fun _ => ih
    · split
      · exact Action.spares_bind (spares_modify _) fun _ => ih
      · exact ih

end SingleField

namespace Compound

/-- The check of a unique compound index reports a clash of paths. -/
@[simp] theorem spares_checkUnique (d : IndexDescriptor) (id : RecordId) (path : List Key)
    (level : Level) (keys : List Key) : (checkUnique d id path level keys).Spares := by
  induction keys with
  | nil => exact spares_ok ()
  | cons k keys ih =>
    unfold checkUnique
    dsimp only
    split
    · simp [Error.kind]
    · exact ih

/-- Adding paths fails as inserting one of them does. -/
@[simp] theorem spares_addKeys (id : RecordId) (path keys : List Key) :
    (addKeys id path keys).Spares := by
  induction keys with
  | nil => exact Action.spares_pure ()
  | cons k keys ih =>
    refine Action.spares_bind spares_get fun level => Action.spares_bind (by simp) fun node => ?_
    exact Action.spares_bind (spares_modify _) fun _ => ih

/-- Dropping paths fails as erasing one of them does. -/
@[simp] theorem spares_dropKeys (id : RecordId) (path keys : List Key) :
    (dropKeys id path keys).Spares := by
  induction keys with
  | nil => exact Action.spares_pure ()
  | cons k keys ih =>
    refine Action.spares_bind spares_get fun level => ?_
    dsimp only
    split
    · exact ih
    · split <;> exact Action.spares_bind (spares_modify _) fun _ => ih

end Compound

namespace OrderedIndex

/-- The paths of some values fail with the error of one of their keys. -/
@[simp] theorem spares_paths (d : IndexDescriptor) (vs : FieldValues) : (paths d vs).Spares := by
  unfold paths FanOut.keyPaths
  split
  · refine spares_bind (FanOut.spares_firstKeys _ _) fun ks => spares_map ?_
    exact spares_mapM fun field _ => FanOut.spares_laterKey vs d.fields field
  · exact spares_map (FanOut.spares_firstKeys _ _)

/-- Writing keys into a tree checks and adds them. -/
@[simp] theorem spares_writeKeys (d : IndexDescriptor) (id : RecordId) (keys path : List Key) :
    (writeKeys d id keys path).Spares := by
  unfold writeKeys Compound.write SingleField.write
  dsimp only
  split <;> split
  · exact Action.spares_bind spares_get fun level => Action.spares_bind (by simp) fun _ => by simp
  · simp
  · exact Action.spares_bind spares_get fun level => Action.spares_bind (by simp) fun _ => by simp
  · simp

/-- Erasing keys from a tree drops them. -/
@[simp] theorem spares_eraseKeys (d : IndexDescriptor) (id : RecordId) (keys path : List Key) :
    (eraseKeys d id keys path).Spares := by
  unfold eraseKeys
  split <;> simp

end OrderedIndex

/-- Only texts have tokens, and other values are refused by the index. -/
@[simp] theorem FullText.spares_tokens (tokenizer : Text.Tokenizer) (field : String) (v : Value) :
    (tokens tokenizer field v).Spares := by
  have helement : ∀ e, (elementTokens tokenizer field e).Spares := by
    intro e
    unfold elementTokens
    split <;> simp [Error.kind]
  unfold tokens
  refine spares_map ?_
  split <;> simp [Error.kind, helement]

/-! ### The content of an index -/

namespace Content

variable (tokenizer : Text.Tokenizer) (d : IndexDescriptor) (vs : FieldValues)

/-- A change of a content fails with the keys, whatever is done to tokens. -/
theorem spares_change {onKeys : List Key → List Key → Action Level Unit}
    {onTokens : List String → FullText.Postings → FullText.Postings}
    (hkeys : ∀ keys path, (onKeys keys path).Spares) :
    (change tokenizer d vs onKeys onTokens).Spares := by
  intro c
  cases c with
  | ordered level =>
    rw [perform_change_ordered]
    have hpaths := OrderedIndex.spares_paths d vs
    cases hrun : OrderedIndex.paths d vs with
    | error e => exact spares_error_iff.mpr (hpaths e hrun)
    | ok p => exact hkeys p.1 p.2 level
  | fullText postings =>
    rw [perform_change_fullText]
    have htokens := FullText.spares_tokens tokenizer d.fields.first vs.firstValue
    cases hrun : FullText.tokens tokenizer d.fields.first vs.firstValue with
    | error e => exact spares_error_iff.mpr (htokens e hrun)
    | ok ts => exact spares_ok ()

/-- Writing values to an index in memory. -/
@[simp] theorem spares_write : (write tokenizer d vs).Spares :=
  spares_change tokenizer d vs fun _ _ => OrderedIndex.spares_writeKeys _ _ _ _

/-- Erasing values from an index in memory. -/
@[simp] theorem spares_erase : (erase tokenizer d vs).Spares :=
  spares_change tokenizer d vs fun _ _ => OrderedIndex.spares_eraseKeys _ _ _ _

end Content

/-- Adding documents to an index fails for the index or for the extractor. -/
theorem IndexState.addAll_error {config : Config} {docs : List Document} {i : IndexState}
    {e : Error} (h : ((addAll config docs).perform i).1 = .error e) :
    e.kind ≠ .storage ∨ ∃ doc fields, config.extractor doc fields = .error e := by
  induction docs generalizing i with
  | nil => cases h
  | cons doc docs ih =>
    rw [perform_addAll_cons] at h
    cases hvs : config.extractor doc i.descriptor.fields with
    | error e' =>
      rw [perform_add_error hvs] at h
      exact Or.inr ⟨doc, i.descriptor.fields, hvs.trans (congrArg _ (Except.error.inj h))⟩
    | ok vs =>
      rw [perform_add_ok hvs] at h
      have hwrite := Content.spares_write config.tokenizer i.descriptor vs i.content
      rcases hrun : (Content.write config.tokenizer i.descriptor vs).perform i.content with
        ⟨e' | _, c⟩
      · rw [hrun] at h hwrite
        exact Or.inl (hwrite e h)
      · rw [hrun] at h
        exact ih h

/-! ### Scans -/

namespace Scan

/-- An operand that can be no key is an error of the filter. -/
@[simp] theorem spares_operandKey (field : String) (v : Value) : (operandKey field v).Spares := by
  unfold operandKey
  split <;> simp [Error.kind]

/-- The keys that a condition selects fail with one of its operands. -/
@[simp] theorem spares_selection (c : Comparison) : (selection c).Spares := by
  unfold selection operandKeys
  split <;> simp [Error.kind]

/-- The part of a level that a condition takes fails as its selection does. -/
@[simp] theorem spares_taken {V : Type} (reverse : Bool) (condition : Option Comparison)
    (level : List (Key × V)) : (taken reverse condition level).Spares := by
  unfold taken
  split <;> simp

/-- What a condition takes of a level stands in the level. -/
theorem exists_mem_of_taken {V : Type} {reverse : Bool} {condition : Option Comparison}
    {level es : List (Key × V)} (h : taken reverse condition level = .ok es) {e : Key × V}
    (he : e ∈ es) : ∃ k, (k, e.2) ∈ level := by
  obtain ⟨ks, rfl⟩ : ∃ ks, es = entriesAt level ks := by
    unfold taken at h
    split at h
    · cases h
      exact ⟨_, rfl⟩
    · obtain ⟨s, -, rfl⟩ := Result.map_eq_ok_iff.mp h
      exact ⟨_, rfl⟩
  obtain ⟨k, -, hget⟩ := List.mem_filterMap.mp he
  obtain ⟨v, hv, rfl⟩ := Option.map_eq_some_iff.mp hget
  obtain ⟨k', hk', -⟩ := SortedEntries.exists_mem_of_get?_eq_some hv
  exact ⟨k', hk'⟩

/-- The ids of several branches fail with the first branch that does. -/
theorem spares_joined {rs : List (Key × Result (List RecordId))}
    (h : ∀ r ∈ rs, r.2.Spares) : (joined rs).Spares := by
  induction rs with
  | nil => exact spares_ok []
  | cons r rs ih =>
    rw [List.forall_mem_cons] at h
    exact spares_bind h.1 fun ids => spares_map (ih h.2)

mutual

/-- The scan of a node fails in one of its conditions. The recursion follows the levels of the
tree. -/
theorem spares_scanNode (order : ScanOrder) (fields : List String) (conditions : List Comparison)
    (node : Node) : (scanNode order fields conditions node).Spares := by
  cases node with
  | terminal ids =>
    rw [scanNode]
    exact spares_ok ids
  | inner level =>
    rw [scanNode]
    -- what is taken of a level are entries of the level
    cases htaken : taken (fields.head?.any order.isReverse) conditions.head?
        (scanEntries order fields.tail conditions.tail level) with
    | error e =>
      have hspares := spares_taken (fields.head?.any order.isReverse) conditions.head?
        (scanEntries order fields.tail conditions.tail level)
      exact spares_error_iff.mpr (hspares e htaken)
    | ok rs =>
      refine spares_joined fun r hr => ?_
      obtain ⟨k, hk⟩ := exists_mem_of_taken htaken hr
      exact spares_scanEntries order fields.tail conditions.tail level (k, r.2) hk

/-- Each entry of a level is scanned for itself. -/
theorem spares_scanEntries (order : ScanOrder) (fields : List String)
    (conditions : List Comparison) (level : Level) :
    ∀ r ∈ scanEntries order fields conditions level, r.2.Spares := by
  cases level with
  | nil =>
    rw [scanEntries]
    exact List.forall_mem_nil _
  | cons e level =>
    obtain ⟨k, node⟩ := e
    rw [scanEntries, List.forall_mem_cons]
    exact ⟨spares_scanNode order fields conditions node,
      spares_scanEntries order fields conditions level⟩

end

/-- The check that a condition fits its field is an error of the filter. -/
@[simp] theorem spares_check (fields : List String) (conditions : List Comparison) :
    (check fields conditions).Spares := by
  unfold check
  split
  · simp [Error.kind]
  · induction conditions generalizing fields with
    | nil => simp [checkFields]
    | cons c conditions ih =>
      cases fields with
      | nil => simp [checkFields]
      | cons field fields =>
        rw [checkFields]
        split
        · exact ih fields (by simp_all)
        · simp [Error.kind]

/-- Whether a scan looks at the tree fails with one of the selections. -/
@[simp] theorem spares_looksAtTree (conditions : List Comparison) :
    (looksAtTree conditions).Spares := by
  unfold looksAtTree
  split <;> simp

/-- A scan of a tree is checked first and then walked. -/
@[simp] theorem spares_scan (order : ScanOrder) (fields : List String)
    (conditions : List Comparison) (root : Level) : (scan order fields conditions root).Spares :=
  spares_bind (spares_check fields conditions) fun _ => spares_map (spares_scanNode _ _ _ _)

end Scan

/-- A text query that is refused is an error of the filter. -/
@[simp] theorem TextQuery.spares_parse (query : String) : (parse query).Spares := by
  unfold parse
  dsimp only
  repeat' split
  all_goals simp [Error.kind]

/-- A scan of a content in memory, of a tree or of postings. -/
@[simp] theorem Content.spares_scan (tokenizer : Text.Tokenizer) (d : IndexDescriptor)
    (order : ScanOrder) (conditions : List Comparison) (c : Content) :
    (c.scan tokenizer d order conditions).Spares := by
  unfold Content.scan
  split
  · refine spares_bind (Scan.spares_check _ _) fun _ => ?_
    refine spares_bind (Scan.spares_looksAtTree _) fun looks => ?_
    split <;> simp
  · split <;> simp [Error.kind]

/-! ### Filters and plans -/

/-- Values that cannot be compared with a bound are an error of the filter. -/
theorem Condition.spares_inRange (field : String) (op : RangeOp) (bound : Value)
    (vs : List Value) : (inRange field op bound vs).Spares := by
  induction vs with
  | nil => exact spares_ok false
  | cons v vs ih =>
    rw [inRange]
    split
    · simp [Error.kind]
    · split
      · simp
      · exact ih

/-- A condition fails on the value of its field only. -/
@[simp] theorem Comparison.spares_holds (c : Comparison) (d : Document) : (c.holds d).Spares := by
  unfold Comparison.holds Condition.holds
  split
  case h_3 => exact Condition.spares_inRange _ _ _ _
  case h_2 => split <;> simp
  all_goals simp

namespace Filter

mutual

/-- A filter fails in one of the conditions that it is made of. -/
theorem spares_apply (d : Document) (f : Filter) : (f.apply d).Spares := by
  cases f with
  | everything => simp [apply]
  | compare c => simp [apply]
  | pattern field p => simp [apply]
  | and terms =>
    rw [apply]
    exact spares_applyAll d terms
  | or branches =>
    rw [apply]
    exact spares_applyAny d branches
  | not f =>
    rw [apply]
    exact spares_map (spares_apply d f)

/-- A conjunction fails in the first of its terms that does. -/
theorem spares_applyAll (d : Document) (terms : List Filter) : (applyAll d terms).Spares := by
  cases terms with
  | nil => simp [applyAll]
  | cons f rest =>
    rw [applyAll]
    refine spares_bind (spares_apply d f) fun b => ?_
    split
    · exact spares_applyAll d rest
    · simp

/-- A disjunction fails in the first of its branches that does. -/
theorem spares_applyAny (d : Document) (branches : List Filter) :
    (applyAny d branches).Spares := by
  cases branches with
  | nil => simp [applyAny]
  | cons f rest =>
    rw [applyAny]
    refine spares_bind (spares_apply d f) fun b => ?_
    split
    · simp
    · exact spares_applyAny d rest

end

end Filter

namespace Plan

/-- A text condition without an index is an error of the filter. -/
theorem spares_requireFullText (ds : List IndexDescriptor) (cs : List Comparison) :
    (requireFullText ds cs).Spares := by
  induction cs with
  | nil => exact spares_ok ()
  | cons c cs ih =>
    rw [requireFullText]
    split
    · simp [Error.kind]
    · exact ih

/-- The plan of a conjunction fails for want of a full-text index only. -/
theorem spares_ofConjunction (f : Filter) (ds : List IndexDescriptor) :
    (ofConjunction f ds).Spares := by
  unfold ofConjunction
  dsimp only
  split
  · exact spares_ok _
  · exact spares_map (spares_map (spares_requireFullText ds _))

/-- The plans of branches fail with the first branch that does. -/
theorem spares_ofBranches (ds : List IndexDescriptor) (branches : List Filter) :
    (ofBranches ds branches).Spares := by
  induction branches with
  | nil => exact spares_ok _
  | cons f branches ih =>
    refine spares_bind (spares_ofConjunction f ds) fun p => ?_
    split
    · exact spares_ok none
    · exact spares_map ih

/-- Planning asks no map: it goes by the descriptors that it is given. -/
@[simp] theorem spares_optimize (collation : Text.Collation) (f : Filter) (options : FindOptions)
    (ds : List IndexDescriptor) : (optimize collation f options ds).Spares := by
  refine spares_map ?_
  unfold ofFilter
  split
  · exact spares_map (spares_ofBranches ds _)
  · exact spares_ofConjunction f ds

end Plan

/-! ### Streams -/

namespace RecordStream

/-- The stages of a stream fail if a bound is negative. -/
@[simp] theorem spares_staged (residual : Option Filter) (keys : SortKeys)
    (collation : Option Text.Collation) (skip limit : Option Int) (source : RecordStream) :
    (staged residual keys collation skip limit source).Spares := by
  have hbound : ∀ name n, (bound name n).Spares := by
    intro name n
    unfold bound
    split
    · simp
    · split <;> simp [Error.kind]
  unfold staged between
  dsimp only
  split
  · exact spares_bind (hbound _ _) fun _ => spares_map (hbound _ _)
  · exact spares_ok _

/-- The row of an item under sort keys has the error of the item. -/
theorem spares_sortRow (keys : SortKeys) {item : Result Entry} (h : item.Spares) :
    (sortRow keys item).Spares := by
  refine spares_bind h fun entry => spares_map (spares_mapM fun key _ => ?_)
  unfold sortValue
  dsimp only
  split <;> simp [Error.kind]

variable {s : Store} {m : MapRef RecordId} {records : List Entry} {stream : RecordStream}

/-! A stage passes the errors of the stage below on, and adds errors of its own. -/

/-- A branch hands out what its stream does and then what comes next. -/
theorem spares_runBranch {later : List RecordStream} {next r : Run}
    (hnext : ∀ step ∈ next, step.1.Spares) (hr : ∀ step ∈ r, step.1.Spares) :
    ∀ step ∈ runBranch later next r, step.1.Spares := by
  induction r with
  | nil => exact hnext
  | cons step r ih =>
    obtain ⟨item, branch⟩ := step
    rw [List.forall_mem_cons] at hr
    cases item with
    | error e => exact List.forall_mem_singleton.mpr hr.1
    | ok entry => exact List.forall_mem_cons.mpr ⟨spares_ok entry, ih hr.2⟩

/-- Leaving repeats out adds no error. -/
theorem spares_runDistinct {seen : List RecordId} {r : Run} (hr : ∀ step ∈ r, step.1.Spares) :
    ∀ step ∈ runDistinct seen r, step.1.Spares := by
  induction r generalizing seen with
  | nil => exact List.forall_mem_nil _
  | cons step r ih =>
    obtain ⟨item, inner⟩ := step
    rw [List.forall_mem_cons] at hr
    cases item with
    | error e => exact List.forall_mem_cons.mpr ⟨hr.1, ih hr.2⟩
    | ok entry =>
      rw [runDistinct]
      split
      · exact ih hr.2
      · exact List.forall_mem_cons.mpr ⟨spares_ok entry, ih hr.2⟩

/-- A filter on a stream adds its own errors, which are not those of the store. -/
theorem spares_runFiltered {f : Filter} {r : Run} (hr : ∀ step ∈ r, step.1.Spares) :
    ∀ step ∈ runFiltered f r, step.1.Spares := by
  induction r with
  | nil => exact List.forall_mem_nil _
  | cons step r ih =>
    obtain ⟨item, inner⟩ := step
    rw [List.forall_mem_cons] at hr
    cases item with
    | error e => exact List.forall_mem_singleton.mpr hr.1
    | ok entry =>
      rw [runFiltered]
      split
      · rename_i e hfails
        have happly := Filter.spares_apply entry.2 f
        exact List.forall_mem_singleton.mpr (spares_error_iff.mpr (happly e hfails))
      · exact List.forall_mem_cons.mpr ⟨spares_ok entry, ih hr.2⟩
      · exact ih hr.2

/-- Bounds on a stream add no error. -/
theorem spares_runBounded {skip : Nat} {limit : Option Nat} {r : Run}
    (hr : ∀ step ∈ r, step.1.Spares) : ∀ step ∈ runBounded skip limit r, step.1.Spares := by
  induction r generalizing skip limit with
  | nil => rcases limit with _ | _ | limit <;> cases skip <;> exact List.forall_mem_nil _
  | cons step r ih =>
    obtain ⟨item, inner⟩ := step
    rw [List.forall_mem_cons] at hr
    -- only records are skipped
    rcases limit with _ | _ | limit
    · rcases skip with _ | skip <;> rcases item with e | entry
      · exact List.forall_mem_cons.mpr ⟨hr.1, ih hr.2⟩
      · exact List.forall_mem_cons.mpr ⟨hr.1, ih hr.2⟩
      · exact List.forall_mem_cons.mpr ⟨hr.1, ih hr.2⟩
      · exact ih hr.2
    · cases skip <;> cases item <;> exact List.forall_mem_nil _
    · rcases skip with _ | skip <;> rcases item with e | entry
      · exact List.forall_mem_cons.mpr ⟨hr.1, ih hr.2⟩
      · exact List.forall_mem_cons.mpr ⟨hr.1, ih hr.2⟩
      · exact List.forall_mem_cons.mpr ⟨hr.1, ih hr.2⟩
      · exact ih hr.2

/-- Sorting hands out what it is given, or an error that it is given or that a value causes. -/
theorem spares_runSorted {keys : SortKeys} {collation : Text.Collation} {r : Run}
    (hr : ∀ step ∈ r, step.1.Spares) : ∀ step ∈ runSorted keys collation r, step.1.Spares := by
  unfold runSorted
  split
  · rename_i e hfails
    have hrows := spares_mapM fun step hstep => spares_sortRow keys (hr step hstep)
    exact List.forall_mem_singleton.mpr (spares_error_iff.mpr (hrows e hfails))
  · rename_i rows _
    -- the rows stand as records
    induction sortRows collation keys rows with
    | nil => exact List.forall_mem_nil _
    | cons entry entries ih => exact List.forall_mem_cons.mpr ⟨spares_ok entry, ih⟩

/-- A stream over a map that is there yields no error of the store. -/
theorem Over.spares (h : Over m stream) (hread : (s.map m).read = .ok records) :
    ∀ step ∈ run s stream, step.1.Spares := by
  induction h with
  -- only a map that is gone makes an error here, and this one can be read
  | @walk w hmap hforward =>
    rw [run]
    intro step hstep
    obtain ⟨⟨item, w'⟩, hitem, rfl⟩ := List.mem_map.mp hstep
    rw [Walk.run, hmap, hread] at hitem
    split at hitem
    · cases hitem
    · obtain ⟨e, -, heq⟩ := List.mem_map.mp hitem
      cases heq
      exact spares_ok e
  | @lookup left =>
    rw [run]
    induction left with
    | nil => exact List.forall_mem_nil _
    | cons id left ih =>
      rw [runLookup, hread]
      dsimp only
      split
      · exact List.forall_mem_cons.mpr ⟨spares_ok _, ih⟩
      · exact ih
  | @union branches h ih =>
    rw [run]
    induction branches with
    | nil =>
      rw [runAll]
      exact List.forall_mem_nil _
    | cons branch later ihLater =>
      rw [List.forall_mem_cons] at h ih
      rw [runAll]
      exact spares_runBranch (ihLater h.2 ih.2) ih.1
  -- the other stages hand on the errors of their streams, or make errors of their own
  | distinct h ih =>
    rw [run]
    exact spares_runDistinct ih
  | filtered h ih =>
    rw [run]
    exact spares_runFiltered ih
  | sorted h ih =>
    rw [run]
    exact spares_runSorted ih
  | bounded h ih =>
    rw [run]
    exact spares_runBounded ih

end RecordStream

end DocumentDb
