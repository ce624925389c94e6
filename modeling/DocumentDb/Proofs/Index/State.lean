import DocumentDb.Config
import DocumentDb.Proofs.Index.Entries

/-!
# `DocumentDb.Proofs.Index.State`: an index as it stands

`IndexState` is an index with its flag and its content. The functions below say what the
parts of its life do to it: adding and removing the entries of a document, filling it from
all documents, taking entries back. They are the operations of `DocumentDb.Index.Lifecycle`
and `DocumentDb.Index.Upkeep` for one index, with the store taken out.
-/

set_option autoImplicit false

namespace DocumentDb

/-- An index as it stands. -/
structure IndexState where
  descriptor : IndexDescriptor
  dirty : Bool
  content : Content

namespace IndexState

/-- Adds the entries of a document. -/
def add (config : Config) (doc : Document) : Action IndexState Unit := fun i =>
  match config.extractor doc i.descriptor.fields with
  | .error e => (.error e, i)
  | .ok vs =>
    let (r, content) := (Content.write config.tokenizer i.descriptor vs).perform i.content
    (r, { i with content })

/-- Removes the entries of a document. -/
def remove (config : Config) (doc : Document) : Action IndexState Unit := fun i =>
  match config.extractor doc i.descriptor.fields with
  | .error e => (.error e, i)
  | .ok vs =>
    let (r, content) := (Content.erase config.tokenizer i.descriptor vs).perform i.content
    (r, { i with content })

variable {config : Config} {doc : Document} {i : IndexState}

/-- What the extractor reports, an addition reports, and leaves the index as it is. -/
theorem perform_add_error {e : Error} (h : config.extractor doc i.descriptor.fields = .error e) :
    (add config doc).perform i = (.error e, i) := by
  simp only [Action.perform, add, h]

/-- An addition writes the values that the extractor gives into the content. -/
theorem perform_add_ok {vs : FieldValues}
    (h : config.extractor doc i.descriptor.fields = .ok vs) :
    (add config doc).perform i
      = (((Content.write config.tokenizer i.descriptor vs).perform i.content).1,
          { i with content :=
            ((Content.write config.tokenizer i.descriptor vs).perform i.content).2 }) := by
  simp only [Action.perform, add, h]

/-- What the extractor reports, a removal reports too. -/
theorem perform_remove_error {e : Error}
    (h : config.extractor doc i.descriptor.fields = .error e) :
    (remove config doc).perform i = (.error e, i) := by
  simp only [Action.perform, remove, h]

/-- A removal erases the values that the extractor gives from the content. -/
theorem perform_remove_ok {vs : FieldValues}
    (h : config.extractor doc i.descriptor.fields = .ok vs) :
    (remove config doc).perform i
      = (((Content.erase config.tokenizer i.descriptor vs).perform i.content).1,
          { i with content :=
            ((Content.erase config.tokenizer i.descriptor vs).perform i.content).2 }) := by
  simp only [Action.perform, remove, h]

/-- An addition keeps the descriptor. -/
@[simp] theorem add_descriptor (config : Config) (doc : Document) (i : IndexState) :
    ((add config doc).perform i).2.descriptor = i.descriptor := by
  simp only [Action.perform, add]
  split <;> rfl

/-- It keeps the mark. -/
@[simp] theorem add_dirty (config : Config) (doc : Document) (i : IndexState) :
    ((add config doc).perform i).2.dirty = i.dirty := by
  simp only [Action.perform, add]
  split <;> rfl

/-- A removal keeps the descriptor. -/
@[simp] theorem remove_descriptor (config : Config) (doc : Document) (i : IndexState) :
    ((remove config doc).perform i).2.descriptor = i.descriptor := by
  simp only [Action.perform, remove]
  split <;> rfl

/-- It keeps the mark. -/
@[simp] theorem remove_dirty (config : Config) (doc : Document) (i : IndexState) :
    ((remove config doc).perform i).2.dirty = i.dirty := by
  simp only [Action.perform, remove]
  split <;> rfl

/-- Adds the entries of documents, up to the first that is refused. -/
def addAll (config : Config) : List Document → Action IndexState Unit
  | [] => pure ()
  | doc :: rest => do
    add config doc
    addAll config rest

/-- Documents are added in turn, up to the first that is refused. -/
theorem perform_addAll_cons (config : Config) (doc : Document) (docs : List Document)
    (i : IndexState) :
    (addAll config (doc :: docs)).perform i
      = match (add config doc).perform i with
        | (.ok (), i') => (addAll config docs).perform i'
        | (.error e, i') => (.error e, i') := by
  rw [addAll, Action.perform_bind]
  rcases (add config doc).perform i with ⟨_ | _, _⟩ <;> rfl

/-- Adding documents keeps the descriptor. -/
@[simp] theorem addAll_descriptor (config : Config) (docs : List Document) (i : IndexState) :
    ((addAll config docs).perform i).2.descriptor = i.descriptor := by
  induction docs generalizing i with
  | nil => rfl
  | cons doc docs ih =>
    rw [perform_addAll_cons, ← add_descriptor config doc i]
    split
    · rename_i i' hadd
      rw [ih, hadd]
    · rename_i e i' hadd
      rw [hadd]

/-- It keeps the mark. -/
@[simp] theorem addAll_dirty (config : Config) (docs : List Document) (i : IndexState) :
    ((addAll config docs).perform i).2.dirty = i.dirty := by
  induction docs generalizing i with
  | nil => rfl
  | cons doc docs ih =>
    rw [perform_addAll_cons, ← add_dirty config doc i]
    split
    · rename_i i' hadd
      rw [ih, hadd]
    · rename_i e i' hadd
      rw [hadd]

/-- The index when a build begins: dirty, and emptied if it is built anew. -/
def begun (rebuild : Bool) (i : IndexState) : IndexState :=
  { i with dirty := true, content := if rebuild then i.content.cleared else i.content }

/-- The rest of a build. The index stays dirty if one of the documents is refused. -/
def complete (config : Config) (docs : List Document) : Action IndexState Unit := do
  addAll config docs
  modify fun i => { i with dirty := false }

/-- Fills an index from documents. -/
def fill (config : Config) (docs : List Document) (rebuild : Bool) : Action IndexState Unit := do
  modify (begun rebuild)
  complete config docs

/-- Completing an index adds the documents and, if none is refused, takes the mark away. -/
theorem perform_complete (config : Config) (docs : List Document) (i : IndexState) :
    (complete config docs).perform i
      = match (addAll config docs).perform i with
        | (.ok (), i') => (.ok (), { i' with dirty := false })
        | (.error e, i') => (.error e, i') := by
  unfold complete
  simp only [Action.perform_bind, Action.perform_modify]
  rcases (addAll config docs).perform i with ⟨_ | _, _⟩ <;> rfl

/-- Filling an index is completing it from where it begins: cleared for a rebuild, and marked in any
case. -/
theorem perform_fill (config : Config) (docs : List Document) (rebuild : Bool) (i : IndexState) :
    (fill config docs rebuild).perform i = (complete config docs).perform (begun rebuild i) := by
  rw [fill, Action.perform_bind, Action.perform_modify]

/-- Completing an index keeps its descriptor. -/
@[simp] theorem complete_descriptor (config : Config) (docs : List Document) (i : IndexState) :
    ((complete config docs).perform i).2.descriptor = i.descriptor := by
  rw [perform_complete, ← addAll_descriptor config docs i]
  split
  · rename_i i' hadd
    rw [hadd]
  · rename_i e i' hadd
    rw [hadd]

/-- Filling an index keeps its descriptor. -/
@[simp] theorem fill_descriptor (config : Config) (docs : List Document) (rebuild : Bool)
    (i : IndexState) : ((fill config docs rebuild).perform i).2.descriptor = i.descriptor := by
  rw [perform_fill, complete_descriptor]
  rfl

/-- A build that comes to its end leaves the index clean. -/
theorem fill_dirty {config : Config} {docs : List Document} {rebuild : Bool} {i i' : IndexState}
    (h : (fill config docs rebuild).perform i = (.ok (), i')) : i'.dirty = false := by
  rw [perform_fill, perform_complete] at h
  split at h
  · obtain ⟨-, rfl⟩ := Prod.mk.inj h
    rfl
  · cases h

/-- A build that fails leaves the index dirty. -/
theorem dirty_of_fill_error {config : Config} {docs : List Document} {rebuild : Bool}
    {i i' : IndexState} {e : Error} (h : (fill config docs rebuild).perform i = (.error e, i')) :
    i'.dirty = true := by
  have hkept := addAll_dirty config docs (begun rebuild i)
  rw [perform_fill, perform_complete] at h
  split at h
  · cases h
  · rename_i hadd
    obtain ⟨-, rfl⟩ := Prod.mk.inj h
    rw [hadd] at hkept
    exact hkept

/-- The index after the entries of a document have been taken back. What goes wrong is passed
over. -/
def undone (config : Config) (doc : Document) (i : IndexState) : IndexState :=
  ((remove config doc).perform i).2

/-- Taking an addition back keeps the descriptor. -/
@[simp] theorem undone_descriptor (config : Config) (doc : Document) (i : IndexState) :
    (i.undone config doc).descriptor = i.descriptor := remove_descriptor config doc i

end IndexState

end DocumentDb
