import DocumentDb.Collection
import DocumentDb.Proofs.RecordId
import DocumentDb.Proofs.Upkeep

/-!
# `DocumentDb.Proofs.Writing`: writes seen from the view

`insert_written`, `does_update_written` and `does_remove_read` say what the writes of a collection
do to its view: they are `View.insert`, `View.update` and `View.remove` for a record that is new or
there, as it has to be, and leave the view alone otherwise. What is stored is what the processors
make of a document. `insert_spec`, `does_update` and `does_remove_there` are the same for
collections without processors. The listener does nothing.
-/

set_option autoImplicit false

namespace DocumentDb.Session

open SortedEntries (Sorted)

variable {σ α : Type} {s : Session σ} {id : RecordId}

/-! ### Records -/

/-- The session with other records. -/
def withRecords (s : Session σ) (records : List (RecordId × Document)) : Session σ :=
  { s with store := s.store.setEntries s.collection.records records }

/-- A session shows the records that have been set in it. -/
theorem Sound.reaches_withRecords (h : s.Sound) {records : List (RecordId × Document)}
    (hsorted : Sorted records) :
    Reaches s (s.withRecords records) { s.view with records } := by
  have hplaces : s.store.SamePlaces (s.withRecords records).store :=
    ⟨Store.openPosition?_modify _ _ _, fun _ => rfl, fun _ => rfl, fun _ => rfl⟩
  have hentries : (s.withRecords records).recordEntries = records :=
    (Store.entriesOf_modify h.records records _).trans (if_pos rfl)
  have hsorted' : Sorted (s.withRecords records).recordEntries := hentries.symm ▸ hsorted
  have hreach := h.reaches_samePlaces hplaces rfl hsorted' rfl
  refine ⟨hreach.sound, ?_, hreach.serves⟩
  unfold view
  rw [hentries]
  rfl

variable {r : MapRef RecordId}

/-- Putting a record sets it in the view. -/
theorem does_putRecord (h : s.Sound) (hr : r = s.view.recordMap) (id : RecordId)
    (doc : Document) : Does (onStore (r.put id doc)) s (.ok ()) (s.view.setRecord id doc) := by
  subst hr
  refine ⟨_, ?_, h.reaches_withRecords (h.recordsSorted.insert (k := id) (v := doc))⟩
  exact congrArg (fun p => (p.1, { s with store := p.2 })) (MapRef.perform_put h.records id doc)

/-- Erasing a record takes it out of the view, and answers with it. -/
theorem does_eraseRecord (h : s.Sound) (hr : r = s.view.recordMap) (id : RecordId) :
    Does (onStore (r.erase id)) s (.ok (s.view.record id)) (s.view.eraseRecord id) := by
  subst hr
  refine ⟨_, ?_, h.reaches_withRecords (h.recordsSorted.erase (k := id))⟩
  exact congrArg (fun p => (p.1, { s with store := p.2 })) (MapRef.perform_erase h.records id)

/-- Reading a record changes nothing. -/
theorem does_getRecord (h : s.Sound) (hr : r = s.view.recordMap) (id : RecordId) :
    Does (onStore (r.get? id)) s (.ok (s.view.record id)) s.view := by
  subst hr
  refine ⟨s, ?_, Reaches.refl h⟩
  exact congrArg (fun p => (p.1, { s with store := p.2 })) (MapRef.perform_get? h.records id)

/-- Asking for a record changes nothing. -/
theorem does_containsRecord (h : s.Sound) (hr : r = s.view.recordMap) (id : RecordId) :
    Does (onStore (r.contains id)) s (.ok (s.view.record id).isSome) s.view := by
  subst hr
  refine ⟨s, ?_, Reaches.refl h⟩
  exact congrArg (fun p => (p.1, { s with store := p.2 })) (MapRef.perform_contains h.records id)

/-! ### Ids -/

/-- The id that a document would be given now if it named none. -/
def nextId (s : Session σ) : RecordId := (s.collection.generator.issue (s.clock + 1)).1

/-- The id under which a new document is stored, and the document with it: the id that it names,
or else a new one. -/
def assigned (s : Session σ) (d : Document) : Result (RecordId × Document) :=
  d.id.map fun named =>
    match named with
    | some id => (id, d)
    | none => (s.nextId, d.setId s.nextId)

/-- A new id changes nothing that shows. -/
theorem does_newId (h : s.Sound) : Does Collection.newId s (.ok s.nextId) s.view :=
  ⟨_, rfl, { h with }, rfl, fun _ _ hx => hx⟩

/-- An operation on a value that is there. -/
theorem does_ofResult_bind {β : Type} {a : α} {f : α → SessionM σ β} {r : Result β} {v : View}
    (hf : Does (f a) s r v) : Does (Action.ofResult (.ok a) >>= f) s r v := hf

/-- An operation on the session as it is. -/
theorem does_get_bind {β : Type} {f : Session σ → SessionM σ β} {r : Result β} {v : View}
    (hf : Does (f s) s r v) : Does (get >>= f) s r v := hf

/-- A document gets an id, unless it names something that is none. -/
theorem does_withId (h : s.Sound) (d : Document) :
    Does (Collection.withId d) s (s.assigned d) s.view := by
  unfold Collection.withId assigned
  cases d.id with
  | error e => exact (does_ofResult h _).bind_error
  | ok named =>
    refine does_ofResult_bind ?_
    cases named with
    | some id => exact does_pure h (id, d)
    | none => exact (does_newId h).bind_ok fun s' hs' => hs'.pure (s.nextId, d.setId s.nextId)

/-- The document carries the id then. -/
theorem id_of_assigned {d doc : Document} (h : s.assigned d = .ok (id, doc)) :
    doc.id = .ok (some id) := by
  obtain ⟨named, hnamed, hassigned⟩ := Result.map_eq_ok_iff.mp h
  cases named with
  | some id' =>
    cases hassigned
    exact hnamed
  | none =>
    cases hassigned
    exact d.id_setId s.nextId

/-! ### Writes -/

variable {doc old new d : Document}

/-- Storing a document under an id that no record has. -/
theorem does_store (h : s.Sound) (id : RecordId) (doc : Document)
    (hr : r = s.view.recordMap) (hnew : s.view.record id = none) :
    Does (do
      onStore (r.put id doc)
      match ← (Indexing.writeEntries Listener.silent doc).attempt with
      | .ok _ => return id
      | .error e =>
        let _ ← onStore (r.erase id)
        throw e) s
      ((s.view.insert id doc).1.map fun _ => id) (s.view.insert id doc).2 := by
  refine (does_putRecord h hr id doc).bind_ok fun s₁ hs₁ => ?_
  have hwrite := (does_writeEntries hs₁.sound doc).attempt
  rw [hs₁.view] at hwrite
  unfold View.insert
  have hindexes : (s.view.setRecord id doc).indexes = s.view.indexes := rfl
  rw [hindexes] at hwrite
  rcases hrun : (s.view.setRecord id doc).writeEach doc s.view.indexes with ⟨e | _, is⟩
  · rw [hrun] at hwrite
    refine hwrite.bind_ok fun s₂ hs₂ => ?_
    -- an index has refused the document, so the record is taken out again
    have herase := does_eraseRecord hs₂.sound (r := r) (by rw [hs₂.view, hr]; rfl) id
    rw [hs₂.view, View.eraseRecord_setRecord h.recordsSorted is hnew] at herase
    exact herase.bind_ok fun s₃ hs₃ => hs₃.throw e
  · rw [hrun] at hwrite
    exact hwrite.bind_ok fun s₂ hs₂ => hs₂.pure id

/-- A sound session is open. -/
theorem perform_checkOpen (h : s.Sound) : Collection.checkOpen.perform s = (.ok (), s) := by
  unfold Collection.checkOpen
  simp only [Action.perform_bind, perform_here, h.undropped, Bool.false_eq_true, if_false,
    Action.perform_pure]

/-- What every operation does first. -/
theorem does_open_bind {f : Collection → SessionM σ α} {r : Result α} {v : View} (h : s.Sound)
    (hf : Does (f s.collection) s r v) :
    Does (do
      Collection.checkOpen
      let c ← here
      f c) s r v := by
  obtain ⟨s', hs', hreach⟩ := hf
  refine ⟨s', ?_, hreach⟩
  rw [Action.perform_bind, perform_checkOpen h]
  exact hs'

/-- In a sound session the check that the collection is open may go before anything. -/
theorem Does.opened {x : SessionM σ α} {r : Result α} {v : View} (hx : Does x s r v)
    (h : s.Sound) :
    Does (do
      Collection.checkOpen
      x) s r v := by
  obtain ⟨s', hs', hreach⟩ := hx
  refine ⟨s', ?_, hreach⟩
  rw [Action.perform_bind, perform_checkOpen h]
  exact hs'

/-- The same for what ends in one of several ways. -/
theorem Ends.opened {x : SessionM σ α} {r : Result α} {v : View} (hx : Ends x s r v)
    (h : s.Sound) :
    Ends (do
      Collection.checkOpen
      x) s r v := by
  obtain ⟨s', hs', hend⟩ := hx
  refine ⟨s', ?_, hend⟩
  rw [Action.perform_bind, perform_checkOpen h]
  exact hs'

/-- Without processors a document is written as it is. -/
theorem writeAll_of_no_processors (hp : s.view.processors = []) (d : Document) :
    Processor.writeAll s.view.processors d = .ok d := by
  rw [hp]
  rfl

/-- Inserting a document stores what the processors make of it under an id that no record has, or
is refused before anything has changed. -/
theorem insert_written (h : s.Sound) {w : Document}
    (hwritten : Processor.writeAll s.view.processors d = .ok w) :
    ((∃ e, Does (Collection.insert Listener.silent d) s (.error e) s.view) ∧
        ∀ id doc, s.assigned w = .ok (id, doc) → ∃ old, s.view.record id = some old) ∨
      ∃ id doc, s.assigned w = .ok (id, doc) ∧ s.view.record id = none ∧
        Does (Collection.insert Listener.silent d) s
          ((s.view.insert id doc).1.map fun _ => id) (s.view.insert id doc).2 := by
  change Processor.writeAll s.collection.processors d = .ok w at hwritten
  have hwithId := does_withId h w
  unfold Collection.insert
  cases hassigned : s.assigned w with
  | error e =>
    rw [hassigned] at hwithId
    refine Or.inl ⟨⟨e, does_open_bind h ?_⟩, nofun⟩
    rw [hwritten]
    exact does_ofResult_bind hwithId.bind_error
  | ok named =>
    obtain ⟨id, doc⟩ := named
    rw [hassigned] at hwithId
    cases hrecord : s.view.record id with
    -- the id is taken, and nothing has been written yet
    | some old =>
      refine Or.inl ⟨⟨.recordExists id s.view.name, does_open_bind h ?_⟩, ?_⟩
      · rw [hwritten]
        refine does_ofResult_bind (hwithId.bind_ok fun s₁ hs₁ => ?_)
        have hcontains := does_containsRecord hs₁.sound (r := s.collection.records)
          (by rw [hs₁.view]; rfl) id
        rw [hs₁.view, hrecord] at hcontains
        exact hcontains.bind_ok fun s₂ hs₂ => hs₂.throw _
      · intro id' doc' hnamed
        cases hnamed
        exact ⟨old, hrecord⟩
    | none =>
      refine Or.inr ⟨id, doc, rfl, hrecord, does_open_bind h ?_⟩
      rw [hwritten]
      refine does_ofResult_bind (hwithId.bind_ok fun s₁ hs₁ => ?_)
      have hcontains := does_containsRecord hs₁.sound (r := s.collection.records)
        (by rw [hs₁.view]; rfl) id
      rw [hs₁.view, hrecord] at hcontains
      refine hcontains.bind_ok fun s₂ hs₂ => ?_
      -- the record is stored before any index is reached
      have hstore := does_store hs₂.sound id doc (r := s.collection.records)
        (by rw [hs₂.view]; rfl) (by rw [hs₂.view]; exact hrecord)
      rw [hs₂.view] at hstore
      exact hstore

/-- A processor that refuses a document keeps it from being inserted. -/
theorem does_insert_unwritten (h : s.Sound) {e : Error}
    (hrefused : Processor.writeAll s.view.processors d = .error e) :
    Does (Collection.insert Listener.silent d) s (.error e) s.view := by
  change Processor.writeAll s.collection.processors d = .error e at hrefused
  refine does_open_bind h ?_
  rw [hrefused]
  exact (does_ofResult h _).bind_error

/-- Inserting a document stores it under an id that no record has, or is refused before
anything has changed. -/
theorem insert_spec (h : s.Sound) (hp : s.view.processors = []) (d : Document) :
    ((∃ e, Does (Collection.insert Listener.silent d) s (.error e) s.view) ∧
        ∀ id doc, s.assigned d = .ok (id, doc) → ∃ old, s.view.record id = some old) ∨
      ∃ id doc, s.assigned d = .ok (id, doc) ∧ s.view.record id = none ∧
        Does (Collection.insert Listener.silent d) s
          ((s.view.insert id doc).1.map fun _ => id) (s.view.insert id doc).2 :=
  insert_written h (writeAll_of_no_processors hp d)

/-- A document that names an id that no record has is stored under it as it is. -/
theorem does_insert_named (h : s.Sound) (hp : s.view.processors = [])
    (hid : d.id = .ok (some id)) (hnew : s.view.record id = none) :
    Does (Collection.insert Listener.silent d) s ((s.view.insert id d).1.map fun _ => id)
      (s.view.insert id d).2 := by
  have hnamed : s.assigned d = .ok (id, d) := by
    rw [assigned, hid]
    rfl
  rcases insert_spec h hp d with ⟨-, htaken⟩ | ⟨id', doc, hassigned, -, hinsert⟩
  · obtain ⟨old, hold⟩ := htaken id d hnamed
    rw [hnew] at hold
    cases hold
  · rw [hnamed] at hassigned
    cases hassigned
    exact hinsert

/-- Updating a record that is not there. -/
theorem does_update_missing (h : s.Sound) (hnone : s.view.record id = none) (d : Document) :
    Does (Collection.update Listener.silent id d) s (.error (.noRecord id s.view.name)) s.view := by
  refine does_open_bind h ((does_getRecord h rfl id).bind_ok fun s₁ hs₁ => ?_)
  rw [hnone]
  exact hs₁.throw _

/-- Updating a record that is there to what the processors make of a document. -/
theorem does_update_written (h : s.Sound) {w : Document}
    (hwritten : Processor.writeAll s.view.processors d = .ok w)
    (hold : s.view.record id = some old) :
    Does (Collection.update Listener.silent id d) s
      (s.view.update id old (w.setId id)).1 (s.view.update id old (w.setId id)).2 := by
  change Processor.writeAll s.collection.processors d = .ok w at hwritten
  refine does_open_bind h ((does_getRecord h rfl id).bind_ok fun s₁ hs₁ => ?_)
  rw [hold]
  dsimp only
  rw [hwritten]
  refine does_ofResult_bind ?_
  have hput := does_putRecord hs₁.sound (r := s.collection.records) (by rw [hs₁.view]; rfl) id
    (w.setId id)
  rw [hs₁.view] at hput
  refine hput.bind_ok fun s₂ hs₂ => ?_
  have hreplace := (does_updateEntries hs₂.sound old (w.setId id)).attempt
  rw [hs₂.view] at hreplace
  unfold View.update
  have hindexes : (s.view.setRecord id (w.setId id)).indexes = s.view.indexes := rfl
  rw [hindexes] at hreplace
  rcases hrun : (s.view.setRecord id (w.setId id)).replaceEach old (w.setId id) s.view.indexes
    with ⟨e | _, is⟩
  · rw [hrun] at hreplace
    refine hreplace.bind_ok fun s₃ hs₃ => ?_
    -- an index has refused, so the old version is stored again
    have hback := does_putRecord hs₃.sound (r := s.collection.records)
      (by rw [hs₃.view]; rfl) id old
    rw [hs₃.view, View.setRecord_setRecord h.recordsSorted is hold] at hback
    exact hback.bind_ok fun s₄ hs₄ => hs₄.throw e
  · rw [hrun] at hreplace
    exact hreplace.bind_ok fun s₃ hs₃ => hs₃.pure ()

/-- A processor that refuses the new version keeps the record from being updated. -/
theorem does_update_unwritten (h : s.Sound) {e : Error}
    (hrefused : Processor.writeAll s.view.processors d = .error e)
    (hold : s.view.record id = some old) :
    Does (Collection.update Listener.silent id d) s (.error e) s.view := by
  change Processor.writeAll s.collection.processors d = .error e at hrefused
  refine does_open_bind h ((does_getRecord h rfl id).bind_ok fun s₁ hs₁ => ?_)
  rw [hold]
  dsimp only
  rw [hrefused, ← hs₁.view]
  exact (does_ofResult hs₁.sound _).bind_error

/-- Updating a record that is there. -/
theorem does_update (h : s.Sound) (hp : s.view.processors = [])
    (hold : s.view.record id = some old) (d : Document) :
    Does (Collection.update Listener.silent id d) s
      (s.view.update id old (d.setId id)).1 (s.view.update id old (d.setId id)).2 :=
  does_update_written h (writeAll_of_no_processors hp d) hold

/-- Removing a record that is not there. -/
theorem does_remove_missing (h : s.Sound) (hnone : s.view.record id = none) :
    Does (Collection.remove Listener.silent id) s (.ok none) s.view := by
  have herased : s.view.eraseRecord id = s.view := by
    have hsame : SortedEntries.erase id s.view.records = s.view.records :=
      h.recordsSorted.erase_eq_self hnone
    unfold View.eraseRecord
    rw [hsame]
  have herase := does_eraseRecord h rfl id
  rw [herased, hnone] at herase
  exact does_open_bind h (herase.bind_ok fun s₁ hs₁ => hs₁.pure none)

/-- Removing a record that is there. What the processors make of it is read when it is gone. -/
theorem does_remove_read (h : s.Sound) (hold : s.view.record id = some old) :
    Does (Collection.remove Listener.silent id) s
      ((s.view.remove id old).1.bind fun _ => (Processor.readAll s.view.processors old).map some)
      (s.view.remove id old).2 := by
  have herase := does_eraseRecord h rfl id
  rw [hold] at herase
  refine does_open_bind h (herase.bind_ok fun s₁ hs₁ => ?_)
  have hforget := (does_removeEntries hs₁.sound old).attempt
  rw [hs₁.view] at hforget
  unfold View.remove
  have hindexes : (s.view.eraseRecord id).indexes = s.view.indexes := rfl
  rw [hindexes] at hforget
  rcases hrun : (s.view.eraseRecord id).forgetEach old s.view.indexes with ⟨e | _, is⟩
  · rw [hrun] at hforget
    refine hforget.bind_ok fun s₂ hs₂ => ?_
    -- an index has refused to forget the document, so the record is put back
    have hback := does_putRecord hs₂.sound (r := s.collection.records)
      (by rw [hs₂.view]; rfl) id old
    rw [hs₂.view, View.setRecord_eraseRecord h.recordsSorted is hold] at hback
    exact hback.bind_ok fun s₃ hs₃ => hs₃.throw e
  · rw [hrun] at hforget
    refine hforget.bind_ok fun s₂ hs₂ => does_here_bind ?_
    have hkept : s₂.collection.processors = s.view.processors := congrArg View.processors hs₂.view
    dsimp only
    rw [hkept, ← hs₂.view]
    exact (does_ofResult hs₂.sound _).then_map some

/-- Removing a record that is there. -/
theorem does_remove_there (h : s.Sound) (hp : s.view.processors = [])
    (hold : s.view.record id = some old) :
    Does (Collection.remove Listener.silent id) s
      ((s.view.remove id old).1.map fun _ => some old) (s.view.remove id old).2 := by
  have hremove := does_remove_read h hold
  rw [hp] at hremove
  exact hremove

/-! ### Several writes -/

/-- Inserting documents in turn keeps up what each insert keeps up. -/
theorem upholds_insertMany {I : View → Prop}
    (hone : ∀ d, Upholds I (Collection.insert Listener.silent d : SessionM σ RecordId))
    (ds : List Document) :
    Upholds I (Collection.insertMany Listener.silent ds : SessionM σ (List RecordId)) := by
  induction ds with
  | nil => exact upholds_pure []
  | cons d ds ih => exact (hone d).bind fun id => ih.bind fun ids => upholds_pure (id :: ids)

/-- The same of removals. -/
theorem upholds_removeEach {I : View → Prop}
    (hone : ∀ id, Upholds I (Collection.remove Listener.silent id : SessionM σ (Option Document)))
    (ids : List RecordId) :
    Upholds I (Collection.removeEach Listener.silent ids : SessionM σ Nat) := by
  induction ids with
  | nil => exact upholds_pure 0
  | cons id ids ih => exact (hone id).bind fun found => ih.bind fun count => upholds_pure _

end DocumentDb.Session
