import DocumentDb.Proofs.Coupling
import DocumentDb.Proofs.Planning

/-!
# `DocumentDb.Proofs.Requests`: every operation runs in step

A `Request` is an operation with all it is given, and `Request.run` performs it with its answer.
`Simulation` is a relation of sessions that survives quiet steps (`Couples`) and builds. Then
every request runs in step from related sessions (`Simulation.request`): one answer, and related
sessions again. What is proved here of a single request carries over to all sequences of them
(`Simulation.requests`).

The proofs go through the operations in the order in which they are put together: the upkeep of
one index, its loops, the search for a plan, the stream of a plan, and the operations of a
collection. A build is taken as a whole everywhere.
-/

set_option autoImplicit false

namespace DocumentDb

/-- The operations of a collection that is open, by the type of their answers. -/
inductive Request : Type → Type 1
  | insert (d : Document) : Request RecordId
  | insertMany (ds : List Document) : Request (List RecordId)
  | update (id : RecordId) (d : Document) : Request Unit
  | remove (id : RecordId) : Request (Option Document)
  | removeWhere (f : Filter) : Request Nat
  | get (id : RecordId) : Request (Option Document)
  | size : Request Nat
  | explain (f : Filter) (options : FindOptions) : Request Plan
  | find (f : Filter) (options : FindOptions) : Request Cursor
  | createIndex (fields : FieldPath) (kind : IndexKind) : Request IndexDescriptor
  | rebuildIndex (fields : FieldPath) : Request Unit
  | dropIndex (fields : FieldPath) : Request Unit
  | dropAllIndexes : Request Unit
  | indexes : Request (List IndexDescriptor)
  | hasIndex (fields : FieldPath) : Request Bool
  | isIndexing (fields : FieldPath) : Request Bool

/-- Performs a request. -/
def Request.run {σ α : Type} (listener : Listener σ) : Request α → SessionM σ α
  | insert d => Collection.insert listener d
  | insertMany ds => Collection.insertMany listener ds
  | update id d => Collection.update listener id d
  | remove id => Collection.remove listener id
  | removeWhere f => Collection.removeWhere listener f
  | get id => Collection.get? id
  | size => Collection.size
  | explain f options => Collection.explain listener f options
  | find f options => Collection.find listener f options
  | createIndex fields kind => Collection.createIndex listener fields kind
  | rebuildIndex fields => Collection.rebuildIndex listener fields
  | dropIndex fields => Collection.dropIndex fields
  | dropAllIndexes => Collection.dropAllIndexes
  | indexes => Collection.indexes
  | hasIndex fields => Collection.hasIndex fields
  | isIndexing fields => Collection.isIndexing fields

/-- The session after requests, whether they succeed or fail. -/
def Request.performAll {σ : Type} (listener : Listener σ) (qs : List (Σ α, Request α))
    (s : Session σ) : Session σ :=
  qs.foldl (fun s q => ((q.2.run listener).perform s).2) s

namespace Session

variable {σ α β : Type}

/-- Relations that are kept by quiet steps and by builds. -/
structure Simulation (L : Listener σ) (k : Collection) (E : Error → Prop)
    (R : Session σ → Session σ → Prop) : Prop extends Couples k E R where
  builds : ∀ d rebuild, InStep R E (Indexing.tryBuild L d rebuild) (Indexing.tryBuild L d rebuild)
  creates : ∀ fields kind,
    InStep R E (Indexing.create L fields kind) (Indexing.create L fields kind)

namespace Couples

variable {k : Collection} {E : Error → Prop} {R : Session σ → Session σ → Prop} {s t : Session σ}
  (h : Couples k E R)

include h

/-! ### Questions -/

/-- Whether there is an index whose fields begin with some. -/
theorem has (fields : FieldPath) :
    InStep R E (Indexing.has fields : SessionM σ Bool) (Indexing.has fields) := by
  -- the question is answered from the list of the indexes
  have hlist : (Indexing.has fields : SessionM σ Bool) = Indexing.list >>= fun ds =>
      pure !(ds.filter (·.fields.startsWith fields)).isEmpty := by
    funext s
    show Action.perform _ s = Action.perform _ s
    unfold Catalog.has Catalog.matching Indexing.list
    simp only [perform_onCatalog, Action.perform_bind]
    rcases Catalog.descriptors.perform (s.store, s.collection.catalog) with ⟨_ | _, _⟩ <;> rfl
  rw [hlist]
  exact h.list.bind fun ds => inStep_pure _

/-- Whether an index is there and being built. -/
theorem isIndexing (fields : FieldPath) :
    InStep R E (Indexing.isIndexing fields : SessionM σ Bool) (Indexing.isIndexing fields) := by
  refine (h.has fields).bind fun found => ?_
  cases found with
  | true => exact h.isBuilding fields
  | false => exact inStep_pure false

/-- Whether a write has to rebuild an index first. -/
theorem shouldRebuild (fields : FieldPath) :
    InStep R E (Indexing.shouldRebuild fields : SessionM σ Bool)
      (Indexing.shouldRebuild fields) := by
  refine (h.isDirty fields).bind fun dirty => ?_
  cases dirty with
  | true => exact (h.isBuilding fields).bind fun building => inStep_pure _
  | false => exact inStep_pure false

/-! ### Documents -/

/-- Every operation is refused once the collection has been dropped, which these are not. -/
theorem checkOpen : InStep R E (Collection.checkOpen : SessionM σ Unit) Collection.checkOpen := by
  intro s t hR
  have ha := h.agree hR
  exact h.ask hR (perform_checkOpen ha.left) (perform_checkOpen ha.right) (by simp)

/-- A look at the collection, of which only what both have in common is used. -/
theorem here_bind {f g : Collection → SessionM σ β}
    (hf : ∀ c c', c.Matches k → c'.Matches k → InStep R E (f c) (g c')) :
    InStep R E (here >>= f) (here >>= g) :=
  fun s t hR =>
    InStepAt.here_bind (hf _ _ (h.agree hR).leftMatches (h.agree hR).rightMatches s t hR)

/-- What the processors make of a document to be written depends on nothing but the collection. -/
theorem writeDocument (d : Document) :
    InStep R E (Action.ofResult (Processor.writeAll k.processors d) : SessionM σ Document)
      (Action.ofResult (Processor.writeAll k.processors d)) :=
  fun _ _ hR => inStepAt_ofResult hR fun _ he => h.admits (Or.inr (Or.inr ⟨d, Or.inl he⟩))

/-- So does what they make of a document that has been read. -/
theorem readDocument (d : Document) :
    InStep R E (Action.ofResult (Processor.readAll k.processors d) : SessionM σ Document)
      (Action.ofResult (Processor.readAll k.processors d)) :=
  fun _ _ hR => inStepAt_ofResult hR fun _ he => h.admits (Or.inr (Or.inr ⟨d, Or.inr he⟩))

/-- A document without an id gets the same new one in both sessions. -/
theorem withId (d : Document) :
    InStep R E (Collection.withId d : SessionM σ _) (Collection.withId d) := by
  refine (h.inStep_ofResult (Document.spares_id d)).bind fun named => ?_
  cases named with
  | some id => exact inStep_pure _
  | none => exact h.newId.bind fun id => inStep_pure _

/-- Reading a record by its id. -/
theorem get? (id : RecordId) :
    InStep R E (Collection.get? id : SessionM σ _) (Collection.get? id) := by
  refine h.checkOpen.bind fun _ => h.here_bind fun c c' hc hc' => ?_
  rw [hc.records, hc.processors, hc'.records, hc'.processors]
  refine (h.getRecord id).bind fun found => ?_
  cases found with
  | none => exact inStep_pure none
  | some d => exact (h.readDocument d).bind fun d' => inStep_pure _

/-- Counting the records. -/
theorem size : InStep R E (Collection.size : SessionM σ Nat) Collection.size := by
  refine h.checkOpen.bind fun _ => h.here_bind fun c c' hc hc' => ?_
  rw [hc.records, hc'.records]
  refine h.onRecords (·.size) fun u hu => ⟨u.view.records.length, u.view, u, ?_, Reaches.refl hu⟩
  rw [perform_onStore, MapRef.size, Action.perform_bind, MapRef.perform_entries hu.records]
  rfl

/-! ### The upkeep of one index -/

/-- Writing the entries of a document to one index. The handle is good when it is used. -/
theorem writeEntry (doc : Document) (d : IndexDescriptor) :
    InStep R E (Indexing.writeEntry doc d : SessionM σ _) (Indexing.writeEntry doc d) := by
  intro s t hR
  refine h.handle_bind hR fun x d' s₁ t₁ _ hR₁ hx => h.valuesOf_bind hR₁ fun vs => ?_
  exact (h.write hR₁ hx vs).bind fun _ s₂ t₂ _ _ hR₂ => inStepAt_pure hR₂ x

/-- What goes wrong in a roll back is passed over, so any handles will do. -/
theorem rollBack (doc : Document) (written : List (IndexHandle × FieldPath)) :
    InStep R E (Indexing.rollBack doc written : SessionM σ Unit)
      (Indexing.rollBack doc written) := by
  induction written with
  | nil => exact inStep_pure ()
  | cons e written ih =>
    obtain ⟨x, fields⟩ := e
    intro s t hR
    have hany : Couples k (fun _ => True) R := ⟨h.agree, h.quiet, fun _ => trivial⟩
    have htaken : InStepAt R (fun _ => True)
        (Indexing.valuesOf doc fields >>= fun vs => Session.onStore (x.erase vs))
        (Indexing.valuesOf doc fields >>= fun vs => Session.onStore (x.erase vs)) s t :=
      hany.valuesOf_bind hR fun vs => h.takeBack hR x vs
    exact htaken.attempt_bind fun r s₁ t₁ hR₁ _ => ih s₁ t₁ hR₁

end Couples

namespace Simulation

variable {L : Listener σ} {k : Collection} {E : Error → Prop} {R : Session σ → Session σ → Prop}
  {s t : Session σ} (h : Simulation L k E R)

include h

/-- Settling a dirty index is a build or nothing, as the configuration says. -/
theorem settle (d : IndexDescriptor) :
    InStep R E (Indexing.settle L d) (Indexing.settle L d) := by
  refine h.here_bind fun c c' hc hc' => ?_
  rw [hc.config, hc'.config]
  split
  · exact h.builds d true
  · exact Couples.inStep_pure true

/-- Bringing one index up to a document: by a rebuild if it was dirty and can be settled, and by
writing the entries otherwise. -/
theorem bringUp (doc : Document) (d : IndexDescriptor) (dirty : Bool) :
    InStep R E (Indexing.bringUp L doc d dirty) (Indexing.bringUp L doc d dirty) := by
  have hwrite : InStep R E (do return some (← Indexing.writeEntry doc d))
      (do return some (← Indexing.writeEntry doc d)) :=
    (h.writeEntry doc d).bind fun x => Couples.inStep_pure (some x)
  unfold Indexing.bringUp
  cases dirty with
  | false => exact hwrite
  | true =>
    refine (h.settle d).bind fun settled => ?_
    cases settled with
    | false => exact hwrite
    | true =>
      refine h.here_bind fun c c' hc hc' => ?_
      rw [hc.config, hc'.config]
      split
      · exact (h.handle d).bind fun x => Couples.inStep_pure (some x)
      · exact Couples.inStep_pure none

/-- Bringing several indexes up, in turn. At the first error the indexes that were written so far
are rolled back in both sessions. -/
theorem writeEach (doc : Document) (ds : List IndexDescriptor)
    (written : List (IndexHandle × FieldPath)) :
    InStep R E (Indexing.writeEach L doc ds written) (Indexing.writeEach L doc ds written) := by
  induction ds generalizing written with
  | nil => exact Couples.inStep_pure ()
  | cons d ds ih =>
    refine (h.shouldRebuild d.fields).bind fun dirty => ?_
    intro s t hR
    refine InStepAt.attempt_bind (h.bringUp doc d dirty s t hR) fun r s₁ t₁ hR₁ hr => ?_
    cases r with
    | error e =>
      refine (h.rollBack doc written s₁ t₁ hR₁).bind fun _ s₂ t₂ _ _ hR₂ => ?_
      exact inStepAt_throw hR₂ (hr e rfl)
    | ok x => exact ih _ s₁ t₁ hR₁

/-- Bringing all indexes up to a document. -/
theorem writeEntries (doc : Document) :
    InStep R E (Indexing.writeEntries L doc) (Indexing.writeEntries L doc) :=
  h.list.bind fun ds => h.writeEach doc ds []

/-- Taking the entries of a document out of several indexes, in turn. There is no roll back here. -/
theorem removeEach (doc : Document) (ds : List IndexDescriptor) :
    InStep R E (Indexing.removeEach L doc ds) (Indexing.removeEach L doc ds) := by
  induction ds with
  | nil => exact Couples.inStep_pure ()
  | cons d ds ih =>
    refine (h.shouldRebuild d.fields).bind fun dirty => ?_
    -- what remains to be done once it is known whether the index is settled
    have hrest : ∀ settled : Bool, InStep R E
        (if !settled then do
          let vs ← Indexing.valuesOf doc d.fields
          let x ← Indexing.handle d
          onStore (x.erase vs)
          Indexing.removeEach L doc ds
        else Indexing.removeEach L doc ds)
        (if !settled then do
          let vs ← Indexing.valuesOf doc d.fields
          let x ← Indexing.handle d
          onStore (x.erase vs)
          Indexing.removeEach L doc ds
        else Indexing.removeEach L doc ds) := by
      intro settled
      split
      · intro s t hR
        refine h.valuesOf_bind hR fun vs => ?_
        refine h.handle_bind hR fun x d' s₁ t₁ _ hR₁ hx => ?_
        exact (h.erase hR₁ hx vs).bind fun _ s₂ t₂ _ _ hR₂ => ih s₂ t₂ hR₂
      · exact ih
    dsimp only
    split
    · exact (h.settle d).bind hrest
    · exact (Couples.inStep_pure false).bind hrest

/-- Taking them out of all indexes. -/
theorem removeEntries (doc : Document) :
    InStep R E (Indexing.removeEntries L doc) (Indexing.removeEntries L doc) :=
  h.list.bind fun ds => h.removeEach doc ds

/-- Replacing the entries of a document. If those of the new version are refused, the old ones are
written again. -/
theorem updateEntries (old new : Document) :
    InStep R E (Indexing.updateEntries L old new) (Indexing.updateEntries L old new) := by
  refine (h.removeEntries old).bind fun _ s t hR => ?_
  refine InStepAt.attempt_bind (h.writeEntries new s t hR) fun r s₁ t₁ hR₁ hr => ?_
  cases r with
  | ok _ => exact inStepAt_pure hR₁ ()
  | error e =>
    refine InStepAt.attempt_bind (h.writeEntries old s₁ t₁ hR₁) fun r' s₂ t₂ hR₂ _ => ?_
    exact inStepAt_throw hR₂ (hr e rfl)

/-! ### Rebuilds -/

/-- Rebuilding the index on some fields. -/
theorem rebuild (fields : FieldPath) :
    InStep R E (Indexing.rebuild L fields) (Indexing.rebuild L fields) := by
  refine (h.find? fields).bind fun found => ?_
  cases found with
  | none => exact h.inStep_throw (by simp [Error.kind])
  | some d =>
    refine (h.builds d true).bind fun built => ?_
    cases built with
    | true => exact Couples.inStep_pure ()
    | false => exact h.inStep_throw (by simp [Error.kind])

/-! ### Queries -/

/-- Preparing an index for a query: it is left alone, rebuilt or withdrawn. -/
theorem prepare (d : IndexDescriptor) :
    InStep R E (Indexing.prepare L d) (Indexing.prepare L d) := by
  refine (h.isBuilding d.fields).bind fun building => ?_
  cases building with
  | true => exact Couples.inStep_pure false
  | false =>
    refine (h.isDirty d.fields).bind fun dirty => ?_
    cases dirty with
    | true => exact h.builds d true
    | false => exact Couples.inStep_pure true

/-- Preparing all indexes of a plan. -/
theorem prepareAll (ds : List IndexDescriptor) :
    InStep R E (Indexing.prepareAll L ds) (Indexing.prepareAll L ds) := by
  induction ds with
  | nil => exact Couples.inStep_pure []
  | cons d ds ih =>
    exact (h.prepare d).bind fun fit => ih.bind fun unfit => Couples.inStep_pure _

/-- Both rounds of planning withdraw the same indexes, so both go on or both are done. -/
theorem planOver {optimize : List IndexDescriptor → SessionM σ Plan}
    (hoptimize : ∀ ds, InStep R E (optimize ds) (optimize ds)) (candidates : List IndexDescriptor) :
    InStep R E (Indexing.planOver L optimize candidates)
      (Indexing.planOver L optimize candidates) := by
  induction hlength : candidates.length using Nat.strongRecOn generalizing candidates with
  | ind n ih =>
    rw [Indexing.planOver]
    refine (hoptimize candidates).bind fun plan => (h.prepareAll plan.indexes).bind fun unfit => ?_
    dsimp only
    split
    · exact ih _ (by omega) _ rfl
    · exact Couples.inStep_pure plan

/-- Choosing a plan. Both sessions offer the same indexes, since the same builds are running. -/
theorem explain (f : Filter) (options : FindOptions) :
    InStep R E (Collection.explain L f options) (Collection.explain L f options) := by
  refine h.checkOpen.bind fun _ => h.here_bind fun c c' hc hc' => ?_
  rw [hc.config, hc'.config]
  refine h.list.bind fun ds s t hR => InStepAt.here_bind ?_
  -- the indexes that are not being built are the same
  have hoffered : (ds.filter fun d => !t.collection.builds.isBuilding d.fields)
      = ds.filter fun d => !s.collection.builds.isBuilding d.fields :=
    List.filter_congr fun d _ => by rw [(h.agree hR).isBuilding_eq]
  dsimp only
  rw [hoffered]
  exact h.planOver (fun ds => h.inStep_ofResult (Plan.spares_optimize _ _ _ ds)) _ s t hR

end Simulation

namespace Couples

variable {k : Collection} {E : Error → Prop} {R : Session σ → Session σ → Prop}

mutual

/-- The stream of a plan. -/
theorem ofPlan (h : Couples k E R) (p : Plan) :
    InStep R E (RecordStream.ofPlan p : SessionM σ RecordStream) (RecordStream.ofPlan p) := by
  obtain ⟨source, scanOrder, residual, sort, collation, skip, limit⟩ := p
  rw [RecordStream.ofPlan]
  exact (ofSource h scanOrder source).bind fun stream =>
    h.inStep_ofResult (RecordStream.spares_staged _ _ _ _ _ _)

/-- The stream of a source: of the records, of some ids, of a scan or of the branches. -/
theorem ofSource (h : Couples k E R) (scanOrder : ScanOrder) (source : Source Plan) :
    InStep R E (RecordStream.ofSource scanOrder source : SessionM σ RecordStream)
      (RecordStream.ofSource scanOrder source) := by
  -- both sessions read from the same records
  have hlookup : ∀ ids, InStep R E
      (do return .lookup (← here).records ids : SessionM σ RecordStream)
      (do return .lookup (← here).records ids) := by
    intro ids
    refine h.here_bind fun c c' hc hc' => ?_
    rw [hc.records, hc'.records]
    exact inStep_pure _
  cases source with
  | collection =>
    rw [RecordStream.ofSource]
    refine h.here_bind fun c c' hc hc' => ?_
    rw [hc.records, hc'.records]
    exact inStep_pure _
  | byId v =>
    rw [RecordStream.ofSource]
    exact hlookup _
  | index d conditions =>
    rw [RecordStream.ofSource]
    refine InStep.bind (fun s t hR => ?_) hlookup
    exact h.handle_bind hR fun x d' s₁ t₁ _ hR₁ hx => h.scan hR₁ hx scanOrder conditions
  | union branches =>
    rw [RecordStream.ofSource]
    exact (ofAll h branches).bind fun streams => inStep_pure _

/-- The streams of several plans. -/
theorem ofAll (h : Couples k E R) (ps : List Plan) :
    InStep R E (RecordStream.ofAll ps : SessionM σ _) (RecordStream.ofAll ps) := by
  cases ps with
  | nil =>
    rw [RecordStream.ofAll]
    exact inStep_pure []
  | cons p rest =>
    rw [RecordStream.ofAll]
    exact (ofPlan h p).bind fun stream => (ofAll h rest).bind fun streams => inStep_pure _

end

end Couples

namespace Simulation

variable {L : Listener σ} {k : Collection} {E : Error → Prop} {R : Session σ → Session σ → Prop}
  {s t : Session σ} (h : Simulation L k E R)

include h

/-- A query: a plan is chosen, and its stream becomes a cursor. -/
theorem find (f : Filter) (options : FindOptions) :
    InStep R E (Collection.find L f options) (Collection.find L f options) := by
  refine (h.explain f options).bind fun p => (h.ofPlan p).bind fun stream => ?_
  refine h.here_bind fun c c' hc hc' => ?_
  rw [hc.processors, hc'.processors]
  exact Couples.inStep_pure _

/-! ### Writes -/

/-- Inserting a document. If the indexes refuse it, the record is erased again. -/
theorem insert (d : Document) : InStep R E (Collection.insert L d) (Collection.insert L d) := by
  refine h.checkOpen.bind fun _ => h.here_bind fun c c' hc hc' => ?_
  rw [hc.processors, hc.records, hc.name, hc'.processors, hc'.records, hc'.name]
  refine (h.writeDocument d).bind fun written => (h.withId written).bind fun ⟨id, doc⟩ => ?_
  refine (h.containsRecord id).bind fun there => ?_
  dsimp only
  split
  · exact fun s t hR => (h.inStep_throw (by simp [Error.kind]) s t hR).bind
      fun _ _ _ hs _ _ => nomatch hs
  · refine (h.putRecord id doc).bind fun _ s t hR => ?_
    refine InStepAt.attempt_bind (h.writeEntries doc s t hR) fun r s₁ t₁ hR₁ hr => ?_
    cases r with
    | ok _ => exact inStepAt_pure hR₁ id
    | error e =>
      refine (h.eraseRecord id s₁ t₁ hR₁).bind fun _ s₂ t₂ _ _ hR₂ => ?_
      exact inStepAt_throw hR₂ (hr e rfl)

/-- Inserting documents, up to the first that is refused. -/
theorem insertMany (ds : List Document) :
    InStep R E (Collection.insertMany L ds) (Collection.insertMany L ds) := by
  induction ds with
  | nil => exact Couples.inStep_pure []
  | cons d ds ih =>
    exact (h.insert d).bind fun id => ih.bind fun ids => Couples.inStep_pure (id :: ids)

/-- Replacing a record. If the indexes refuse the new version, the old one is put back. -/
theorem update (id : RecordId) (d : Document) :
    InStep R E (Collection.update L id d) (Collection.update L id d) := by
  refine h.checkOpen.bind fun _ => h.here_bind fun c c' hc hc' => ?_
  rw [hc.records, hc.processors, hc.name, hc'.records, hc'.processors, hc'.name]
  refine (h.getRecord id).bind fun found => ?_
  cases found with
  | none => exact h.inStep_throw (by simp [Error.kind])
  | some old =>
    refine (h.writeDocument d).bind fun written => ?_
    refine (h.putRecord id (written.setId id)).bind fun _ s t hR => ?_
    refine InStepAt.attempt_bind (h.updateEntries old (written.setId id) s t hR)
      fun r s₁ t₁ hR₁ hr => ?_
    cases r with
    | ok _ => exact inStepAt_pure hR₁ ()
    | error e =>
      refine (h.putRecord id old s₁ t₁ hR₁).bind fun _ s₂ t₂ _ _ hR₂ => ?_
      exact inStepAt_throw hR₂ (hr e rfl)

/-- Removing a record. If an index fails to forget it, the record is put back. -/
theorem remove (id : RecordId) :
    InStep R E (Collection.remove L id) (Collection.remove L id) := by
  refine h.checkOpen.bind fun _ => h.here_bind fun c c' hc hc' => ?_
  rw [hc.records, hc'.records]
  refine (h.eraseRecord id).bind fun found => ?_
  cases found with
  | none => exact Couples.inStep_pure none
  | some old =>
    intro s t hR
    refine InStepAt.attempt_bind (h.removeEntries old s t hR) fun r s₁ t₁ hR₁ hr => ?_
    cases r with
    | error e =>
      refine (h.putRecord id old s₁ t₁ hR₁).bind fun _ s₂ t₂ _ _ hR₂ => ?_
      exact inStepAt_throw hR₂ (hr e rfl)
    | ok _ =>
      refine h.here_bind (fun c c' hc hc' => ?_) s₁ t₁ hR₁
      rw [hc.processors, hc'.processors]
      exact (h.readDocument old).bind fun d => Couples.inStep_pure (some d)

/-- Removing records, in turn. -/
theorem removeRecords (ids : List RecordId) :
    InStep R E (Collection.removeEach L ids) (Collection.removeEach L ids) := by
  induction ids with
  | nil => exact Couples.inStep_pure 0
  | cons id ids ih =>
    exact (h.remove id).bind fun found => ih.bind fun count => Couples.inStep_pure _

/-- The records to remove are read off one store. -/
theorem removeWhere (f : Filter) :
    InStep R E (Collection.removeWhere L f) (Collection.removeWhere L f) := by
  refine (h.explain f {}).bind fun p s t hR => ?_
  refine (h.ofPlan p s t hR).bind fun stream s₁ t₁ hs₁ _ hR₁ => ?_
  have ha₁ := h.agree hR₁
  have hover := View.over_streamOf ((does_ofPlan (h.agree hR).left p).elim hs₁).1.symm
  have hreach := ((does_ofPlan (h.agree hR).left p).elim hs₁).2
  have hread : (s₁.store.map s.view.recordMap).read = .ok s₁.recordEntries := by
    rw [← hreach.view]
    exact congrArg NamedMap.read (Store.map_of_refers (s := s₁.store) ha₁.left.records)
  have hdrain : ((stream.drain s₁.store).mapM id).Spares := by
    refine Result.spares_mapM fun item hitem => ?_
    obtain ⟨step, hstep, rfl⟩ := List.mem_map.mp hitem
    exact hover.spares hread step hstep
  refine InStepAt.get_bind ?_
  rw [← ha₁.store]
  exact (h.inStep_ofResult hdrain).bind (fun es => h.removeRecords (es.map (·.1))) s₁ t₁ hR₁

/-! ### All operations -/

/-- Every request runs in step from related sessions. -/
theorem request (q : Request α) : InStep R E (q.run L) (q.run L) := by
  cases q with
  | insert d => exact h.insert d
  | insertMany ds => exact h.insertMany ds
  | update id d => exact h.update id d
  | remove id => exact h.remove id
  | removeWhere f => exact h.removeWhere f
  | get id => exact h.get? id
  | size => exact h.size
  | explain f options => exact h.explain f options
  | find f options => exact h.find f options
  | createIndex fields kind => exact h.checkOpen.bind fun _ => h.creates fields kind
  | rebuildIndex fields => exact h.checkOpen.bind fun _ => h.rebuild fields
  | dropIndex fields => exact h.checkOpen.bind fun _ => h.drop fields
  | dropAllIndexes => exact h.checkOpen.bind fun _ => h.dropAll
  | indexes => exact h.checkOpen.bind fun _ => h.list
  | hasIndex fields => exact h.checkOpen.bind fun _ => h.has fields
  | isIndexing fields => exact h.checkOpen.bind fun _ => h.isIndexing fields

/-- So do requests one after the other. -/
theorem requests (hR : R s t) (qs : List (Σ α, Request α)) :
    R (Request.performAll L qs s) (Request.performAll L qs t) := by
  induction qs generalizing s t with
  | nil => exact hR
  | cons q qs ih =>
    obtain ⟨r, s', t', hs, ht, hR', -⟩ := h.request q.2 s t hR
    rw [Request.performAll, List.foldl_cons, hs, Request.performAll, List.foldl_cons, ht]
    exact ih hR'

end Simulation

end Session

end DocumentDb
