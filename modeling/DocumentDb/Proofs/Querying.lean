import DocumentDb.Proofs.Planning

/-!
# `DocumentDb.Proofs.Querying`: the stream of a plan seen from the view

A scan reads the content of one index (`View.scan`), and a plan comes to a stream that
depends on nothing but the indexes it scans (`View.streamOf`). `does_scan` and `does_ofPlan`
prove that this is what the operations of a session give, and that they show nothing new.
-/

set_option autoImplicit false

namespace DocumentDb

/-- What every kind of stage keeps, the stages of a plan keep together. -/
theorem RecordStream.staged_keeps {D : RecordStream → Prop} {residual : Option Filter}
    {keys : SortKeys} {collation : Option Text.Collation} {skip limit : Option Int}
    {source stream : RecordStream} (hsource : D source)
    (hfiltered : ∀ inner f, D inner → D (.filtered inner f))
    (hsorted : ∀ inner keys collation, D inner → D (.sorted inner keys collation))
    (hbounded : ∀ skip limit inner, D inner → D (.bounded skip limit inner))
    (h : staged residual keys collation skip limit source = .ok stream) : D stream := by
  have hsifted : D (sifted residual source) := by
    cases residual with
    | none => exact hsource
    | some f => exact hfiltered source f hsource
  have hordered : D (inOrder keys collation (sifted residual source)) := by
    unfold inOrder
    split
    · exact hsifted
    · exact hsorted _ _ _ hsifted
  unfold staged at h
  dsimp only at h
  split at h
  · obtain ⟨n, -, hlimit⟩ := Result.bind_eq_ok_iff.mp h
    obtain ⟨k, -, rfl⟩ := Result.map_eq_ok_iff.mp hlimit
    exact hbounded _ _ _ hordered
  · cases h
    exact hordered

/-- What a scan finds in the content of an index. -/
def Content.scan (tokenizer : Text.Tokenizer) (d : IndexDescriptor) (order : ScanOrder)
    (conditions : List Comparison) : Content → Result RecordIdSet
  | .ordered level =>
    (Scan.check d.fields.fields conditions).bind fun _ =>
      (Scan.looksAtTree conditions).bind fun looks =>
        if looks then Scan.scan order d.fields.fields conditions level else .ok []
  | .fullText postings =>
    match conditions with
    | [⟨_, .text query⟩] =>
      (TextQuery.parse query).map fun q =>
        if FullText.looksAtPostings tokenizer q then FullText.answer tokenizer q postings else []
    | [c] => .error (.onlyText c.field)
    | cs => .error (.oneTextCondition cs.length)

namespace View

/-- What a scan finds in the index on the fields of a descriptor. -/
def scan (v : View) (d : IndexDescriptor) (order : ScanOrder) (conditions : List Comparison) :
    Result RecordIdSet :=
  match v.indexes.find? (·.descriptor.fields == d.fields) with
  | some i => i.content.scan v.config.tokenizer i.descriptor order conditions
  | none => .error (.notIndexed d.fields)

mutual

/-- The stream that carries out a plan. -/
def streamOf (v : View) : Plan → Result RecordStream
  | { source, scanOrder, residual, sort, collation, skip, limit } =>
    (v.streamOfSource scanOrder source).bind
      (RecordStream.staged residual sort collation skip limit)

/-- The stream of the records of a source. -/
def streamOfSource (v : View) (scanOrder : ScanOrder) : Source Plan → Result RecordStream
  | .collection => .ok (.walk (Walk.start v.recordMap false))
  | .byId x => .ok (.lookup v.recordMap (RecordId.ofValue? x).toList)
  | .index d conditions => (v.scan d scanOrder conditions).map (.lookup v.recordMap)
  | .union branches => (v.streamsOf branches).map fun streams => .distinct [] (.union streams)

/-- The streams of several plans. -/
def streamsOf (v : View) : List Plan → Result (List RecordStream)
  | [] => .ok []
  | p :: rest => (v.streamOf p).bind fun stream => (v.streamsOf rest).map (stream :: ·)

end

end View

namespace Session

variable {σ : Type} {s : Session σ} {i : IndexState}

/-! ### Scans -/

/-- A scan through the handle of an index. -/
theorem perform_scan (h : s.Sound) (hi : i ∈ s.view.indexes) {x : IndexHandle}
    (hx : s.Serves x i.descriptor) (order : ScanOrder) (conditions : List Comparison) :
    (onStore (x.scan order conditions)).perform s
      = (i.content.scan s.view.config.tokenizer i.descriptor order conditions, s) := by
  obtain ⟨hholds, -⟩ := h.holds hi hx
  have hd := hx.descriptor_eq
  rw [perform_onStore]
  generalize i.content = c at hholds ⊢
  cases hholds with
  | @ordered d mapName map level hread =>
    have hentries := MapRef.perform_entries_of_read hread
    dsimp only at hd
    subst hd
    unfold IndexHandle.scan OrderedIndex.scan Content.scan
    dsimp only
    -- the check of the fields and the look at the conditions fail before the map is read
    cases hcheck : Scan.check i.descriptor.fields.fields conditions with
    | error err => simp [Action.perform_bind, Except.bind]
    | ok _ =>
      cases hlooks : Scan.looksAtTree conditions with
      | error err => simp [Action.perform_bind, Except.bind]
      | ok looks =>
        cases looks with
        | false => simp [Action.perform_bind, Except.bind]
        | true =>
          simp only [Action.perform_bind, Action.perform_ofResult, Except.bind, if_true, hentries]
  | @fullText d mapName map postings hread =>
    have hentries := MapRef.perform_entries_of_read hread
    -- a full-text index answers one condition on a text, and no other conditions
    match conditions with
    | [] => rfl
    | ⟨_, condition⟩ :: _ :: _ => cases condition <;> rfl
    | [⟨field, condition⟩] =>
      cases condition with
      | text query =>
        unfold IndexHandle.scan FullText.scan FullText.search Content.scan
        cases hquery : TextQuery.parse query with
        | error err => simp [Action.perform_bind, Except.map, hquery]
        | ok q =>
          simp only [Action.perform_bind, Action.perform_ofResult, Except.map, hquery]
          split
          · simp only [Action.perform_bind, hentries, Action.perform_pure]
          · rfl
      | _ => rfl

/-- A scan shows nothing new. -/
theorem does_scan (h : s.Sound) (d : IndexDescriptor) (order : ScanOrder)
    (conditions : List Comparison) :
    Does (Indexing.scan d order conditions) s (s.view.scan d order conditions) s.view := by
  unfold Indexing.scan View.scan
  split
  · rename_i i hfound
    have hi := List.mem_of_find?_eq_some hfound
    have hfields : i.descriptor.fields = d.fields := by simpa using List.find?_some hfound
    have hsame : (Indexing.handle d : SessionM σ IndexHandle) = Indexing.handle i.descriptor := by
      rw [Indexing.handle, Indexing.handle, hfields]
    rw [hsame]
    refine h.handle_bind hi fun x s₁ hs₁ hx => ?_
    rw [← hs₁.view] at hi ⊢
    exact ⟨s₁, perform_scan hs₁.sound hi hx order conditions, Reaches.refl hs₁.sound⟩
  · rename_i hnone
    refine Does.bind_error ⟨s, ?_, Reaches.refl h⟩
    have hmissing : SortedEntries.get? d.fields s.metaEntries = none := by
      rw [h.get?_eq_none_iff]
      intro i hi hfields
      have hne := List.find?_eq_none.mp hnone i hi
      simp [hfields] at hne
    rw [Indexing.handle, Action.perform_bind, h.perform_metaOf?, hmissing]
    rfl

mutual

/-- Making the stream of a plan. -/
theorem does_ofPlan {s : Session σ} (h : s.Sound) (p : Plan) :
    Does (RecordStream.ofPlan p) s (s.view.streamOf p) s.view := by
  obtain ⟨source, scanOrder, residual, sort, collation, skip, limit⟩ := p
  rw [RecordStream.ofPlan, View.streamOf]
  have hsource := does_ofSource h scanOrder source
  cases hstream : s.view.streamOfSource scanOrder source with
  | error e =>
    rw [hstream] at hsource
    exact hsource.bind_error
  | ok stream =>
    rw [hstream] at hsource
    exact hsource.bind_ok fun s₁ hs₁ => hs₁.view ▸ does_ofResult hs₁.sound _

/-- Opening the stream of a source changes nothing. -/
theorem does_ofSource {s : Session σ} (h : s.Sound) (scanOrder : ScanOrder) (source : Source Plan) :
    Does (RecordStream.ofSource scanOrder source) s (s.view.streamOfSource scanOrder source)
      s.view := by
  cases source with
  | collection =>
    rw [RecordStream.ofSource, View.streamOfSource]
    exact does_here_bind (does_pure h _)
  | byId x =>
    rw [RecordStream.ofSource, View.streamOfSource]
    exact does_here_bind (does_pure h _)
  | index d conditions =>
    rw [RecordStream.ofSource, View.streamOfSource]
    have hscan := does_scan h d scanOrder conditions
    cases hids : s.view.scan d scanOrder conditions with
    | error e =>
      rw [hids] at hscan
      exact hscan.bind_error
    | ok ids =>
      rw [hids] at hscan
      refine hscan.bind_ok fun s₁ hs₁ => does_here_bind ?_
      rw [← hs₁.view]
      exact does_pure hs₁.sound _
  | union branches =>
    rw [RecordStream.ofSource, View.streamOfSource]
    have hall := does_ofAll h branches
    cases hstreams : s.view.streamsOf branches with
    | error e =>
      rw [hstreams] at hall
      exact hall.bind_error
    | ok streams =>
      rw [hstreams] at hall
      exact hall.bind_ok fun s₁ hs₁ => hs₁.pure _

/-- Opening the streams of branches changes nothing. -/
theorem does_ofAll {s : Session σ} (h : s.Sound) (branches : List Plan) :
    Does (RecordStream.ofAll branches) s (s.view.streamsOf branches) s.view := by
  cases branches with
  | nil =>
    rw [RecordStream.ofAll, View.streamsOf]
    exact does_pure h _
  | cons p rest =>
    rw [RecordStream.ofAll, View.streamsOf]
    have hone := does_ofPlan h p
    cases hstream : s.view.streamOf p with
    | error e =>
      rw [hstream] at hone
      exact hone.bind_error
    | ok stream =>
      rw [hstream] at hone
      refine hone.bind_ok fun s₁ hs₁ => ?_
      -- opening one stream has not changed the view in which the next one is opened
      have hall := does_ofAll hs₁.sound rest
      rw [hs₁.view] at hall
      cases hstreams : s.view.streamsOf rest with
      | error e =>
        rw [hstreams] at hall
        exact hall.bind_error
      | ok streams =>
        rw [hstreams] at hall
        exact hall.bind_ok fun s₂ hs₂ => hs₂.pure _

end

/-- Opening the stream of a plan upholds everything. -/
theorem upholds_ofPlan {I : View → Prop} (p : Plan) :
    Upholds I (RecordStream.ofPlan p : SessionM σ RecordStream) :=
  fun _ h hI => ⟨_, _, does_ofPlan h p, hI⟩

/-! ### Queries -/

/-- A query rebuilds the indexes of its plan and gives the stream of the plan, or fails. -/
theorem find_spec (h : s.Sound) (f : Filter) (options : FindOptions) :
    ∃ v, s.view.Refreshes v ∧
      ((∃ e, Does (Collection.find Listener.silent f options) s (.error e) v) ∨
        ∃ p stream, Plan.optimize s.view.config.collation f options s.view.offered = .ok p ∧
          v.streamOf p = .ok stream ∧
          Does (Collection.find Listener.silent f options) s (.ok ⟨stream, v.processors⟩) v ∧
          ∀ d ∈ p.indexes, ∃ i ∈ v.indexes, i.descriptor = d ∧ v.trusts i = true) := by
  obtain ⟨v, hv, ⟨e, hfails⟩ | ⟨p, hp, hexplain, hfit⟩⟩ := explain_spec h f options
  · exact ⟨v, hv, Or.inl ⟨e, hfails.bind_error⟩⟩
  · -- the stream is opened after the indexes of the plan have been rebuilt
    have hplan : ∀ s₁, Reaches s s₁ v → Does (RecordStream.ofPlan p) s₁ (v.streamOf p) v := by
      intro s₁ hs₁
      rw [← hs₁.view]
      exact does_ofPlan hs₁.sound p
    refine ⟨v, hv, ?_⟩
    cases hstream : v.streamOf p with
    | error e =>
      rw [hstream] at hplan
      exact Or.inl ⟨e, hexplain.bind_ok fun s₁ hs₁ => (hplan s₁ hs₁).bind_error⟩
    | ok stream =>
      rw [hstream] at hplan
      refine Or.inr ⟨p, stream, hp, hstream, ?_, hfit⟩
      refine hexplain.bind_ok fun s₁ hs₁ => (hplan s₁ hs₁).bind_ok fun s₂ hs₂ => ?_
      refine does_here_bind ?_
      rw [← hs₂.view]
      exact does_pure hs₂.sound _

/-- A query whose plan scans nothing but indexes to be relied on gives the stream of the plan. -/
theorem does_find_of_fit (h : s.Sound) {f : Filter} {options : FindOptions} {p : Plan}
    (hp : Plan.optimize s.view.config.collation f options s.view.offered = .ok p)
    (hfit : ∀ d ∈ p.indexes, ∃ i ∈ s.view.indexes, i.descriptor = d ∧ s.view.trusts i = true) :
    Does (Collection.find Listener.silent f options) s
      ((s.view.streamOf p).map fun stream => ⟨stream, s.view.processors⟩) s.view := by
  unfold Collection.find
  refine (does_explain_of_fit h hp hfit).bind_ok fun s₁ hs₁ => ?_
  have hstream := does_ofPlan hs₁.sound p
  rw [hs₁.view] at hstream
  cases hof : s.view.streamOf p with
  | error e =>
    rw [hof] at hstream
    exact hstream.bind_error
  | ok stream =>
    rw [hof] at hstream
    refine hstream.bind_ok fun s₂ hs₂ => does_here_bind ?_
    rw [← hs₂.view]
    exact does_pure hs₂.sound _

end Session

end DocumentDb
