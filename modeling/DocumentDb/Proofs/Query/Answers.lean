import DocumentDb.Proofs.Index.Scanning
import DocumentDb.Proofs.Operation
import DocumentDb.Proofs.Query.Draining
import DocumentDb.Proofs.Query.Meaning

/-!
# `DocumentDb.Proofs.Query.Answers`: what a query answers

A query plans, rebuilds the dirty indexes of its plan, and gives a cursor on the stream of the
plan. `Plan.Fetches` and `Filter.Fetches` read plan and filter as they are carried out: a
lookup by id fetches the record that the value names.

* `View.streamOf_spec`: the stream of a plan without bounds hands out the stored records that
  the plan fetches, because the indexes it scans are exact.
* `Session.Finds` is a query whose cursor comes to its end. `Finds.stored` and `Finds.mem_iff`
  say that it finds the stored records that its filter fetches, each of them once.

The order of the documents is left open.
-/

set_option autoImplicit false

namespace DocumentDb

open SortedEntries (Sorted)

/-- Whether a plan fetches a record as it is carried out. -/
def Plan.Fetches (e : Entry) (p : Plan) : Prop :=
  p.Selects (fun v => RecordId.ofValue? v = some e.1) e.2

/-- Whether a query fetches a record by its filter. -/
def Filter.Fetches (ds : List IndexDescriptor) (f : Filter) (e : Entry) : Prop :=
  f.Selects ds (fun v => RecordId.ofValue? v = some e.1) e.2

namespace Plan

variable {f : Filter} {terms : List Filter} {conditions : List Comparison} {d : IndexDescriptor}

/-- An index that covers some condition is scanned for one. -/
theorem scanConditions_ne_nil (h : covered conditions d ≠ 0) :
    scanConditions conditions (d.fields.fields.take (covered conditions d)) ≠ [] := by
  unfold covered at h ⊢
  cases hfields : d.fields.fields with
  | nil =>
    rw [hfields] at h
    exact absurd rfl h
  | cons field fields =>
    rw [hfields] at h
    cases hany : conditions.any (·.field == field) with
    | false => simp [hany] at h
    | true =>
      obtain ⟨c, hc⟩ := Option.isSome_iff_exists.mp
        (show (conditions.find? (·.field == field)).isSome = true by simpa using hany)
      have hfield : c.field = field := by simpa using List.find?_some hc
      refine List.ne_nil_of_mem (a := c) (mem_scanConditions.mpr ⟨?_, hfield ▸ hc⟩)
      simp [hany, hfield]

/-- The conditions of a scan are such that an ordered index can answer them. -/
theorem fit_of_mem_scanConditions {fields : List String} {c : Comparison}
    (h : c ∈ scanConditions (terms.filterMap orderedTerm?) fields) :
    c.isIndexable = true ∧ c.isText = false := by
  have hmem := List.mem_of_find?_eq_some (mem_scanConditions.mp h).2
  obtain ⟨g, -, hg⟩ := List.mem_filterMap.mp hmem
  exact (orderedTerm?_eq_some.mp hg).2

/-- A query without bounds has a plan without bounds. -/
theorem bounds_optimize {collation : Text.Collation} {options : FindOptions}
    {ds : List IndexDescriptor} {p : Plan} (hskip : options.skip = none)
    (hlimit : options.limit = none) (h : optimize collation f options ds = .ok p) :
    p.skip = none ∧ p.limit = none := by
  obtain ⟨q, -, rfl⟩ := Result.map_eq_ok_iff.mp h
  exact ⟨hskip, hlimit⟩

end Plan

namespace View

variable {v : View} {s : Store} {stream : RecordStream} {es : List Entry} {P : Entry → Prop}

open RecordStream

/-- The view of a collection whose records are read from a store. -/
structure ReadsFrom (v : View) (s : Store) : Prop where
  read : (s.map v.recordMap).read = .ok v.records
  consistent : v.Consistent

/-- Whether a scan of the source finds what it should: the index it scans is exact and ordered,
and its conditions are such that the index can answer them. -/
def Answers (v : View) : Source Plan → Prop
  | .index d conditions =>
    (∃ i ∈ v.indexes, i.descriptor = d ∧ i.Exact v.config v.records) ∧ d.isFullText = false ∧
      conditions ≠ [] ∧ ∀ c ∈ conditions, c.isIndexable = true ∧ c.isText = false
  | .collection | .byId _ => True
  | .union _ => False

/-- A scan reads the content of the exact index with its descriptor. -/
theorem scan_of_exact {d : IndexDescriptor} (hv : v.Consistent)
    (h : ∃ i ∈ v.indexes, i.descriptor = d ∧ i.Exact v.config v.records) :
    ∃ i : IndexState, i.descriptor = d ∧ i.Exact v.config v.records ∧ ∀ order conditions,
      v.scan d order conditions = i.content.scan v.config.tokenizer d order conditions := by
  obtain ⟨i, hi, rfl, hexact⟩ := h
  refine ⟨i, rfl, hexact, fun order conditions => ?_⟩
  unfold scan
  split
  · rename_i j hfind
    have hfields : j.descriptor.fields = i.descriptor.fields := by
      simpa using List.find?_some hfind
    obtain rfl : j = i :=
      List.inj_on_of_nodup_map hv.distinct (List.mem_of_find?_eq_some hfind) hi hfields
    rfl
  · rename_i hnone
    have hne := List.find?_eq_none.mp hnone i hi
    simp at hne

/-- What a scan of an exact index finds. -/
theorem scan_spec {d : IndexDescriptor} {conditions : List Comparison} (hv : v.Consistent)
    (h : v.Answers (.index d conditions)) {order : ScanOrder} {ids : RecordIdSet}
    (hscan : v.scan d order conditions = .ok ids) :
    ids.Nodup ∧ ∀ id, id ∈ ids ↔
      ∃ e ∈ v.records, e.1 = id ∧ ∀ c ∈ conditions, c.holds e.2 = .ok true := by
  obtain ⟨hindex, hkind, hne, hfit⟩ := h
  obtain ⟨i, rfl, hexact, hreads⟩ := scan_of_exact hv hindex
  rw [hreads] at hscan
  exact Content.scan_spec hexact hv.own hkind hne hfit hscan

/-- A source without branches hands out what it selects. -/
theorem streamOfSource_spec (hv : v.ReadsFrom s) {source : Source Plan} (h : v.Answers source)
    {order : ScanOrder} (hstream : v.streamOfSource order source = .ok stream)
    (hes : Yields s stream es) :
    HandsOut v.records (fun e =>
      Plan.SelectsFrom (fun x => RecordId.ofValue? x = some e.1) e.2 none source) es := by
  have hsorted := hv.consistent.sorted
  cases source with
  | collection =>
    rw [streamOfSource] at hstream
    cases hstream
    exact (Yields.walk hv.read hsorted hes).congr fun e _ => by simp [Plan.SelectsFrom, Plan.Passes]
  | byId x =>
    rw [streamOfSource] at hstream
    cases hstream
    have hnodup : (RecordId.ofValue? x).toList.Nodup := by
      cases RecordId.ofValue? x <;> simp
    refine (Yields.lookup hv.read hsorted hnodup hes).congr fun e _ => ?_
    simp [Plan.SelectsFrom, Plan.Passes, Option.mem_toList]
  | index d conditions =>
    rw [streamOfSource] at hstream
    obtain ⟨ids, hids, rfl⟩ := Result.map_eq_ok_iff.mp hstream
    -- the scan finds the ids of the records that meet its conditions, each once
    obtain ⟨hnodup, hmem⟩ := scan_spec hv.consistent h hids
    refine (Yields.lookup hv.read hsorted hnodup hes).congr fun e he => ?_
    rw [hmem, exists_entry_iff (P := fun d => ∀ c ∈ conditions, c.holds d = .ok true) hsorted he]
    simp [Plan.SelectsFrom, Plan.Passes]
  | union branches => exact h.elim

/-- The stages of a plan without bounds leave out what does not pass the residual filter. -/
theorem staged_spec {residual : Option Filter} {keys : SortKeys}
    {collation : Option Text.Collation} {source : RecordStream}
    (hsource : ∀ es, Yields s source es → HandsOut v.records P es)
    (hstream : staged residual keys collation none none source = .ok stream)
    (hes : Yields s stream es) :
    HandsOut v.records (fun e => P e ∧ Plan.Passes e.2 residual) es := by
  have hsifted : ∀ es, Yields s (sifted residual source) es →
      HandsOut v.records (fun e => P e ∧ Plan.Passes e.2 residual) es := by
    intro es hes
    cases residual with
    | none => exact (hsource es hes).congr fun e _ => by simp [Plan.Passes]
    | some f =>
      obtain ⟨ins, hins, rfl, -⟩ := Yields.filtered hes
      exact ((hsource ins hins).filter _).congr fun e _ => by
        simp [Plan.Passes, lets_eq_true_iff]
  have hinOrder : staged residual keys collation none none source
      = .ok (inOrder keys collation (sifted residual source)) := rfl
  cases hinOrder.symm.trans hstream
  unfold inOrder at hes
  split at hes
  · exact hsifted es hes
  · obtain ⟨ins, hins, hperm⟩ := Yields.sorted hes
    exact (hsifted ins hins).perm hperm

/-- The filter of a plan that reads all records has been decided on every one of them. -/
theorem decided_of_collection (hv : v.ReadsFrom s) {p : Plan} {f : Filter}
    (hbounds : p.skip = none ∧ p.limit = none) (hsource : p.source = .collection)
    (hresidual : p.residual = some f) (hstream : v.streamOf p = .ok stream)
    (hes : Yields s stream es) : ∀ e ∈ v.records, ∃ b, f.apply e.2 = .ok b := by
  obtain ⟨source, scanOrder, residual, keys, collation, skip, limit⟩ := p
  obtain ⟨rfl, rfl⟩ : skip = none ∧ limit = none := hbounds
  obtain rfl : source = .collection := hsource
  obtain rfl : residual = some f := hresidual
  have hstages : v.streamOf
    { source := .collection, scanOrder, residual := some f, sort := keys, collation }
      = .ok (inOrder keys collation (.filtered (.walk (Walk.start v.recordMap false)) f)) := rfl
  cases hstages.symm.trans hstream
  have hfiltered : ∃ es, Yields s (.filtered (.walk (Walk.start v.recordMap false)) f) es := by
    unfold inOrder at hes
    split at hes
    · exact ⟨es, hes⟩
    · obtain ⟨ins, hins, -⟩ := Yields.sorted hes
      exact ⟨ins, hins⟩
  obtain ⟨es, hes⟩ := hfiltered
  obtain ⟨ins, hins, -, hdecided⟩ := Yields.filtered hes
  have hall := Yields.walk hv.read hv.consistent.sorted hins
  exact fun e he => hdecided e ((hall.2 e).mpr ⟨he, trivial⟩)

/-- A stream whose source does its part hands out what the plan fetches. -/
theorem streamOf_spec_of_source {p : Plan}
    (hbounds : p.skip = none ∧ p.limit = none)
    (hresidual : p.residual = none ∨ ∀ branches, p.source ≠ .union branches)
    (hsource : ∀ stream es, v.streamOfSource p.scanOrder p.source = .ok stream →
      Yields s stream es → HandsOut v.records (fun e =>
        Plan.SelectsFrom (fun x => RecordId.ofValue? x = some e.1) e.2 none p.source) es)
    (hstream : v.streamOf p = .ok stream) (hes : Yields s stream es) :
    HandsOut v.records p.Fetches es := by
  obtain ⟨source, scanOrder, residual, sort, collation, skip, limit⟩ := p
  obtain ⟨rfl, rfl⟩ : skip = none ∧ limit = none := hbounds
  rw [streamOf] at hstream
  obtain ⟨inner, hinner, hstaged⟩ := Result.bind_eq_ok_iff.mp hstream
  refine (staged_spec (fun es => hsource inner es hinner) hstaged hes).congr fun e _ => ?_
  rw [Plan.Fetches, Plan.selects_eq]
  cases source with
  | collection => simp [Plan.SelectsFrom, Plan.Passes]
  | byId x => simp [Plan.SelectsFrom, Plan.Passes]
  | index d conditions => simp [Plan.SelectsFrom, Plan.Passes]
  | union branches =>
    have hnone : residual = none := hresidual.resolve_right fun h => h branches rfl
    simp [Plan.SelectsFrom, Plan.Passes, hnone]

/-- The indexes of a plan are there and exact. -/
def Backs (v : View) (p : Plan) : Prop :=
  ∀ d ∈ p.indexes, ∃ i ∈ v.indexes, i.descriptor = d ∧ i.Exact v.config v.records

/-- Plans with one source are backed by the same indexes. -/
theorem Backs.of_source {p q : Plan} (h : v.Backs p) (hsource : p.source = q.source) :
    v.Backs q := by
  unfold Backs at h ⊢
  rwa [Plan.indexes_eq_of_source hsource] at h

/-- The indexes of a union are those of its branches. -/
theorem Backs.branch {p q : Plan} {ps : List Plan} (h : v.Backs p) (hsource : p.source = .union ps)
    (hq : q ∈ ps) : v.Backs q := by
  intro d hd
  refine h d ?_
  rw [Plan.indexes_eq, hsource]
  exact Plan.mem_indexesAll.mpr ⟨q, hq, hd⟩

/-- The source of the plan of a conjunction answers what it should. -/
theorem answers_ofConjunction {f : Filter} {ds : List IndexDescriptor} {p : Plan}
    (htext : f.hasText = false) (h : Plan.ofConjunction f ds = .ok p) (hbacks : v.Backs p) :
    v.Answers p.source := by
  rcases Plan.ofConjunction_cases h with
    ⟨x, rest, -, rfl⟩ | ⟨c, rest, d, hpick, -, rfl⟩ | ⟨d, hbest, rfl⟩ | rfl
  · trivial
  · -- no term is a text condition
    obtain ⟨before, g, after, hterms, hg, -⟩ := Plan.pick?_eq_some hpick
    obtain ⟨rfl, hc⟩ := Plan.textTerm?_eq_some hg
    have hmem : Filter.compare c ∈ f.conjuncts := by simp [hterms]
    rw [Filter.not_isText_of_mem_conjuncts htext hmem] at hc
    cases hc
  · obtain ⟨-, hkind, hcovered⟩ := Plan.bestIndex?_eq_some hbest
    have hindex : d ∈ (Plan.scanOf f.conjuncts d).indexes := by
      simp [Plan.indexes_eq, Plan.scanOf, Plan.indexesOf]
    exact ⟨hbacks d hindex, hkind, Plan.scanConditions_ne_nil hcovered,
      fun c hc => Plan.fit_of_mem_scanConditions hc⟩
  · trivial

/-- The plan of a conjunction comes without bounds. -/
theorem bounds_ofConjunction {f : Filter} {ds : List IndexDescriptor} {p : Plan}
    (h : Plan.ofConjunction f ds = .ok p) : p.skip = none ∧ p.limit = none := by
  rcases Plan.ofConjunction_cases h with
    ⟨x, rest, -, rfl⟩ | ⟨c, rest, d, -, -, rfl⟩ | ⟨d, -, rfl⟩ | rfl
  all_goals exact ⟨rfl, rfl⟩

/-- The plan of a conjunction hands out what it fetches. -/
theorem streamOf_spec_of_conjunction (hv : v.ReadsFrom s) {f : Filter}
    {ds : List IndexDescriptor} {p : Plan} (htext : f.hasText = false)
    (h : Plan.ofConjunction f ds = .ok p) (hbacks : v.Backs p)
    (hstream : v.streamOf p = .ok stream) (hes : Yields s stream es) :
    HandsOut v.records p.Fetches es :=
  streamOf_spec_of_source (bounds_ofConjunction h) (Or.inr (Plan.ofConjunction_simple h))
    (fun _ _ => streamOfSource_spec hv (answers_ofConjunction htext h hbacks)) hstream hes

/-- The streams of the branches of a disjunction hand out what their plans fetch. -/
theorem streamsOf_spec {ps : List Plan} {streams : List RecordStream}
    (hone : ∀ p ∈ ps, ∀ stream es, v.streamOf p = .ok stream → Yields s stream es →
      HandsOut v.records p.Fetches es) (h : v.streamsOf ps = .ok streams) :
    List.Forall₂ (fun stream P => ∀ es, Yields s stream es → HandsOut v.records P es) streams
      (ps.map fun p e => p.Fetches e) := by
  induction ps generalizing streams with
  | nil =>
    rw [streamsOf] at h
    cases h
    exact List.Forall₂.nil
  | cons p ps ih =>
    rw [streamsOf] at h
    rw [List.forall_mem_cons] at hone
    obtain ⟨stream, hstream, h⟩ := Result.bind_eq_ok_iff.mp h
    obtain ⟨rest, hrest, rfl⟩ := Result.map_eq_ok_iff.mp h
    exact List.Forall₂.cons (fun es => hone.1 stream es hstream) (ih hone.2 hrest)

/-- United branches hand out what one of them fetches. -/
theorem streamOfSource_union (hv : v.ReadsFrom s) {ps : List Plan}
    (hone : ∀ p ∈ ps, ∀ stream es, v.streamOf p = .ok stream → Yields s stream es →
      HandsOut v.records p.Fetches es) {order : ScanOrder}
    (hstream : v.streamOfSource order (.union ps) = .ok stream) (hes : Yields s stream es) :
    HandsOut v.records (fun e =>
      Plan.SelectsFrom (fun x => RecordId.ofValue? x = some e.1) e.2 none (.union ps)) es := by
  rw [streamOfSource] at hstream
  obtain ⟨streams, hstreams, rfl⟩ := Result.map_eq_ok_iff.mp hstream
  have hunion := Yields.distinct_union hv.consistent.sorted.nodup_keys hes
    (streamsOf_spec hone hstreams)
  refine hunion.congr fun e _ => ?_
  rw [Plan.SelectsFrom, Plan.selectsSome_iff]
  simp [Plan.Fetches]

/-- The stream of a plan without bounds hands out the records that the plan fetches. -/
theorem streamOf_spec (hv : v.ReadsFrom s) {collation : Text.Collation} {f : Filter}
    {options : FindOptions} {ds : List IndexDescriptor} {p : Plan} (htext : f.hasText = false)
    (hskip : options.skip = none) (hlimit : options.limit = none)
    (h : Plan.optimize collation f options ds = .ok p) (hbacks : v.Backs p)
    (hstream : v.streamOf p = .ok stream) (hes : Yields s stream es) :
    HandsOut v.records p.Fetches es := by
  obtain ⟨q, hq, hsource, hresidual⟩ := Plan.optimize_eq_ok h
  have hbounds := Plan.bounds_optimize hskip hlimit h
  have hbacks' : v.Backs q := hbacks.of_source hsource
  rcases Plan.ofFilter_cases hq with
    ⟨branches, ps, rfl, hps, rfl⟩ | ⟨branches, rfl, -, rfl⟩ | ⟨-, hconj⟩
  · -- the branches are looked up or scanned, each on its own
    refine streamOf_spec_of_source hbounds (Or.inl hresidual) (fun stream es => ?_) hstream hes
    rw [hsource, Plan.unite]
    split
    · have hanswers : v.Answers .collection := trivial
      exact streamOfSource_spec hv hanswers
    · rename_i hne
      refine streamOfSource_union hv fun q hq => ?_
      obtain ⟨g, hg, hplan⟩ := Plan.exists_branch (Plan.ofBranches_eq_some hps) hq
      have htext' : g.hasText = false := Filter.anyHasText_eq_false_iff.mp htext g hg
      have hunion : (Plan.unite ps).source = .union ps := if_neg hne
      exact fun stream es =>
        streamOf_spec_of_conjunction hv htext' hplan.1 (hbacks'.branch hunion hq)
  · -- one scan of all records for the whole disjunction
    refine streamOf_spec_of_source hbounds (Or.inr ?_) (fun stream es => ?_) hstream hes
    · simp [hsource]
    · exact streamOfSource_spec hv (by rw [hsource]; trivial)
  · -- a conjunction has one source
    have hanswers : v.Answers p.source := by
      rw [hsource]
      exact answers_ofConjunction htext hconj hbacks'
    refine streamOf_spec_of_source hbounds (Or.inr ?_) (fun stream es => ?_) hstream hes
    · rw [hsource]
      exact Plan.ofConjunction_simple hconj
    · exact streamOfSource_spec hv hanswers

end View

/-! ### Cursors -/

namespace Cursor

open RecordStream

/-- Without processors a cursor hands out the documents of its stream. -/
theorem readRun_clean {run : Run} {docs : List Document}
    (h : (readRun [] run).map (·.1) = docs.map Except.ok) :
    ∃ es, Clean run es ∧ docs = es.map Prod.snd := by
  induction run generalizing docs with
  | nil =>
    obtain rfl : docs = [] := by simpa [readRun, eq_comm] using h
    exact ⟨[], clean_nil.mpr rfl, rfl⟩
  | cons step run ih =>
    obtain ⟨item, next⟩ := step
    cases docs with
    | nil => cases item <;> simp [readRun, Processor.readAll] at h
    | cons doc docs =>
      cases item with
      | error err => simp [readRun] at h
      | ok e =>
        simp only [readRun, Processor.readAll, List.map_cons, List.cons.injEq, Except.ok.injEq] at h
        obtain ⟨rfl, hrest⟩ := h
        obtain ⟨es, hes, rfl⟩ := ih hrest
        exact ⟨e :: es, clean_cons_ok.mpr ⟨es, rfl, hes⟩, rfl⟩

/-- A cursor comes to its end without an error when all its items are documents. -/
theorem toList_eq_ok {s : Store} {c : Cursor} {docs : List Document}
    (h : c.toList s = .ok docs) : c.drain s = docs.map Except.ok :=
  Result.mapM_id_eq_ok_iff.mp h

/-- A cursor on a stream that comes to its end gives the documents. -/
theorem toList_of_yields {s : Store} {stream : RecordStream} {es : List Entry}
    (h : Yields s stream es) : toList s ⟨stream, []⟩ = .ok (es.map Prod.snd) := by
  rw [toList, drain, run, Result.mapM_eq_ok_iff]
  unfold Yields at h
  generalize stream.run s = r at h
  induction es generalizing r with
  | nil =>
    obtain rfl : r = [] := by simpa [Clean] using h
    exact List.Forall₂.nil
  | cons e es ih =>
    obtain ⟨⟨item, next⟩, r, rfl, hitem, hrest⟩ := List.map_eq_cons_iff.mp h
    obtain rfl : item = .ok e := hitem
    exact List.Forall₂.cons rfl (ih r hrest)

end Cursor

namespace Session

open RecordStream

variable {σ : Type} {s : Session σ} {f : Filter} {options : FindOptions} {docs : List Document}

/-- The records of a sound session can be read. -/
theorem Sound.read_records (h : s.Sound) :
    (s.store.map s.view.recordMap).read = .ok s.view.records := by
  have hmap := Store.map_of_refers (r := s.collection.records) h.records
  show (s.store.map s.collection.records).read = .ok s.recordEntries
  rw [hmap]
  rfl

/-- A query succeeds, with a cursor that comes to its end, and these are the documents. -/
def Finds (s : Session σ) (f : Filter) (options : FindOptions) (docs : List Document) : Prop :=
  ∃ cursor s', (Collection.find Listener.silent f options).perform s = (.ok cursor, s') ∧
    cursor.toList s'.store = .ok docs

/-- What a query finds whose plan scans nothing but indexes to be relied on. -/
theorem finds_of_fit (h : s.Sound) {p : Plan} {stream : RecordStream}
    (hp : Plan.optimize s.view.config.collation f options s.view.offered = .ok p)
    (hfit : ∀ d ∈ p.indexes, ∃ i ∈ s.view.indexes, i.descriptor = d ∧ s.view.trusts i = true)
    (hstream : s.view.streamOf p = .ok stream)
    (hdocs : ∀ store : Store, (store.map s.view.recordMap).read = .ok s.view.records →
      Cursor.toList store ⟨stream, s.view.processors⟩ = .ok docs) :
    s.Finds f options docs := by
  obtain ⟨s', hs', hreach⟩ := does_find_of_fit h hp hfit
  have hread := hreach.sound.read_records
  rw [hreach.view] at hread
  rw [hstream] at hs'
  exact ⟨_, s', hs', hdocs s'.store hread⟩

/-- A query that succeeds gives a cursor on the stream of its plan, over indexes that are exact. -/
theorem find_ok (h : s.Sound) (hp : s.view.Plain) (hc : s.view.Consistent) {cursor : Cursor}
    {s' : Session σ}
    (hfind : (Collection.find Listener.silent f options).perform s = (.ok cursor, s')) :
    s'.Sound ∧ s.view.Refreshes s'.view ∧ s'.view.Consistent ∧ cursor.processors = [] ∧
      ∃ p, Plan.optimize s.view.config.collation f options s.view.offered = .ok p ∧
        s'.view.Backs p ∧ s'.view.streamOf p = .ok cursor.stream := by
  obtain ⟨v, hv, ⟨e, hfails⟩ | ⟨p, stream, hplan, hstream, hdoes, hfit⟩⟩ :=
    find_spec h f options
  · cases (hfails.elim hfind).1
  · obtain ⟨hcursor, hreach⟩ := hdoes.elim hfind
    cases hcursor
    rw [hreach.view]
    have hconsistent := hv.consistent hp.extractor hc
    have hprocessors : v.processors = [] := by
      rw [hv.eq_withIndexes]
      exact hp.processors
    have hbacks : v.Backs p := by
      intro d hd
      obtain ⟨i, hi, hdescriptor, htrusts⟩ := hfit d hd
      exact ⟨i, hi, hdescriptor, (hconsistent.keeps i hi).exact htrusts⟩
    exact ⟨hreach.sound, hv, hconsistent, hprocessors, p, hplan, hbacks, hstream⟩

/-- What a query has found is what the stream of its plan yields, on indexes that are exact. -/
theorem Finds.carried_out (h : s.Sound) (hp : s.view.Plain) (hc : s.view.Consistent)
    (hfinds : s.Finds f options docs) :
    ∃ (v : View) (store : Store) (p : Plan) (stream : RecordStream) (es : List Entry),
      v.records = s.view.records ∧ v.ReadsFrom store ∧ v.Backs p ∧
        Plan.optimize s.view.config.collation f options s.view.offered = .ok p ∧
        v.streamOf p = .ok stream ∧ Yields store stream es ∧ docs = es.map Prod.snd := by
  obtain ⟨cursor, s', hfind, hdocs⟩ := hfinds
  obtain ⟨hsound, hv, hconsistent, hprocessors, p, hplan, hbacks, hstream⟩ :=
    find_ok h hp hc hfind
  have hrecords : s'.view.records = s.view.records := by
    rw [hv.eq_withIndexes]
    rfl
  have hdrain := Cursor.toList_eq_ok hdocs
  rw [Cursor.drain, Cursor.run, hprocessors] at hdrain
  obtain ⟨es, hes, rfl⟩ := Cursor.readRun_clean hdrain
  exact ⟨s'.view, s'.store, p, cursor.stream, es, hrecords, ⟨hsound.read_records, hconsistent⟩,
    hbacks, hplan, hstream, hes, rfl⟩

/-- A query hands out the documents of the records that its filter fetches. -/
theorem Finds.handsOut (h : s.Sound) (hp : s.view.Plain) (hc : s.view.Consistent)
    (htext : f.hasText = false) (hskip : options.skip = none) (hlimit : options.limit = none)
    (hfinds : s.Finds f options docs) :
    ∃ es, HandsOut s.view.records (f.Fetches s.view.offered) es ∧ docs = es.map Prod.snd := by
  obtain ⟨v, store, p, stream, es, hrecords, hreads, hbacks, hplan, hstream, hes, rfl⟩ :=
    hfinds.carried_out h hp hc
  have hout := View.streamOf_spec hreads htext hskip hlimit hplan hbacks hstream hes
  rw [hrecords] at hout
  exact ⟨es, hout.congr fun e _ => Plan.selects_optimize_iff htext hplan, rfl⟩

/-- A disjunction that is not taken apart has been decided on every stored record. -/
theorem Finds.decided (h : s.Sound) (hp : s.view.Plain) (hc : s.view.Consistent)
    {branches : List Filter} (hskip : options.skip = none) (hlimit : options.limit = none)
    (hsplits : ¬ Plan.Splits s.view.offered branches)
    (hfinds : s.Finds (.or branches) options docs) :
    ∀ e ∈ s.view.records, ∃ b, (Filter.or branches).apply e.2 = .ok b := by
  obtain ⟨v, store, p, stream, es, hrecords, hreads, -, hplan, hstream, hes, -⟩ :=
    hfinds.carried_out h hp hc
  have hbounds := Plan.bounds_optimize hskip hlimit hplan
  obtain ⟨q, hq, hsource, hresidual⟩ := Plan.optimize_eq_ok hplan
  rcases Plan.ofFilter_cases hq with ⟨bs, ps, hf, hps, -⟩ | ⟨bs, hf, -, rfl⟩ | ⟨hor, -⟩
  · cases hf
    exact absurd ⟨ps, hps⟩ hsplits
  · cases hf
    rw [← hrecords]
    exact View.decided_of_collection hreads hbounds hsource hresidual hstream hes
  · exact absurd rfl (hor branches)

/-- No record is found twice, and nothing is found that is not stored. -/
theorem Finds.stored (h : s.Sound) (hp : s.view.Plain) (hc : s.view.Consistent)
    (htext : f.hasText = false) (hskip : options.skip = none) (hlimit : options.limit = none)
    (hfinds : s.Finds f options docs) :
    (docs.map Document.id).Nodup ∧ ∀ d ∈ docs, ∃ e ∈ s.view.records, e.2 = d := by
  obtain ⟨es, hes, rfl⟩ := hfinds.handsOut h hp hc htext hskip hlimit
  constructor
  · have hids : (es.map Prod.snd).map Document.id
        = (es.map (·.1)).map fun id => .ok (some id) := by
      rw [List.map_map, List.map_map]
      exact List.map_congr_left fun e he => hc.own e ((hes.2 e).mp he).1
    rw [hids]
    exact hes.1.map fun id id' heq => Option.some.inj (Except.ok.inj heq)
  · intro d hd
    obtain ⟨e, he, rfl⟩ := List.mem_map.mp hd
    exact ⟨e, ((hes.2 e).mp he).1, rfl⟩

/-- A stored record is found if the filter fetches it. -/
theorem Finds.mem_iff (h : s.Sound) (hp : s.view.Plain) (hc : s.view.Consistent)
    (htext : f.hasText = false) (hskip : options.skip = none) (hlimit : options.limit = none)
    (hfinds : s.Finds f options docs) {e : Entry} (he : e ∈ s.view.records) :
    e.2 ∈ docs ↔ f.Fetches s.view.offered e := by
  obtain ⟨es, hes, rfl⟩ := hfinds.handsOut h hp hc htext hskip hlimit
  rw [List.mem_map]
  constructor
  · rintro ⟨e', he', heq⟩
    obtain ⟨hstored, hfetches⟩ := (hes.2 e').mp he'
    -- documents carry the ids of their records
    have hid := hc.own e' hstored
    rw [heq, hc.own e he] at hid
    obtain rfl : e' = e := Prod.ext (Option.some.inj (Except.ok.inj hid)).symm heq
    exact hfetches
  · exact fun hfetches => ⟨e, (hes.2 e).mpr ⟨he, hfetches⟩, rfl⟩

end Session

end DocumentDb
