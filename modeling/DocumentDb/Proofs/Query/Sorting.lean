import DocumentDb.Proofs.Index.Walking
import DocumentDb.Proofs.FailedWrites
import DocumentDb.Proofs.Query.Answers

/-!
# `DocumentDb.Proofs.Query.Sorting`: the order of what a query finds

A query with sort keys has its records sorted, or it walks an index whose leading fields are the
sort keys. `found_in_order` says that both give the documents in the order of the sort keys. They
differ in the order of texts: an index keeps its keys by code point, so a walk knows no other
collation, whichever the options name.

`View.streamOf_ordered` is the statement about the stream of a plan. It is about the records that
the stream delivers and so holds under any bounds.
-/

set_option autoImplicit false

namespace DocumentDb

open RecordStream

/-! ### Walking in the order of sort keys -/

namespace ScanOrder

/-- The directions of sort keys, added to some directions. -/
def add (order : ScanOrder) (sort : SortKeys) : ScanOrder :=
  sort.foldl (fun order (field, direction) =>
    SortedEntries.insert field direction.isDescending order) order

/-- Setting the direction of a field leaves those of the others. -/
theorem isReverse_insert (order : ScanOrder) (field other : String) (reverse : Bool) :
    isReverse (SortedEntries.insert other reverse order) field
      = if field = other then reverse else order.isReverse field := by
  simp only [isReverse, SortedEntries.get?_insert, Std.LawfulEqOrd.compare_eq_iff_eq]
  split <;> rfl

/-- A field that is not among the sort keys keeps its direction. -/
theorem isReverse_add_of_notMem {sort : SortKeys} {field : String} (order : ScanOrder)
    (h : field ∉ sort.map (·.1)) : (order.add sort).isReverse field = order.isReverse field := by
  induction sort generalizing order with
  | nil => rfl
  | cons key sort ih =>
    rw [List.map_cons, List.mem_cons, not_or] at h
    have hstep : order.add (key :: sort)
        = add (SortedEntries.insert key.1 key.2.isDescending order) sort := rfl
    rw [hstep, ih _ h.2, isReverse_insert, if_neg h.1]

/-- The level of a sort key is walked in its direction, if the keys are about distinct fields. -/
theorem isReverse_add {sort : SortKeys} {key : String × SortOrder} (order : ScanOrder)
    (hdistinct : (sort.map (·.1)).Nodup) (h : key ∈ sort) :
    (order.add sort).isReverse key.1 = key.2.isDescending := by
  induction sort generalizing order with
  | nil => cases h
  | cons key' sort ih =>
    rw [List.map_cons, List.nodup_cons] at hdistinct
    have hstep : order.add (key' :: sort)
        = add (SortedEntries.insert key'.1 key'.2.isDescending order) sort := rfl
    rw [hstep]
    rcases List.mem_cons.mp h with rfl | hmem
    · rw [isReverse_add_of_notMem _ hdistinct.1, isReverse_insert, if_pos rfl]
    · exact ih _ hdistinct.2 hmem

/-- The paths of documents in an index are in the order of sort keys that are its leading fields. -/
theorem orderBy_of_comparePaths {order : ScanOrder} {sort : SortKeys} {fields : List String}
    {d e : Document} (hleading : sort.map (·.1) <+: fields)
    (hdirections : ∀ key ∈ sort, order.isReverse key.1 = key.2.isDescending)
    (h : order.comparePaths fields (d.keysAt fields) (e.keysAt fields) ≠ .gt) :
    d.orderBy .binary sort e ≠ .gt := by
  induction sort generalizing fields with
  | nil => nofun
  | cons key sort ih =>
    obtain ⟨rest, rfl⟩ := hleading
    rw [List.forall_mem_cons] at hdirections
    have hpaths : order.comparePaths ((key :: sort).map (·.1) ++ rest)
        (d.keysAt ((key :: sort).map (·.1) ++ rest)) (e.keysAt ((key :: sort).map (·.1) ++ rest))
      = (directed (order.isReverse key.1) ((d.keyAt key.1).compare (e.keyAt key.1))).then
          (order.comparePaths (sort.map (·.1) ++ rest) (d.keysAt (sort.map (·.1) ++ rest))
            (e.keysAt (sort.map (·.1) ++ rest))) := rfl
    rw [hpaths, hdirections.1] at h
    rw [Document.orderBy, Key.orderBy_binary]
    -- the first key decides, or the rest does
    cases hfirst : directed key.2.isDescending ((d.keyAt key.1).compare (e.keyAt key.1)) with
    | lt => nofun
    | gt =>
      rw [hfirst] at h
      exact absurd rfl h
    | eq =>
      rw [hfirst] at h
      exact ih (List.prefix_append _ _) hdirections.2 h

end ScanOrder

/-! ### Streams -/

namespace RecordStream

variable {s : Store} {stream source : RecordStream}

/-- A residual filter leaves records out. -/
theorem delivered_sifted (residual : Option Filter) (source : RecordStream) :
    (delivered (run s (sifted residual source))).Sublist (delivered (run s source)) := by
  cases residual with
  | none => exact List.Sublist.refl _
  | some f =>
    show (delivered (run s (.filtered source f))).Sublist _
    rw [run]
    exact delivered_runFiltered f (run s source)

/-- Bounds leave records out. -/
theorem delivered_staged {residual : Option Filter} {keys : SortKeys}
    {collation : Option Text.Collation} {skip limit : Option Int}
    (h : staged residual keys collation skip limit source = .ok stream) :
    (delivered (run s stream)).Sublist
      (delivered (run s (inOrder keys collation (sifted residual source)))) := by
  rw [staged] at h
  split at h
  · obtain ⟨skip, -, h⟩ := Result.bind_eq_ok_iff.mp h
    obtain ⟨limit, -, rfl⟩ := Result.map_eq_ok_iff.mp h
    rw [run]
    exact delivered_runBounded _ _ _
  · cases h
    exact List.Sublist.refl _

end RecordStream

/-! ### Plans -/

namespace Plan

variable {f : Filter} {ds : List IndexDescriptor} {p : Plan} {sort : SortKeys}

/-- The plan of a conjunction sorts nothing yet. -/
theorem sort_ofConjunction (h : ofConjunction f ds = .ok p) : p.sort = [] := by
  rcases ofConjunction_cases h with
    ⟨x, rest, -, rfl⟩ | ⟨c, rest, d, -, -, rfl⟩ | ⟨d, -, rfl⟩ | rfl
  all_goals rfl

/-- The plan of a filter has nothing sorted. -/
theorem sort_ofFilter (h : ofFilter f ds = .ok p) : p.sort = [] := by
  rcases ofFilter_cases h with ⟨branches, ps, rfl, -, rfl⟩ | ⟨branches, rfl, -, rfl⟩ | ⟨-, hconj⟩
  · rfl
  · rfl
  · exact sort_ofConjunction hconj

/-- A walk that sorts is a scan of an ordered index, by conditions that the index can answer. -/
theorem exists_scan_of_ofFilter (h : ofFilter f ds = .ok p) (hwalk : p.walkSorts sort = true) :
    ∃ d conditions, p.source = .index d conditions ∧ d.isFullText = false ∧
      sort.map (·.1) <+: d.fields.fields ∧
      ∀ c ∈ conditions, c.isIndexable = true ∧ c.isText = false := by
  have hfields : ∀ d, p.index? = some d →
      d.isFullText = false ∧ sort.map (·.1) <+: d.fields.fields := by
    intro d hd
    rw [walkSorts, hd] at hwalk
    simpa [List.isPrefixOf_iff_prefix] using hwalk
  rcases ofFilter_cases h with ⟨branches, ps, rfl, -, rfl⟩ | ⟨branches, rfl, -, rfl⟩ | ⟨-, hconj⟩
  · unfold unite at hwalk
    split at hwalk <;> cases hwalk
  · cases hwalk
  · rcases ofConjunction_cases hconj with
      ⟨x, rest, -, rfl⟩ | ⟨c, rest, d, -, hd, rfl⟩ | ⟨d, hbest, rfl⟩ | rfl
    · cases hwalk
    · -- a full-text index keeps tokens, which are in no order of the documents
      have hkind := (hfields d rfl).1
      rw [(fullTextIndex?_eq_some hd).2.1] at hkind
      cases hkind
    · obtain ⟨hkind, hleading⟩ := hfields d rfl
      exact ⟨d, _, rfl, hkind, hleading, fun c hc => fit_of_mem_scanConditions hc⟩
    · cases hwalk

variable {collation : Text.Collation} {options : FindOptions}

/-- Whether the walk sorts depends on the source of a plan only. -/
theorem walkSorts_of_source {q : Plan} (h : p.source = q.source) :
    p.walkSorts sort = q.walkSorts sort := by
  rw [walkSorts, walkSorts, index?, index?, h]

/-- Where the walk sorts, the plan scans an ordered index that has the sort fields in front. -/
theorem exists_scan_of_walkSorts (h : optimize collation f options ds = .ok p)
    (hwalk : p.walkSorts sort = true) :
    ∃ d conditions, p.source = .index d conditions ∧ d.isFullText = false ∧
      sort.map (·.1) <+: d.fields.fields ∧
      ∀ c ∈ conditions, c.isIndexable = true ∧ c.isText = false := by
  obtain ⟨q, hq, hsource, -⟩ := optimize_eq_ok h
  rw [walkSorts_of_source hsource] at hwalk
  rw [hsource]
  exact exists_scan_of_ofFilter hq hwalk

/-- A plan with sort keys leaves the order to its walk, or it sorts. -/
theorem sorts_optimize (h : optimize collation f options ds = .ok p)
    (hsort : options.sort.isEmpty = false) :
    (p.walkSorts options.sort = true ∧ p.scanOrder = .ofSort options.sort ∧ p.sort = []) ∨
      (p.walkSorts options.sort = false ∧ p.sort = options.sort ∧
        p.collation = some (options.collation.getD collation)) := by
  obtain ⟨q, hq, rfl⟩ := Result.map_eq_ok_iff.mp h
  have hnone := sort_ofFilter hq
  have hwalks : walkSorts { q.sorted options.sort with
      collation := some (options.collation.getD collation)
      skip := options.skip
      limit := options.limit } options.sort = q.walkSorts options.sort :=
    walkSorts_of_source (sorted_source q options.sort)
  rw [hwalks]
  cases hwalk : q.walkSorts options.sort with
  | true =>
    refine Or.inl ⟨rfl, ?_⟩
    simp [sorted, hsort, hwalk, hnone]
  | false =>
    refine Or.inr ⟨rfl, ?_⟩
    simp [sorted, hsort, hwalk]

end Plan

namespace View

variable {v : View} {s : Store} {stream : RecordStream} {sort : SortKeys}

/-- A walk along the sort keys delivers the records in their order, texts by code point. -/
theorem lookup_ordered (hv : v.ReadsFrom s) {d : IndexDescriptor} {conditions : List Comparison}
    (hindex : ∃ i ∈ v.indexes, i.descriptor = d ∧ i.Exact v.config v.records)
    (hkind : d.isFullText = false)
    (hfit : ∀ c ∈ conditions, c.isIndexable = true ∧ c.isText = false)
    (hleading : sort.map (·.1) <+: d.fields.fields) (hdistinct : (sort.map (·.1)).Nodup)
    (hkeys : ∀ e ∈ v.records, ∀ key ∈ sort, (e.2.valueAt key.1).isKey = true) {ids : RecordIdSet}
    (hscan : v.scan d (ScanOrder.ofSort sort) conditions = .ok ids) :
    (delivered (runLookup v.recordMap s ids)).Pairwise
      fun a b => a.2.orderBy .binary sort b.2 ≠ .gt := by
  have hlookup := yields_lookup hv.read ids
  unfold Yields at hlookup
  rw [run] at hlookup
  rw [hlookup.delivered_eq]
  have hids := ids_lookedUp_sublist v.records ids
  have hstored : ∀ e ∈ lookedUp v.records ids, e ∈ v.records := by
    intro e he
    exact ((mem_lookedUp hv.consistent.sorted).mp he).1
  obtain ⟨i, rfl, hexact, hreads⟩ := scan_of_exact hv.consistent hindex
  rw [hreads] at hscan
  cases sort with
  | nil =>
    refine List.pairwise_of_forall fun a b habove => ?_
    cases habove
  | cons key sort =>
    obtain ⟨rest, hfields⟩ := hleading
    have hordered := Content.scan_ordered hexact hkind hfields.symm hv.consistent.sorted
      hv.consistent.own hfit (fun e he => hkeys e he key List.mem_cons_self) hscan
    -- the lookup hands out the records in the order of the ids that the scan has found
    have hpaths := List.pairwise_map.mp (hordered.sublist hids)
    refine hpaths.imp_of_mem fun {a b} ha hb hab => ?_
    refine ScanOrder.orderBy_of_comparePaths ⟨rest, hfields⟩ (fun key' hkey' => ?_)
      (hab a (hstored a ha) b (hstored b hb) rfl rfl)
    exact ScanOrder.isReverse_add [] hdistinct hkey'

/-- The stream of a plan is that of its source with the stages behind it. -/
theorem streamOf_eq (v : View) (p : Plan) :
    v.streamOf p = (v.streamOfSource p.scanOrder p.source).bind
      (staged p.residual p.sort p.collation p.skip p.limit) := by
  cases p
  rw [streamOf]

/-- The stream of a plan delivers the records in the order of the sort keys. -/
theorem streamOf_ordered (hv : v.ReadsFrom s) {collation : Text.Collation} {f : Filter}
    {options : FindOptions} {ds : List IndexDescriptor} {p : Plan}
    (h : Plan.optimize collation f options ds = .ok p) (hbacks : v.Backs p)
    (hdistinct : (options.sort.map (·.1)).Nodup)
    (hkeys : ∀ e ∈ v.records, ∀ key ∈ options.sort, (e.2.valueAt key.1).isKey = true)
    (hstream : v.streamOf p = .ok stream) :
    (delivered (run s stream)).Pairwise fun a b =>
      a.2.orderBy (if p.walkSorts options.sort then .binary else options.collation.getD collation)
        options.sort b.2 ≠ .gt := by
  rw [streamOf_eq] at hstream
  obtain ⟨source, hof, hstaged⟩ := Result.bind_eq_ok_iff.mp hstream
  have hsublist := delivered_staged (s := s) hstaged
  cases hempty : options.sort.isEmpty with
  | true =>
    rw [List.isEmpty_iff.mp hempty]
    exact List.pairwise_of_forall fun a b => nofun
  | false =>
    rcases Plan.sorts_optimize h hempty with ⟨hwalk, horder, hnone⟩ | ⟨hwalk, hsort, hcollation⟩
    · -- nothing is left to sort: the index is walked along the sort keys
      obtain ⟨d, conditions, hscan, hkind, hleading, hfit⟩ := Plan.exists_scan_of_walkSorts h hwalk
      have hindex : d ∈ p.indexes := by
        rw [Plan.indexes_eq, hscan]
        exact List.mem_singleton_self d
      rw [hscan, horder, streamOfSource] at hof
      obtain ⟨ids, hids, rfl⟩ := Result.map_eq_ok_iff.mp hof
      have hordered :=
        lookup_ordered hv (hbacks d hindex) hkind hfit hleading hdistinct hkeys hids
      have hsifted := delivered_sifted (s := s) p.residual (.lookup v.recordMap ids)
      rw [hnone] at hsublist
      rw [run] at hsifted
      rw [if_pos hwalk]
      exact hordered.sublist (hsublist.trans hsifted)
    · -- the records are sorted, wherever they come from
      have hinOrder : inOrder p.sort p.collation (sifted p.residual source)
          = .sorted (sifted p.residual source) options.sort (options.collation.getD collation) := by
        rw [hsort, hcollation, inOrder, hempty]
        rfl
      rw [hinOrder, run] at hsublist
      rw [hwalk]
      exact (runSorted_ordered _).sublist hsublist

end View

namespace Session

variable {σ : Type} {s : Session σ} {f : Filter} {options : FindOptions} {docs : List Document}

/-- A query whose sort keys are about distinct fields, with nothing but keys in the stored
documents, finds its documents in the order of the sort keys. Texts are compared by the
collation of the options or, without one, of the collection if the plan sorts, and by code point
if it leaves the order to the walk of an index. -/
theorem found_in_order (h : s.Sound) (hp : s.view.Plain) (hc : s.view.Consistent)
    (hdistinct : (options.sort.map (·.1)).Nodup)
    (hkeys : ∀ e ∈ s.view.records, ∀ key ∈ options.sort, (e.2.valueAt key.1).isKey = true)
    (hfinds : s.Finds f options docs) :
    ∃ p, Plan.optimize s.view.config.collation f options s.view.offered = .ok p ∧
      docs.Pairwise fun d e =>
        d.orderBy (if p.walkSorts options.sort then .binary
          else options.collation.getD s.view.config.collation) options.sort e ≠ .gt := by
  obtain ⟨v, store, p, stream, es, hrecords, hreads, hbacks, hplan, hstream, hes, rfl⟩ :=
    hfinds.carried_out h hp hc
  rw [← hrecords] at hkeys
  have hordered := View.streamOf_ordered hreads hplan hbacks hdistinct hkeys hstream
  rw [Clean.delivered_eq hes] at hordered
  exact ⟨p, hplan, List.pairwise_map.mpr hordered⟩

/-- Two records with a name. By code point the capital comes first, by the alphabet second. -/
def namedRecords : List Entry :=
  [(⟨1⟩, ⟨[("_id", .string "1"), ("name", .string "apple")]⟩),
    (⟨2⟩, ⟨[("_id", .string "2"), ("name", .string "Zebra")]⟩)]

/-- A query for names in alphabetical order. -/
def byName : FindOptions := { sort := [("name", .ascending)], collation := some .unicode }

/-- The records with a name that is not below the empty text. -/
def anyName : Filter := .compare ⟨"name", .range .gte (.string "")⟩

/-- A collection of these records with an index on the name. -/
def namesView : View := .firstBuilt namedRecords ⟨.nonUnique, ⟨["name"]⟩, "c"⟩ []

/-- Some session that can be reached has these records and no index. -/
theorem exists_names : ∃ s : Session Unit, s.Sound ∧ s.view.Plain ∧ s.view.Consistent ∧
    s.view = namesView :=
  exists_first_built (by decide)
    (by simp only [namedRecords, List.forall_mem_cons]; exact ⟨rfl, rfl, nofun⟩) (by decide)

/-- The names can be keys. -/
theorem namedRecords_keys :
    ∀ e ∈ namedRecords, ∀ key ∈ byName.sort, (e.2.valueAt key.1).isKey = true := by
  simp only [namedRecords, byName, List.forall_mem_cons]
  decide

/-- The walk of the index on the name finds the capital first. -/
theorem names_by_walk {s : Session Unit} (h : s.Sound) (hview : s.view = namesView) :
    s.Finds anyName byName (namedRecords.reverse.map (·.2)) := by
  let d : IndexDescriptor := ⟨.nonUnique, ⟨["name"]⟩, "c"⟩
  let p : Plan :=
    { source := .index d [⟨"name", .range .gte (.string "")⟩]
      scanOrder := [("name", false)]
      collation := some .unicode }
  have htrusted : ∃ i ∈ namesView.indexes, i.descriptor = d ∧ namesView.trusts i = true := by
    decide +kernel
  have hoffered : namesView.offered = [d] := by decide +kernel
  have hplan :
      Plan.optimize namesView.config.collation anyName byName namesView.offered = .ok p := by
    rw [hoffered]
    rfl
  have hstream : namesView.streamOf p = .ok (.lookup ⟨0⟩ [⟨2⟩, ⟨1⟩]) := by rfl
  rw [← hview] at htrusted hplan hstream
  refine finds_of_fit h hplan ?_ hstream fun store hread => ?_
  · intro d' hd'
    rw [List.mem_singleton.mp hd']
    exact htrusted
  · rw [hview] at hread ⊢
    exact Cursor.toList_of_yields (yields_lookup hread [⟨2⟩, ⟨1⟩])

/-- All records sorted by name are in alphabetical order. -/
theorem names_sorted {s : Session Unit} (h : s.Sound) (hview : s.view = namesView) :
    s.Finds .everything byName (namedRecords.map (·.2)) := by
  let p : Plan := { source := .collection, sort := byName.sort, collation := some .unicode }
  have hoffered : namesView.offered = [⟨.nonUnique, ⟨["name"]⟩, "c"⟩] := by decide +kernel
  have hplan :
      Plan.optimize namesView.config.collation .everything byName namesView.offered = .ok p := by
    rw [hoffered]
    rfl
  have hstream : namesView.streamOf p
      = .ok (.sorted (.walk (Walk.start ⟨0⟩ false)) byName.sort .unicode) := by rfl
  rw [← hview] at hplan hstream
  refine finds_of_fit h hplan (fun d hd => nomatch hd) hstream fun store hread => ?_
  rw [hview] at hread ⊢
  have hread' : (store.map ⟨0⟩).read = .ok namedRecords := hread
  have hrun : RecordStream.run store (.sorted (.walk (Walk.start ⟨0⟩ false)) byName.sort .unicode)
      = runItems (namedRecords.map .ok) := by
    -- the rows are compared under the collation, which puts no capitals in front
    have hrows : ((RecordStream.run store (.walk (Walk.start ⟨0⟩ false))).mapM fun step =>
        sortRow byName.sort step.1)
          = .ok (namedRecords.map fun e => (sortValues byName.sort e.2, e)) := by
      simp only [RecordStream.run, RecordStream.runWalk, Walk.run, Walk.start, hread']
      rfl
    have hfirst : compareRows .unicode byName.sort [.string "apple"] [.string "Zebra"] = .lt := by
      decide +kernel
    rw [RecordStream.run, runSorted, hrows]
    exact congrArg (fun es => runItems (es.map .ok)) (sortRows_pair _ _ hfirst)
  simp only [Cursor.toList, Cursor.drain, Cursor.run, hrun]
  rfl

/-- A query finds two names in the order of their code points where it walks the index, and in
alphabetical order where it sorts. -/
theorem found_in_order_names :
    ∃ s : Session Unit, s.Sound ∧ s.view.Plain ∧ s.view.Consistent ∧
      (byName.sort.map (·.1)).Nodup ∧
      (∀ e ∈ s.view.records, ∀ key ∈ byName.sort, (e.2.valueAt key.1).isKey = true) ∧
      (s.Finds anyName byName (namedRecords.reverse.map (·.2)) ∧
        (namedRecords.reverse.map (·.2)).Pairwise fun d e =>
          d.orderBy .binary byName.sort e ≠ .gt) ∧
      (s.Finds .everything byName (namedRecords.map (·.2)) ∧
        (namedRecords.map (·.2)).Pairwise fun d e => d.orderBy .unicode byName.sort e ≠ .gt) := by
  obtain ⟨s, h, hp, hc, hview⟩ := exists_names
  have hdistinct : (byName.sort.map (·.1)).Nodup := List.nodup_singleton _
  have hkeys : ∀ e ∈ s.view.records, ∀ key ∈ byName.sort, (e.2.valueAt key.1).isKey = true := by
    rw [hview]
    exact namedRecords_keys
  have hwalk := names_by_walk h hview
  have hsort := names_sorted h hview
  obtain ⟨p, hplan, horder⟩ := found_in_order h hp hc hdistinct hkeys hwalk
  obtain ⟨q, hplan', horder'⟩ := found_in_order h hp hc hdistinct hkeys hsort
  have hoffered : namesView.offered = [⟨.nonUnique, ⟨["name"]⟩, "c"⟩] := by decide +kernel
  rw [hview, hoffered] at hplan hplan'
  cases hplan
  cases hplan'
  exact ⟨s, h, hp, hc, hdistinct, hkeys, ⟨hwalk, horder⟩, ⟨hsort, horder'⟩⟩

/-- The collation of the options does not order what an index walk finds: in alphabetical order the
second of these documents belongs before the first. -/
theorem not_always_in_collation_order :
    ∃ (s : Session Unit) (f : Filter) (options : FindOptions) (docs : List Document),
      s.Sound ∧ s.view.Plain ∧ s.view.Consistent ∧ (∀ i ∈ s.view.indexes, s.view.trusts i = true) ∧
      (options.sort.map (·.1)).Nodup ∧
      (∀ e ∈ s.view.records, ∀ key ∈ options.sort, (e.2.valueAt key.1).isKey = true) ∧
      s.Finds f options docs ∧
      ¬ docs.Pairwise fun d e =>
        d.orderBy (options.collation.getD s.view.config.collation) options.sort e ≠ .gt := by
  obtain ⟨s, h, hp, hc, hview⟩ := exists_names
  refine ⟨s, anyName, byName, _, h, hp, hc, ?_, List.nodup_singleton _, ?_,
    names_by_walk h hview, ?_⟩
  · rw [hview]
    decide +kernel
  · rw [hview]
    exact namedRecords_keys
  · intro hordered
    have hfirst := (List.pairwise_cons.mp hordered).1 _ (List.mem_singleton_self _)
    apply hfirst
    show Document.orderBy .unicode byName.sort _ _ = .gt
    decide +kernel

end Session

end DocumentDb
