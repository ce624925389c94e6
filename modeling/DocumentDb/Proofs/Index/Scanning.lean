import DocumentDb.Proofs.Index.Places
import DocumentDb.Proofs.Index.RecordIdSet
import DocumentDb.Proofs.Index.Visiting
import DocumentDb.Proofs.Querying

/-!
# `DocumentDb.Proofs.Index.Scanning`: what a scan of an index finds

A scan visits the posting lists under the paths that the conditions let through, so it finds
the ids at the end of just these paths (`scanNode_spec`). On an exact index these are the records
whose documents meet the conditions (`Content.scan_spec`). The order of the walk decides in
which order they come, not which.
-/

set_option autoImplicit false

namespace DocumentDb

open SortedEntries (Sorted)

namespace Scan

/-- The walk of a tree finds the ids at the end of the paths that the conditions let through. -/
theorem scanNode_spec {order : ScanOrder} {depth : Nat} {node : Node} (hnode : node.Uniform depth)
    (fields : List String) {conditions : List Comparison} {ss : List Selection}
    (h : Selects conditions ss) :
    ∃ ids, scanNode order fields conditions node = .ok ids ∧
      ∀ id, id ∈ ids ↔ ∃ path, id ∈ node.idsAt path ∧ admits ss path = true := by
  obtain ⟨visits, hvisits, hscan⟩ : ∃ visits, Visits order fields (admits ss) node visits ∧ _ :=
    scanNode_visits hnode fields h
  exact ⟨_, hscan, hvisits.mem_iff hnode fun _ _ => admits_congr ss⟩

/-! ### Documents -/

variable {tokenizer : Text.Tokenizer} {d : IndexDescriptor} {doc : Document}
  {conditions : List Comparison} {ss : List Selection}

/-- Conditions that pass the check are on the leading fields, one by one. -/
theorem checkFields_cons {c : Comparison} {field : String} {fields : List String}
    (h : checkFields (c :: conditions) (field :: fields) = .ok ()) :
    c.field = field ∧ checkFields conditions fields = .ok () := by
  rw [checkFields] at h
  split at h
  · rename_i hfield
    exact ⟨hfield, h⟩
  · cases h

/-- Conditions on fields with single values are met when the selections admit the path that the
values make. -/
theorem admits_values {fields : List String} {path : List Key} (h : Selects conditions ss)
    (hindexable : ∀ c ∈ conditions, c.isIndexable = true)
    (hlength : conditions.length ≤ fields.length) (hcheck : checkFields conditions fields = .ok ())
    (hpath : fields.map doc.valueAt = path.map Key.value) :
    admits ss path = true ↔ ∀ c ∈ conditions, c.holds doc = .ok true := by
  induction h generalizing fields path with
  | nil => simp [admits_nil_left]
  | @cons c s conditions ss hc hrest ih =>
    cases fields with
    | nil => simp at hlength
    | cons field fields =>
      obtain ⟨rfl, hlater⟩ := checkFields_cons hcheck
      cases path with
      | nil => cases hpath
      | cons k path =>
        obtain ⟨hvalue, hpath⟩ := List.cons.inj hpath
        rw [List.forall_mem_cons] at hindexable
        have hholds : c.holds doc = .ok (s.takes k) := by
          rw [Comparison.holds, hvalue, FanOut.key_holds hc hindexable.1]
        rw [List.forall_mem_cons, ← ih hindexable.2 (by simpa using hlength) hlater hpath, hholds,
          admits, Bool.and_eq_true, Except.ok.injEq]

/-- A document of an ordered index meets conditions on the leading fields when it belongs at a
path that they let through. -/
theorem exists_admitted_iff (hkind : d.isFullText = false) (hid : ∃ id, doc.id = .ok (some id))
    (hdoc : doc.Indexable tokenizer d) (h : Selects conditions ss)
    (hindexable : ∀ c ∈ conditions, c.isIndexable = true) (hne : conditions ≠ [])
    (hcheck : check d.fields.fields conditions = .ok ()) :
    (∃ path, doc.BelongsAt tokenizer d (.path path) ∧ admits ss path = true) ↔
      ∀ c ∈ conditions, c.holds doc = .ok true := by
  obtain ⟨id, hid⟩ := hid
  obtain ⟨ps, hps⟩ := hdoc
  have hfits : conditions.length ≤ d.fields.fields.length ∧
      checkFields conditions d.fields.fields = .ok () := by
    rw [check] at hcheck
    split at hcheck
    · cases hcheck
    · rename_i hlength
      exact ⟨Nat.not_lt.mp hlength, hcheck⟩
  obtain ⟨hlength, hcheck⟩ := hfits
  cases h with
  | nil => exact absurd rfl hne
  | @cons c s conditions ss hc hrest =>
    cases hfields : d.fields.fields with
    | nil =>
      rw [hfields] at hlength
      simp at hlength
    | cons field fields =>
      rw [hfields] at hcheck hlength
      obtain ⟨rfl, hlater⟩ := checkFields_cons hcheck
      obtain ⟨keys, path, hkeys, hpath, rfl⟩ :=
        (Document.placesIn_ordered hkind hfields hid).mp hps
      rw [List.forall_mem_cons] at hindexable
      -- The first field may give several keys, and one that is let through is enough.
      have hfirst : c.holds doc = .ok (keys.any s.takes) :=
        FanOut.firstKeys_holds hc hindexable.1 hkeys
      have hpaths := admits_values hrest hindexable.2 (by simpa using hlength) hlater hpath
      rw [List.forall_mem_cons, ← hpaths, hfirst, Except.ok.injEq, List.any_eq_true]
      have hbelongs : ∀ q, doc.BelongsAt tokenizer d (.path q) ↔
          ∃ k ∈ keys, samePath q (k :: path) = true :=
        Document.belongsAt_ordered hkind hfields hid hkeys hpath
      constructor
      · rintro ⟨q, hq, hadmits⟩
        obtain ⟨k, hk, hsame⟩ := (hbelongs q).mp hq
        rw [admits_congr _ hsame, admits, Bool.and_eq_true] at hadmits
        exact ⟨⟨k, hk, hadmits.1⟩, hadmits.2⟩
      · rintro ⟨⟨k, hk, htakes⟩, hadmits⟩
        refine ⟨k :: path, (hbelongs _).mpr ⟨k, hk, samePath_refl _⟩, ?_⟩
        rw [admits, htakes, hadmits]
        rfl

/-- When the first condition wants no key, no path with a key is let through. -/
theorem admits_cons_of_not_looks (h : Selects conditions ss) (hne : conditions ≠ [])
    (hlooks : looksAtTree conditions = .ok false) (k : Key) (path : List Key) :
    admits ss (k :: path) = false := by
  cases h with
  | nil => exact absurd rfl hne
  | @cons c s conditions ss hc hrest =>
    obtain ⟨s', hs', hempty⟩ := Result.map_eq_ok_iff.mp hlooks
    obtain rfl : s' = s := Except.ok.inj (hs'.symm.trans hc)
    cases s' with
    | these ks =>
      have hks : ks = [] := by simpa using hempty
      simp [admits, Selection.takes, hks]
    | range op bound => cases hempty
    | allBut ks => cases hempty

end Scan

namespace Content

open Scan

variable {config : Config} {records : List (RecordId × Document)} {i : IndexState}
  {conditions : List Comparison}

/-- What an exact ordered index holds at the paths that the conditions let through. -/
theorem exists_admitted_id_iff (hexact : i.Exact config records)
    (hown : ∀ e ∈ records, e.2.id = .ok (some e.1)) (hkind : i.descriptor.isFullText = false)
    {level : Level} (hcontent : i.content = .ordered level) {ss : List Selection}
    (hss : Selects conditions ss) (hne : conditions ≠ [])
    (hindexable : ∀ c ∈ conditions, c.isIndexable = true)
    (hcheck : check i.descriptor.fields.fields conditions = .ok ()) (id : RecordId) :
    (∃ path, id ∈ Node.idsAt path (.inner level) ∧ admits ss path = true) ↔
      ∃ e ∈ records, e.1 = id ∧ ∀ c ∈ conditions, c.holds e.2 = .ok true := by
  -- the index has an id at the paths where its document belongs
  have hat : ∀ path, id ∈ Node.idsAt path (.inner level) ↔
      ∃ e ∈ records, e.1 = id ∧ e.2.BelongsAt config.tokenizer i.descriptor (.path path) := by
    intro path
    rw [← hexact.mem_iff, hcontent]
    rfl
  have hdocs : ∀ e ∈ records, (∃ path, e.2.BelongsAt config.tokenizer i.descriptor (.path path) ∧
      admits ss path = true) ↔ ∀ c ∈ conditions, c.holds e.2 = .ok true :=
    fun e he => exists_admitted_iff hkind ⟨_, hown e he⟩ (hexact.indexable e he) hss hindexable hne
      hcheck
  constructor
  · rintro ⟨path, hid, hadmits⟩
    obtain ⟨e, he, rfl, hbelongs⟩ := (hat path).mp hid
    exact ⟨e, he, rfl, (hdocs e he).mp ⟨path, hbelongs, hadmits⟩⟩
  · rintro ⟨e, he, rfl, hmeets⟩
    obtain ⟨path, hbelongs, hadmits⟩ := (hdocs e he).mpr hmeets
    exact ⟨path, (hat path).mpr ⟨e, he, rfl, hbelongs⟩, hadmits⟩

/-- A scan of an exact ordered index finds the records whose documents meet the conditions, each
once. -/
theorem scan_spec (hexact : i.Exact config records)
    (hown : ∀ e ∈ records, e.2.id = .ok (some e.1)) (hkind : i.descriptor.isFullText = false)
    (hne : conditions ≠ [])
    (hfit : ∀ c ∈ conditions, c.isIndexable = true ∧ c.isText = false) {order : ScanOrder}
    {ids : RecordIdSet}
    (hscan : i.content.scan config.tokenizer i.descriptor order conditions = .ok ids) :
    ids.Nodup ∧ ∀ id, id ∈ ids ↔
      ∃ e ∈ records, e.1 = id ∧ ∀ c ∈ conditions, c.holds e.2 = .ok true := by
  have hwf := hexact.wellFormed
  unfold IndexState.WellFormed at hwf
  cases hcontent : i.content with
  | fullText postings =>
    rw [hcontent] at hwf
    rw [hwf.1] at hkind
    cases hkind
  | ordered level =>
    rw [hcontent] at hwf hscan
    obtain ⟨ss, hss⟩ := exists_selects hfit
    obtain ⟨⟨⟩, hcheck, hscan⟩ := Result.bind_eq_ok_iff.mp hscan
    obtain ⟨looks, hlooks, hscan⟩ := Result.bind_eq_ok_iff.mp hscan
    have hheld := exists_admitted_id_iff hexact hown hkind hcontent hss hne
      (fun c hc => (hfit c hc).1) hcheck
    cases looks with
    | true =>
      obtain ⟨-, -, hscan⟩ := Result.bind_eq_ok_iff.mp hscan
      obtain ⟨found, hfound, rfl⟩ := Result.map_eq_ok_iff.mp hscan
      obtain ⟨found', hfound', hmem⟩ := scanNode_spec hwf.2.uniform i.descriptor.fields.fields hss
      obtain rfl : found' = found := Except.ok.inj (hfound'.symm.trans hfound)
      refine ⟨RecordIdSet.nodup_addAll_nil _, fun id => ?_⟩
      rw [RecordIdSet.mem_addAll, ← hheld, ← hmem]
      simp
    | false =>
      -- no key is wanted, and every path to an id has a first key
      cases hscan
      refine ⟨List.nodup_nil, fun id => ?_⟩
      rw [← hheld]
      refine iff_of_false (by simp) ?_
      rintro ⟨path, hid, hadmits⟩
      cases path with
      | nil => simp at hid
      | cons k path =>
        rw [admits_cons_of_not_looks hss hne hlooks] at hadmits
        cases hadmits

end Content

end DocumentDb
