import DocumentDb.Proofs.Index.Scanning
import DocumentDb.Proofs.Query.SortOrder

/-!
# `DocumentDb.Proofs.Index.Walking`: the order of a scan

`Scanning` says which ids a scan finds. This module says in which order. A walk comes to the
posting lists of a tree in the order of their paths, `ScanOrder.comparePaths`, so the ids that it
finds come along these paths (`Scan.Along`, `scanNode_along`).

`Content.scan_ordered` is the same for the documents of an exact index whose first field holds no
arrays: every document then stands at a single path, that of the keys of its fields.
-/

set_option autoImplicit false

namespace DocumentDb

open SortedEntries (Sorted)
open Std (TransCmp)

namespace Scan

variable {order : ScanOrder}

/-- Ids come along the paths at which they stand, in the order of a walk. -/
def Along (order : ScanOrder) (fields : List String) (stands : List Key → RecordId → Prop)
    (ids : List RecordId) : Prop :=
  ∃ visits : List (List Key × RecordId), visits.map (·.2) = ids ∧
    (∀ v ∈ visits, stands v.1 v.2) ∧
    visits.Pairwise fun v w => order.comparePaths fields v.1 w.1 ≠ .gt

variable {fields : List String} {stands stands' : List Key → RecordId → Prop} {ids : List RecordId}

/-- Ids may stand at more paths. -/
theorem Along.mono (h : Along order fields stands ids)
    (hstands : ∀ path id, stands path id → stands' path id) : Along order fields stands' ids := by
  obtain ⟨visits, hids, hall, horder⟩ := h
  exact ⟨visits, hids, fun v hv => hstands _ _ (hall v hv), horder⟩

/-- Some of the ids come in the same order. -/
theorem Along.sublist (h : Along order fields stands ids) {ids' : List RecordId}
    (hsublist : ids'.Sublist ids) : Along order fields stands ids' := by
  obtain ⟨visits, rfl, hall, horder⟩ := h
  obtain ⟨visits', hvisits, rfl⟩ := List.sublist_map_iff.mp hsublist
  exact ⟨visits', rfl, fun v hv => hall v (hvisits.subset hv), horder.sublist hvisits⟩

/-- No ids come in any order. -/
theorem along_nil : Along order fields stands [] := ⟨[], rfl, List.forall_mem_nil _, .nil⟩

/-- The walk of a tree comes along its paths. Ids at one path come in any order. -/
theorem scanNode_along {depth : Nat} {node : Node} (hnode : node.Uniform depth)
    (fields : List String) {conditions : List Comparison} {ss : List Selection}
    (h : Selects conditions ss) {ids : List RecordId}
    (hscan : scanNode order fields conditions node = .ok ids) :
    Along order fields (fun path id => id ∈ node.idsAt path) ids := by
  obtain ⟨visits, hvisits, hscan'⟩ : ∃ visits, Visits order fields (admits ss) node visits ∧ _ :=
    scanNode_visits hnode fields h
  obtain rfl : ids = visits.flatMap (·.2) := Except.ok.inj (hscan.symm.trans hscan')
  -- each id comes with the path under which it was visited
  refine ⟨visits.flatMap fun v => v.2.map fun id => (v.1, id), ?_, ?_, ?_⟩
  · rw [List.map_flatMap]
    refine List.flatMap_congr fun v _ => ?_
    rw [List.map_map]
    exact List.map_id v.2
  · intro w hw
    obtain ⟨v, hv, hw⟩ := List.mem_flatMap.mp hw
    obtain ⟨id, hid, rfl⟩ := List.mem_map.mp hw
    rw [hnode.idsAt_eq (List.mem_filter.mp (hvisits.perm.mem_iff.mp hv)).1]
    exact hid
  · rw [List.pairwise_flatMap]
    constructor
    · intro v _
      refine List.pairwise_map.mpr (List.pairwise_of_forall fun id id' => ?_)
      rw [ScanOrder.comparePaths_self]
      decide
    · refine hvisits.ordered.imp fun {v w} hvw x hx y hy => ?_
      obtain ⟨id, -, rfl⟩ := List.mem_map.mp hx
      obtain ⟨id', -, rfl⟩ := List.mem_map.mp hy
      rw [hvw]
      decide

end Scan

/-! ### Documents -/

namespace ScanOrder

open Scan

variable {order : ScanOrder}

/-- The order of paths does not tell equal keys apart. -/
theorem comparePaths_congr (fields : List String) {p p' q q' : List Key}
    (hp : samePath p p' = true) (hq : samePath q q' = true) :
    order.comparePaths fields p q = order.comparePaths fields p' q' := by
  induction p generalizing fields p' q q' with
  | nil =>
    cases p' with
    | nil => cases q <;> cases q' <;> rfl
    | cons a' p' => cases hp
  | cons a p ih =>
    cases p' with
    | nil => cases hp
    | cons a' p' =>
      cases q with
      | nil =>
        cases q' with
        | nil => rfl
        | cons b' q' => cases hq
      | cons b q =>
        cases q' with
        | nil => cases hq
        | cons b' q' =>
          rw [samePath, Bool.and_eq_true] at hp hq
          -- equal keys compare alike, first on the one side and then on the other
          have hleft : Ord.compare a b = Ord.compare a' b :=
            TransCmp.congr_left (Key.same_iff.mp hp.1)
          have hright : Ord.compare a' b = Ord.compare a' b' :=
            TransCmp.congr_right (Key.same_iff.mp hq.1)
          have hkeys : a.compare b = a'.compare b' := hleft.trans hright
          rw [comparePaths, comparePaths, hkeys, ih fields.tail hp.2 hq.2]

end ScanOrder

variable {tokenizer : Text.Tokenizer} {d : IndexDescriptor} {doc : Document} {id : RecordId}

/-- The keys of a document under the fields of an index. -/
def Document.keysAt (doc : Document) (fields : List String) : List Key := fields.map doc.keyAt

/-- Values that are those of keys lead to these keys. -/
theorem Document.keysAt_eq {fields : List String} {ks : List Key}
    (h : fields.map doc.valueAt = ks.map Key.value) : doc.keysAt fields = ks := by
  induction fields generalizing ks with
  | nil => exact (List.map_eq_nil_iff.mp h.symm).symm
  | cons field fields ih =>
    cases ks with
    | nil => cases h
    | cons k ks =>
      obtain ⟨hvalue, hrest⟩ := List.cons.inj h
      have hkey : doc.keyAt field = k := by
        rw [keyAt, Key.ofValue?_eq_some.mpr hvalue, Option.getD_some]
      show doc.keyAt field :: doc.keysAt fields = k :: ks
      rw [hkey, ih hrest]

/-- A document with a key in its first field stands at one path of an ordered index. -/
theorem Document.samePath_of_belongsAt (hkind : d.isFullText = false) {field : String}
    {rest : List String} (hfields : d.fields.fields = field :: rest)
    (hid : doc.id = .ok (some id)) (hkey : (doc.valueAt field).isKey = true) {path : List Key}
    (h : doc.BelongsAt tokenizer d (.path path)) :
    samePath path (doc.keysAt d.fields.fields) = true := by
  obtain ⟨ps, hps, hamong⟩ := h
  obtain ⟨keys, below, hkeys, hbelow, -⟩ := (Document.placesIn_ordered hkind hfields hid).mp hps
  obtain ⟨k, hk, hsame⟩ :=
    (Document.belongsAt_ordered hkind hfields hid hkeys hbelow path).mp ⟨ps, hps, hamong⟩
  -- a key does not fan out
  have harray : (doc.valueAt field).isArray = false := by
    rw [← Document.keyAt_value hkey]
    exact Key.value_isArray _
  rw [FanOut.firstKeys_of_not_isArray harray] at hkeys
  obtain ⟨k', hk', rfl⟩ := Result.map_eq_ok_iff.mp hkeys
  obtain rfl : k = k' := List.mem_singleton.mp hk
  have hvalues : d.fields.fields.map doc.valueAt = (k :: below).map Key.value := by
    rw [hfields, List.map_cons, List.map_cons, FanOut.keyOf_eq_ok.mp hk', hbelow]
  rw [Document.keysAt_eq hvalues]
  exact hsame

namespace Content

variable {config : Config} {records : List (RecordId × Document)} {i : IndexState}
  {conditions : List Comparison} {order : ScanOrder} {ids : RecordIdSet}

/-- A scan of an exact ordered index comes along the places where documents belong. -/
theorem scan_along (hexact : i.Exact config records) (hkind : i.descriptor.isFullText = false)
    (hfit : ∀ c ∈ conditions, c.isIndexable = true ∧ c.isText = false)
    (hscan : i.content.scan config.tokenizer i.descriptor order conditions = .ok ids) :
    Scan.Along order i.descriptor.fields.fields
      (fun path id => ∃ e ∈ records, e.1 = id ∧
        e.2.BelongsAt config.tokenizer i.descriptor (.path path)) ids := by
  have hwf := hexact.wellFormed
  unfold IndexState.WellFormed at hwf
  cases hcontent : i.content with
  | fullText postings =>
    rw [hcontent] at hwf
    rw [hwf.1] at hkind
    cases hkind
  | ordered level =>
    rw [hcontent] at hwf hscan
    obtain ⟨ss, hss⟩ := Scan.exists_selects hfit
    obtain ⟨⟨⟩, -, hscan⟩ := Result.bind_eq_ok_iff.mp hscan
    obtain ⟨looks, -, hscan⟩ := Result.bind_eq_ok_iff.mp hscan
    -- conditions that no key can meet are answered without a look at the tree
    cases looks with
    | false =>
      cases hscan
      exact Scan.along_nil
    | true =>
      obtain ⟨-, -, hscan⟩ := Result.bind_eq_ok_iff.mp hscan
      obtain ⟨found, hfound, rfl⟩ := Result.map_eq_ok_iff.mp hscan
      have halong := Scan.scanNode_along hwf.2.uniform i.descriptor.fields.fields hss hfound
      refine (halong.sublist (RecordIdSet.addAll_sublist found)).mono fun path id hid => ?_
      rw [← hexact.mem_iff, hcontent]
      exact hid

/-- A scan of an exact ordered index hands out ids in the order of its walk, if the first field
of the index holds no arrays. -/
theorem scan_ordered (hexact : i.Exact config records) (hkind : i.descriptor.isFullText = false)
    {field : String} {rest : List String} (hfields : i.descriptor.fields.fields = field :: rest)
    (hsorted : Sorted records) (hown : ∀ e ∈ records, e.2.id = .ok (some e.1))
    (hfit : ∀ c ∈ conditions, c.isIndexable = true ∧ c.isText = false)
    (hkeys : ∀ e ∈ records, (e.2.valueAt field).isKey = true)
    (hscan : i.content.scan config.tokenizer i.descriptor order conditions = .ok ids) :
    ids.Pairwise fun x y => ∀ a ∈ records, ∀ b ∈ records, a.1 = x → b.1 = y →
      order.comparePaths i.descriptor.fields.fields (a.2.keysAt i.descriptor.fields.fields)
        (b.2.keysAt i.descriptor.fields.fields) ≠ .gt := by
  obtain ⟨visits, rfl, hall, horder⟩ := scan_along hexact hkind hfit hscan
  -- the path of a visit is that of the one record with its id
  have hpath : ∀ v ∈ visits, ∀ a ∈ records, a.1 = v.2 →
      samePath v.1 (a.2.keysAt i.descriptor.fields.fields) = true := by
    intro v hv a ha hid
    obtain ⟨e, he, heq, hbelongs⟩ := hall v hv
    obtain rfl : e = a := List.inj_on_of_nodup_map hsorted.nodup_keys he ha (heq.trans hid.symm)
    exact Document.samePath_of_belongsAt hkind hfields (hown e he) (hkeys e he) hbelongs
  refine List.pairwise_map.mpr (horder.imp_of_mem fun {v w} hv hw hvw => ?_)
  intro a ha b hb hav hbw
  rwa [← ScanOrder.comparePaths_congr _ (hpath v hv a ha hav) (hpath w hw b hb hbw)]

end Content

end DocumentDb
