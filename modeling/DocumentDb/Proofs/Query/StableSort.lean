import DocumentDb.Proofs.Query.SortOrder

/-!
# `DocumentDb.Proofs.Query.StableSort`: a sort as a whole

A sort takes all records of its source at the first pull and hands them out one by one afterwards,
so that it does not matter what happens to the store between the pulls.

* `StablySorted` says what a sort makes of some records: the same records, none before a lesser one,
  and those that compare equal in the order in which they came.
* `sorted_stably` says that a merge sort by `Document.orderBy` does that. It rests on the order
  being transitive and total (`precedes_trans`, `precedes_total`); a class of records that compare
  equal is an ordered sublist of the records, and a merge sort keeps such sublists.
* `sort_stable` puts this together with the pulls. A record that cannot be sorted makes the first
  pull an error, after which there is nothing.
-/

set_option autoImplicit false

namespace DocumentDb

open Std (TransCmp)

/-- Whether a document can be sorted: under every sort key it has null, a scalar, or nothing. -/
def Document.sortable (keys : SortKeys) (d : Document) : Bool :=
  keys.all fun key => (d.valueAt key.1).isKey

/-- Whether a sort does not tell a record from a document. -/
def Document.ties (collation : Text.Collation) (keys : SortKeys) (d : Document) (e : Entry) :
    Bool :=
  d.orderBy collation keys e.2 == .eq

/-- What a stable sort makes of some records. -/
structure StablySorted (collation : Text.Collation) (keys : SortKeys) (es out : List Entry) :
    Prop where
  perm : out.Perm es
  ordered : out.Pairwise fun a b => a.2.orderBy collation keys b.2 ≠ .gt
  /-- The records that compare equal to any one document keep their order. -/
  stable : ∀ d : Document, out.filter (d.ties collation keys) = es.filter (d.ties collation keys)

section ties

variable {collation : Text.Collation} {keys : SortKeys} {es out out' : List Entry}

/-- A document ties with itself. -/
theorem Document.ties_self (e : Entry) : e.2.ties collation keys e = true :=
  beq_iff_eq.mpr Std.ReflCmp.compare_self

/-- Records that a sort does not tell from one document compare equal. -/
theorem Document.ties_congr {d : Document} {a b : Entry} (ha : d.ties collation keys a = true)
    (hb : d.ties collation keys b = true) : a.2.orderBy collation keys b.2 = .eq := by
  rw [← TransCmp.congr_left (beq_iff_eq.mp ha)]
  exact beq_iff_eq.mp hb

/-- A record is in the class of records that it ties with. -/
theorem mem_of_equal_classes {a : Entry} (h : ∀ d : Document,
    out.filter (d.ties collation keys) = out'.filter (d.ties collation keys)) (ha : a ∈ out) :
    a ∈ out' := by
  have hclass : a ∈ out.filter (a.2.ties collation keys) :=
    List.mem_filter.mpr ⟨ha, Document.ties_self a⟩
  rw [h a.2] at hclass
  exact (List.mem_filter.mp hclass).1

/-- The first record of an ordered list is not above any other. -/
theorem head_le_of_mem {a b : Entry}
    (h : (a :: out).Pairwise fun a b => a.2.orderBy collation keys b.2 ≠ .gt)
    (hb : b ∈ a :: out) : (a.2.orderBy collation keys b.2).isLE := by
  rw [Ordering.isLE_iff_ne_gt]
  rcases List.mem_cons.mp hb with rfl | hb
  · rw [beq_iff_eq.mp (Document.ties_self b)]
    decide
  · exact (List.pairwise_cons.mp h).1 b hb

/-- Two ordered lists are equal if the records that compare equal to any one document come in the
same order in both. The first records of both are least, so they are in one class, and there they
come first. -/
theorem eq_of_equal_classes
    (h : out.Pairwise fun a b => a.2.orderBy collation keys b.2 ≠ .gt)
    (h' : out'.Pairwise fun a b => a.2.orderBy collation keys b.2 ≠ .gt)
    (hclasses : ∀ d : Document,
      out.filter (d.ties collation keys) = out'.filter (d.ties collation keys)) : out = out' := by
  have hsymm := fun d => (hclasses d).symm
  induction out generalizing out' with
  | nil =>
    refine (List.eq_nil_iff_forall_not_mem.mpr fun e he => ?_).symm
    exact List.not_mem_nil (mem_of_equal_classes hsymm he)
  | cons a out ih =>
    cases out' with
    | nil => exact absurd (mem_of_equal_classes hclasses List.mem_cons_self) List.not_mem_nil
    | cons b out' =>
      -- both heads are least, so they tie, and a class begins with the same entry in both lists
      have hle := head_le_of_mem h (mem_of_equal_classes hsymm List.mem_cons_self)
      have hge := head_le_of_mem h' (mem_of_equal_classes hclasses List.mem_cons_self)
      have hab : a.2.ties collation keys b = true :=
        beq_iff_eq.mpr (Std.OrientedCmp.isLE_antisymm hle hge)
      have hheads := hclasses a.2
      rw [List.filter_cons_of_pos (Document.ties_self a), List.filter_cons_of_pos hab] at hheads
      obtain rfl : a = b := (List.cons.inj hheads).1
      have htails : ∀ d : Document,
          out.filter (d.ties collation keys) = out'.filter (d.ties collation keys) := by
        intro d
        have hd := hclasses d
        by_cases hda : d.ties collation keys a = true
        · rw [List.filter_cons_of_pos hda, List.filter_cons_of_pos hda] at hd
          exact (List.cons.inj hd).2
        · rwa [List.filter_cons_of_neg hda, List.filter_cons_of_neg hda] at hd
      exact congrArg (List.cons a) (ih h.of_cons h'.of_cons htails fun d => (htails d).symm)

/-- There is one stable order of some records. -/
theorem StablySorted.unique (h : StablySorted collation keys es out)
    (h' : StablySorted collation keys es out') : out' = out :=
  eq_of_equal_classes h'.ordered h.ordered fun d => (h'.stable d).trans (h.stable d).symm

end ties

namespace RecordStream

/-- What a stream hands out, pull by pull, when every pull may meet another store. -/
def pulls : RecordStream → List Store → List (Option (Result Entry))
  | _, [] => []
  | stream, s :: later => (stream.pull s).1 :: pulls (stream.pull s).2 later

variable {s : Store} {inner : RecordStream} {keys : SortKeys} {collation : Text.Collation}
  {es : List Entry}

/-- Literal items are handed out one by one, and then nothing, whatever the stores are. -/
theorem pulls_items (left : List (Result Entry)) (stores : List Store) :
    pulls (.items left) stores = (List.range stores.length).map (left[·]?) := by
  induction stores generalizing left with
  | nil => rfl
  | cons s later ih =>
    rw [List.length_cons, List.range_succ_eq_map, List.map_cons, List.map_map, pulls]
    cases left with
    | nil =>
      have hpull : pull s (.items []) = (none, .items []) := by
        rw [pull, run]
        rfl
      rw [hpull, ih]
      rfl
    | cons item left =>
      have hpull : pull s (.items (item :: left)) = (some item, .items left) := by
        rw [pull, run]
        rfl
      rw [hpull, ih]
      rfl

/-- A stream of which the first pull decides goes on as the items that it has from then on. -/
theorem pulls_of_run {stream : RecordStream} {items : List (Result Entry)}
    (h : stream.run s = runItems items) (later : List Store) :
    pulls stream (s :: later) = (List.range (later.length + 1)).map (items[·]?) := by
  have hpull : stream.pull s = pull s (.items items) := by
    rw [pull, pull, h, run]
  rw [pulls, hpull]
  exact pulls_items items (s :: later)

/-- Literal records come to their end. -/
theorem yields_items (s : Store) (es : List Entry) : Yields s (.items (es.map .ok)) es := by
  rw [Yields, run]
  induction es with
  | nil => exact clean_nil.mpr rfl
  | cons e es ih => exact clean_cons_ok.mpr ⟨es, rfl, ih⟩

/-! ### Sorting records -/

/-- A merge sort by the order of documents is a stable sort. -/
theorem sorted_stably (collation : Text.Collation) (keys : SortKeys) (es : List Entry) :
    StablySorted collation keys es (es.mergeSort (precedes collation keys)) where
  perm := List.mergeSort_perm es _
  ordered := (List.pairwise_mergeSort precedes_trans precedes_total es).imp bne_iff_ne.mp
  stable := by
    intro d
    have hequal : (es.filter (d.ties collation keys)).Pairwise
        fun a b => precedes collation keys a b = true := by
      refine List.pairwise_of_forall_mem_list fun a ha b hb => ?_
      rw [precedes, Document.ties_congr (List.mem_filter.mp ha).2 (List.mem_filter.mp hb).2]
      rfl
    have hsub : (es.filter (d.ties collation keys)).Sublist
        (es.mergeSort (precedes collation keys)) :=
      List.sublist_mergeSort precedes_trans precedes_total hequal List.filter_sublist
    have hclass := hsub.filter (d.ties collation keys)
    rw [List.filter_filter, show (fun e => d.ties collation keys e && d.ties collation keys e)
      = d.ties collation keys from funext fun e => Bool.and_self _] at hclass
    -- a sort does not change how many records there are in the class
    have hlength :=
      ((List.mergeSort_perm es (precedes collation keys)).filter (d.ties collation keys)).length_eq
    exact (hclass.eq_of_length hlength.symm).symm

/-! ### The rows of records -/

/-- A document can be sorted by a field if its value there can be a key. -/
theorem exists_sortValue_iff {d : Document} {field : String} :
    (∃ v, sortValue d field = .ok v) ↔ (d.valueAt field).isKey = true := by
  simp [sortValue_eq_ok]

/-- A record has a row if it can be sorted. -/
theorem exists_sortRow_iff {e : Entry} :
    (∃ row, sortRow keys (.ok e) = .ok row) ↔ e.2.sortable keys = true := by
  show (∃ row, (keys.mapM fun key => sortValue e.2 key.1).map (fun values => (values, e)) = .ok row)
    ↔ _
  rw [Result.exists_map_eq_ok_iff, Result.exists_mapM_eq_ok_iff, Document.sortable,
    List.all_eq_true]
  simp only [exists_sortValue_iff]

/-- The first key under which a record cannot be sorted is named in the error. -/
theorem sortRow_eq_error {e : Entry} {key : String × SortOrder}
    (hkey : keys.find? (fun key => !(e.2.valueAt key.1).isKey) = some key) :
    sortRow keys (.ok e) = .error (.unsortable (e.2.valueAt key.1).typeName key.1) := by
  have hvalues : keys.mapM (fun key => sortValue e.2 key.1)
      = .error (.unsortable (e.2.valueAt key.1).typeName key.1) := by
    refine Result.mapM_eq_error (fun key _ hfails => ?_) hkey ?_
    · exact exists_sortValue_iff.mpr (by simpa using hfails)
    · have hnot := List.find?_some (p := fun key : String × SortOrder =>
        !(e.2.valueAt key.1).isKey) hkey
      rw [← isArray_or_isDocument] at hnot
      rw [sortValue]
      exact if_pos hnot
  show (keys.mapM fun key => sortValue e.2 key.1).map (fun values => (values, e)) = _
  rw [hvalues]
  rfl

/-- The rows of a source that comes to its end are those of its records. -/
theorem mapM_sortRow (hinner : Yields s inner es) :
    (run s inner).mapM (fun step => sortRow keys step.1)
      = es.mapM fun e => sortRow keys (.ok e) := by
  have hrows := congrArg (List.mapM (sortRow keys)) hinner
  rwa [List.mapM_map, List.mapM_map] at hrows

/-- A source of records that can be sorted is run in a stable order. -/
theorem run_sorted_of_sortable (hinner : Yields s inner es)
    (hsortable : ∀ e ∈ es, e.2.sortable keys = true) :
    run s (.sorted inner keys collation)
      = runItems ((es.mergeSort (precedes collation keys)).map .ok) := by
  obtain ⟨rows, hrows⟩ : ∃ rows, es.mapM (fun e => sortRow keys (.ok e)) = .ok rows :=
    Result.exists_mapM_eq_ok_iff.mpr fun e he => exists_sortRow_iff.mpr (hsortable e he)
  rw [← mapM_sortRow hinner] at hrows
  have hall := Result.mapM_eq_ok_iff.mp hrows
  have hrecords : rows.map Prod.snd = es := Yields.unique (s := s) (clean_of_rows hall) hinner
  rw [run, runSorted, hrows]
  show runItems ((sortRows collation keys rows).map .ok) = _
  rw [sortRows_eq (values_of_rows hall), hrecords]

/-- A source with a record that cannot be sorted is run into the error for the first such record. -/
theorem run_sorted_of_unsortable (hinner : Yields s inner es) {e : Entry} {key : String × SortOrder}
    (he : es.find? (fun e => !e.2.sortable keys) = some e)
    (hkey : keys.find? (fun key => !(e.2.valueAt key.1).isKey) = some key) :
    run s (.sorted inner keys collation)
      = runItems [.error (.unsortable (e.2.valueAt key.1).typeName key.1)] := by
  have hrows : es.mapM (fun e => sortRow keys (.ok e))
      = .error (.unsortable (e.2.valueAt key.1).typeName key.1) := by
    refine Result.mapM_eq_error (fun e _ hfails => ?_) he (sortRow_eq_error hkey)
    exact exists_sortRow_iff.mpr (by simpa using hfails)
  rw [← mapM_sortRow hinner] at hrows
  rw [run, runSorted, hrows]
  rfl

/-- A source that comes to its end is sorted, with any sort keys and by either collation. The
comparison is a total preorder of null and all scalars, and by code points it is the order of index
keys. If every record can be sorted, the pulls hand out the records in the one stable order and then
nothing. Otherwise the first pull is a validation error that names the first record and field in the
way, and there is nothing after it. The stores that the later pulls meet do not matter. -/
theorem sort_stable (hinner : Yields s inner es) (keys : SortKeys) (collation : Text.Collation) :
    (∀ a b c : Key,
      compareSortValues collation b.value a.value
          = (compareSortValues collation a.value b.value).swap ∧
        ((compareSortValues collation a.value b.value).isLE →
          (compareSortValues collation b.value c.value).isLE →
            (compareSortValues collation a.value c.value).isLE) ∧
        compareSortValues .binary a.value b.value = a.compare b) ∧
    ((∀ e ∈ es, e.2.sortable keys = true) →
      ∃ out, StablySorted collation keys es out ∧
        (∀ out', StablySorted collation keys es out' → out' = out) ∧
        ∀ later : List Store, pulls (.sorted inner keys collation) (s :: later)
          = (List.range (later.length + 1)).map fun i => out[i]?.map .ok) ∧
    ((∃ e ∈ es, e.2.sortable keys = false) →
      ∃ e key err, es.find? (fun e => !e.2.sortable keys) = some e ∧
        keys.find? (fun key => !(e.2.valueAt key.1).isKey) = some key ∧
        err = .unsortable (e.2.valueAt key.1).typeName key.1 ∧ err.kind = .validation ∧
        ∀ later : List Store, pulls (.sorted inner keys collation) (s :: later)
          = some (.error err) :: later.map fun _ => none) := by
  refine ⟨fun a b c => ?_, fun hsortable => ?_, fun hunsortable => ?_⟩
  · simp only [compareSortValues_eq]
    exact ⟨Std.OrientedCmp.eq_swap, TransCmp.isLE_trans, Key.orderBy_binary a b⟩
  · -- what is drained first is sorted, and then handed out item by item
    have hsorted := sorted_stably collation keys es
    refine ⟨_, hsorted, fun out' hout' => hsorted.unique hout', fun later => ?_⟩
    rw [pulls_of_run (run_sorted_of_sortable hinner hsortable)]
    simp only [List.getElem?_map]
  · -- the first entry that cannot be sorted ends it, by the first of its keys that is none
    obtain ⟨e, he⟩ : ∃ e, es.find? (fun e => !e.2.sortable keys) = some e := by
      rw [← Option.isSome_iff_exists, List.find?_isSome]
      simpa using hunsortable
    have hnot := List.find?_some (p := fun e : Entry => !e.2.sortable keys) he
    obtain ⟨key, hkey⟩ : ∃ key, keys.find? (fun key => !(e.2.valueAt key.1).isKey) = some key := by
      rw [← Option.isSome_iff_exists, List.find?_isSome]
      simpa [Document.sortable] using hnot
    refine ⟨e, key, _, he, hkey, rfl, rfl, fun later => ?_⟩
    rw [pulls_of_run (run_sorted_of_unsortable hinner he hkey), List.range_succ_eq_map,
      List.map_cons, List.map_map]
    simp [Function.comp_def]

/-- A record without a number. -/
def bareRecord : Entry := (⟨1⟩, ⟨[]⟩)

/-- A record with the number `1` as an integer. -/
def integerRecord : Entry := (⟨2⟩, ⟨[("n", .int 1)]⟩)

/-- A record with the number `1` as a float. -/
def floatRecord : Entry := (⟨3⟩, ⟨[("n", .float ⟨0x3FF0000000000000⟩)]⟩)

/-- A record with an array where the others have a number. -/
def arrayRecord : Entry := (⟨4⟩, ⟨[("n", .array [])]⟩)

/-- A downward sort puts the record without a number last and keeps the order of the two that
compare equal. With the array among them there is no order. -/
theorem sort_stable_one_number :
    Yields {} (.items ([bareRecord, integerRecord, floatRecord].map .ok))
      [bareRecord, integerRecord, floatRecord] ∧
    (∀ later : List Store,
      pulls (.sorted (.items ([bareRecord, integerRecord, floatRecord].map .ok))
          [("n", .descending)] .unicode) ({} :: later)
        = (List.range (later.length + 1)).map fun i =>
            [integerRecord, floatRecord, bareRecord][i]?.map .ok) ∧
    ∀ later : List Store,
      pulls (.sorted (.items ([bareRecord, arrayRecord].map .ok)) [("n", .descending)] .unicode)
          ({} :: later)
        = some (.error (.unsortable "array" "n")) :: later.map fun _ => none := by
  have hinner := yields_items {} [bareRecord, integerRecord, floatRecord]
  obtain ⟨-, hsort, -⟩ := sort_stable hinner [("n", .descending)] .unicode
  obtain ⟨out, -, hunique, hpulls⟩ := hsort (by decide)
  obtain ⟨-, -, hfail⟩ := sort_stable (yields_items {} [bareRecord, arrayRecord])
    [("n", .descending)] .unicode
  obtain ⟨e, key, err, he, hkey, rfl, -, hpulls'⟩ :=
    hfail ⟨arrayRecord, .tail _ (.head _), rfl⟩
  cases he
  cases hkey
  have hstable : StablySorted .unicode [("n", .descending)]
      [bareRecord, integerRecord, floatRecord] [integerRecord, floatRecord, bareRecord] := by
    have hperm : ([integerRecord, floatRecord] ++ [bareRecord]).Perm
        ([bareRecord] ++ [integerRecord, floatRecord]) := List.perm_append_comm
    refine ⟨hperm, by decide +kernel, fun d => ?_⟩
    -- no document ties with a record that has no number and with one that has
    cases hbare : d.ties .unicode [("n", .descending)] bareRecord with
    | false => simp [List.filter, hbare]
    | true =>
      have hother : ∀ e, e.2.orderBy .unicode [("n", .descending)] bareRecord.2 ≠ .eq →
          d.ties .unicode [("n", .descending)] e = false := by
        intro e he
        by_contra htie
        exact he (Document.ties_congr (by simpa using htie) hbare)
      have hinteger := hother integerRecord (by decide)
      have hfloat := hother floatRecord (by decide)
      simp [List.filter, hbare, hinteger, hfloat]
  rw [← hunique _ hstable] at hpulls
  exact ⟨hinner, hpulls, hpulls'⟩

end RecordStream

end DocumentDb
