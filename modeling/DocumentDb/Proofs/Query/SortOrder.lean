import DocumentDb.Proofs.Query.Draining
import DocumentDb.Proofs.Query.Selection

/-!
# `DocumentDb.Proofs.Query.SortOrder`: the order that a sort asks for

`Document.orderBy` is the lexicographic order of documents by sort keys. It knows nothing of
streams, rows and indexes: `Key.orderBy` ranks the classes of keys, null lowest, compares texts
by a collation and all else by value, and a descending key swaps the outcome.

A sort works on rows of values and compares them case by case. `compareRows_eq` says that on
rows that can be sorted this is the order of the documents, and `runSorted_ordered` that a sorted
stream delivers its records in this order. `delivered` are the records of a run, whether or not
errors come between them: a limit may end a stream before an error is met.
-/

set_option autoImplicit false

namespace DocumentDb

open Std (TransCmp LawfulEqCmp)

/-! ### Collations -/

namespace Text

/-- Lists of characters compare as the texts that they make up. -/
theorem compareChars_eq (a b : List Char) :
    compareChars a b = Ord.compare (String.ofList a) (String.ofList b) := by
  show compareOfLessAndEq a b = compareOfLessAndEq (String.ofList a) (String.ofList b)
  simp only [compareOfLessAndEq, String.lt_iff, ← String.toList_inj, String.toList_ofList]

/-- The characters of texts compare as the texts. -/
theorem compareChars_toList (a b : String) : compareChars a.toList b.toList = Ord.compare a b := by
  rw [compareChars_eq, String.ofList_toList, String.ofList_toList]

/-- Without a collation texts compare by their code points. -/
theorem Collation.compare_binary (a b : String) : Collation.binary.compare a b = Ord.compare a b :=
  compareChars_toList a b

instance (k : Collation) : TransCmp k.compare := by
  cases k with
  | binary =>
    have h : Collation.binary.compare = Ord.compare := by
      funext a b
      exact Collation.compare_binary a b
    rw [h]
    infer_instance
  | unicode =>
    have h : Collation.unicode.compare
        = compareLex (compareOn fun s => String.ofList (collationKey s)) Ord.compare := by
      funext a b
      show (compareChars _ _).then (compareChars _ _) = _
      rw [compareChars_eq, compareChars_toList]
      rfl
    rw [h]
    exact inferInstanceAs (TransCmp (compareLex _ _))

/-- Under no collation are two texts one. -/
instance (k : Collation) : LawfulEqCmp k.compare where
  eq_of_compare {a b} h := by
    cases k with
    | binary =>
      rw [Collation.compare_binary] at h
      exact Std.LawfulEqOrd.eq_of_compare h
    | unicode =>
      have hchars : compareChars a.toList b.toList = .eq := (Ordering.then_eq_eq.mp h).2
      rw [compareChars_toList] at hchars
      exact Std.LawfulEqOrd.eq_of_compare hchars

end Text

/-! ### Keys and documents -/

/-- The order of keys in a sort: classes by rank, texts by the collation, and all else by value. -/
def Key.orderBy (collation : Text.Collation) (a b : Key) : Ordering :=
  (Ord.compare a.keyClass.rank b.keyClass.rank).then <|
    match a.value, b.value with
    | .string x, .string y => collation.compare x y
    | _, _ => a.compare b

namespace Document

/-- The key of a document under a field: its value there, null if that is no key. -/
def keyAt (d : Document) (field : String) : Key := (Key.ofValue? (d.valueAt field)).getD default

/-- The order of documents by sort keys, of which the first that tells them apart decides. -/
def orderBy (collation : Text.Collation) : SortKeys → Document → Document → Ordering
  | [], _, _ => .eq
  | (field, direction) :: keys, d, e =>
    (directed direction.isDescending
      (Key.orderBy collation (d.keyAt field) (e.keyAt field))).then (orderBy collation keys d e)

end Document

/-- Comparing images is as transitive as the comparison. -/
theorem transCmp_on {α β : Type} {cmp : α → α → Ordering} (h : TransCmp cmp) (f : β → α) :
    TransCmp fun a b => cmp (f a) (f b) where
  eq_swap := h.eq_swap
  isLE_trans := h.isLE_trans

/-- The order of keys projection by projection. Keys that are no texts have the same text. -/
theorem Key.orderBy_eq (collation : Text.Collation) :
    Key.orderBy collation = compareLex (compareOn fun k => k.keyClass.rank)
      (compareLex (fun a b => collation.compare a.text b.text) Key.compare) := by
  funext a b
  show _ = (Ord.compare a.keyClass.rank b.keyClass.rank).then
    ((collation.compare a.text b.text).then (a.compare b))
  have hself : collation.compare "" "" = .eq := Std.ReflCmp.compare_self
  obtain ⟨a, ha⟩ := a
  obtain ⟨b, hb⟩ := b
  cases a <;> cases b
  case string.string x y =>
    -- texts that the collation does not tell apart are equal
    cases htexts : collation.compare x y with
    | eq =>
      obtain rfl : x = y := Std.LawfulEqCmp.eq_of_compare htexts
      have hkeys : Key.compare ⟨.string x, ha⟩ ⟨.string x, hb⟩ = .eq := Key.compare_self _
      simp [orderBy, text, value, Value.asString?, htexts, hkeys]
    | lt => simp [orderBy, text, value, Value.asString?, htexts]
    | gt => simp [orderBy, text, value, Value.asString?, htexts]
  all_goals first
    | contradiction
    | rfl
    | simp [orderBy, text, value, Value.asString?, hself]

instance (collation : Text.Collation) : TransCmp (Key.orderBy collation) := by
  rw [Key.orderBy_eq]
  have htext : TransCmp fun a b : Key => collation.compare a.text b.text :=
    transCmp_on inferInstance Key.text
  have hkeys : TransCmp Key.compare := inferInstanceAs (TransCmp (Ord.compare (α := Key)))
  infer_instance

/-- Sorting by code points is the order of the keys. -/
theorem Key.orderBy_binary (a b : Key) : Key.orderBy .binary a b = a.compare b := by
  obtain ⟨a, ha⟩ := a
  obtain ⟨b, hb⟩ := b
  cases a <;> cases b
  case string.string x y => exact Text.Collation.compare_binary x y
  all_goals first | contradiction | rfl

namespace Document

variable {collation : Text.Collation} {keys : SortKeys}

/-- Where a document has a key, this is the key it is sorted by. -/
theorem keyAt_value {d : Document} {field : String} (h : (d.valueAt field).isKey = true) :
    (d.keyAt field).value = d.valueAt field := by
  obtain ⟨k, hk⟩ := Key.ofValue?_isSome h
  rw [keyAt, hk, Option.getD_some]
  exact (Key.ofValue?_eq_some.mp hk).symm

instance : TransCmp (orderBy collation keys) := by
  induction keys with
  | nil => exact { eq_swap := rfl, isLE_trans := fun _ _ => rfl }
  | cons key keys ih =>
    have hkeys : TransCmp fun a b => directed key.2.isDescending (Key.orderBy collation a b) :=
      inferInstance
    have hfirst : TransCmp fun d e : Document => directed key.2.isDescending
        (Key.orderBy collation (d.keyAt key.1) (e.keyAt key.1)) :=
      transCmp_on hkeys fun d : Document => d.keyAt key.1
    exact inferInstanceAs (TransCmp (compareLex _ (orderBy collation keys)))

end Document

namespace RecordStream

variable {s : Store} {keys : SortKeys} {collation : Text.Collation} {d e : Document}

/-! ### Rows -/

/-- The values that have no place in an order are those that are no keys. -/
theorem isArray_or_isDocument (v : Value) : (v.isArray || v.isDocument) = !v.isKey := by
  cases v <;> rfl

/-- A value can be sorted by if it is null or a scalar. -/
theorem sortValue_eq_ok {field : String} {v : Value} :
    sortValue d field = .ok v ↔ v = d.valueAt field ∧ (d.valueAt field).isKey = true := by
  rw [sortValue]
  simp only [isArray_or_isDocument]
  cases (d.valueAt field).isKey <;> simp [eq_comm]

/-- The order of sorted values is that of their keys. -/
theorem compareSortValues_eq (a b : Key) :
    compareSortValues collation a.value b.value = a.orderBy collation b := by
  obtain ⟨a, ha⟩ := a
  obtain ⟨b, hb⟩ := b
  cases a <;> cases b <;> first | contradiction | rfl

/-- The values of a document under all sort keys. -/
def sortValues (keys : SortKeys) (d : Document) : List Value :=
  keys.map fun key => (d.keyAt key.1).value

/-- The order of rows is that of the documents they come from. -/
theorem compareRows_eq :
    compareRows collation keys (sortValues keys d) (sortValues keys e)
      = d.orderBy collation keys e := by
  induction keys with
  | nil => rfl
  | cons key keys ih =>
    show (directed key.2.isDescending (compareSortValues collation _ _)).then
      (compareRows collation keys (sortValues keys d) (sortValues keys e)) = _
    rw [compareSortValues_eq, ih]
    rfl

/-- An item that has a row is a record, with the values of its document. -/
theorem sortRow_eq_ok {item : Result Entry} {row : List Value × Entry}
    (h : sortRow keys item = .ok row) :
    item = .ok row.2 ∧ row.1 = sortValues keys row.2.2 := by
  obtain ⟨entry, rfl, hrow⟩ := Result.bind_eq_ok_iff.mp h
  obtain ⟨values, hvalues, rfl⟩ := Result.map_eq_ok_iff.mp hrow
  refine ⟨rfl, ?_⟩
  have hall := Result.mapM_eq_ok_iff.mp hvalues
  show values = keys.map _
  clear h hrow hvalues
  induction hall with
  | nil => rfl
  | cons hone _ ih =>
    obtain ⟨rfl, hkey⟩ := sortValue_eq_ok.mp hone
    rw [List.map_cons, ← ih, Document.keyAt_value hkey]

/-- Items that all have rows have the rows of their documents. -/
theorem values_of_rows {r : Run} {rows : List (List Value × Entry)}
    (h : List.Forall₂ (fun step row => sortRow keys step.1 = .ok row) r rows) :
    ∀ row ∈ rows, row.1 = sortValues keys row.2.2 := by
  induction h with
  | nil => exact List.forall_mem_nil _
  | cons hone _ ih => exact List.forall_mem_cons.mpr ⟨(sortRow_eq_ok hone).2, ih⟩

/-- Whether a record may stand before another one after a sort. -/
def precedes (collation : Text.Collation) (keys : SortKeys) (a b : Entry) : Bool :=
  a.2.orderBy collation keys b.2 != .gt

/-- The order of a sort is transitive. -/
theorem precedes_trans (a b c : Entry) (hab : precedes collation keys a b = true)
    (hbc : precedes collation keys b c = true) : precedes collation keys a c = true := by
  simp only [precedes, bne_iff_ne, ← Ordering.isLE_iff_ne_gt] at hab hbc ⊢
  exact TransCmp.isLE_trans hab hbc

/-- Of two entries one may go before the other. -/
theorem precedes_total (a b : Entry) :
    (precedes collation keys a b || precedes collation keys b a) = true := by
  have hswap : a.2.orderBy collation keys b.2 = (b.2.orderBy collation keys a.2).swap :=
    Std.OrientedCmp.eq_swap
  rw [precedes, precedes, hswap]
  cases b.2.orderBy collation keys a.2 <;> decide

/-- Sorted rows give their records as sorting the records by their documents does. Only rows that
come from documents are compared transitively. -/
theorem sortRows_eq {rows : List (List Value × Entry)}
    (h : ∀ row ∈ rows, row.1 = sortValues keys row.2.2) :
    sortRows collation keys rows = (rows.map (·.2)).mergeSort (precedes collation keys) := by
  refine List.map_mergeSort fun row hrow row' hrow' => ?_
  rw [h row hrow, h row' hrow', compareRows_eq, precedes]

/-- Sorted rows give their records in order. -/
theorem sortRows_ordered {rows : List (List Value × Entry)}
    (h : ∀ row ∈ rows, row.1 = sortValues keys row.2.2) :
    (sortRows collation keys rows).Pairwise fun a b => a.2.orderBy collation keys b.2 ≠ .gt := by
  rw [sortRows_eq h]
  exact (List.pairwise_mergeSort precedes_trans precedes_total _).imp bne_iff_ne.mp

/-- Two rows that are in order stay so. -/
theorem sortRows_pair {as bs : List Value} (a b : Entry)
    (h : compareRows collation keys as bs = .lt) :
    sortRows collation keys [(as, a), (bs, b)] = [a, b] := by
  simp [sortRows, List.mergeSort, h]

/-! ### Delivered records -/

/-- The records of a run, the errors left out. -/
def delivered (r : Run) : List Entry := r.filterMap fun step => step.1.toOption

/-- Nothing is delivered by an empty run. -/
@[simp] theorem delivered_nil : delivered [] = [] := rfl

/-- A record is delivered. -/
@[simp] theorem delivered_cons_ok (entry : Entry) (next : RecordStream) (r : Run) :
    delivered ((.ok entry, next) :: r) = entry :: delivered r := rfl

/-- An error is not delivered as a record. -/
@[simp] theorem delivered_cons_error (err : Error) (next : RecordStream) (r : Run) :
    delivered ((.error err, next) :: r) = delivered r := rfl

/-- A clean run delivers all of its records. -/
theorem Clean.delivered_eq {r : Run} {es : List Entry} (h : Clean r es) : delivered r = es := by
  induction r generalizing es with
  | nil => exact (clean_nil.mp h).symm
  | cons step r ih =>
    obtain ⟨item, next⟩ := step
    cases item with
    | error err => exact absurd h not_clean_cons_error
    | ok entry =>
      obtain ⟨rest, rfl, hrest⟩ := clean_cons_ok.mp h
      rw [delivered_cons_ok, ih hrest]

/-- A filter leaves records out. -/
theorem delivered_runFiltered (f : Filter) (r : Run) :
    (delivered (runFiltered f r)).Sublist (delivered r) := by
  induction r with
  | nil => exact List.Sublist.refl _
  | cons step r ih =>
    obtain ⟨item, next⟩ := step
    cases item with
    | error err => exact List.nil_sublist _
    | ok entry =>
      rw [runFiltered, delivered_cons_ok]
      split
      · exact List.nil_sublist _
      · exact ih.cons_cons entry
      · exact ih.cons entry

/-- Bounds leave records out. -/
theorem delivered_runBounded (skip : Nat) (limit : Option Nat) (r : Run) :
    (delivered (runBounded skip limit r)).Sublist (delivered r) := by
  fun_induction runBounded skip limit r with
  | case1 => exact List.nil_sublist _
  | case2 => exact List.nil_sublist _
  | case3 skip limit entry next rest _ ih => exact ih.cons entry
  | case4 skip limit err next rest _ ih => exact ih
  | case5 limit item next rest _ ih =>
    cases item with
    | error err => exact ih
    | ok entry => exact ih.cons_cons entry

/-- Literal items deliver the records among them. -/
theorem delivered_runItems (es : List Entry) : delivered (runItems (es.map .ok)) = es := by
  induction es with
  | nil => rfl
  | cons entry es ih => rw [List.map_cons, runItems, delivered_cons_ok, ih]

/-- A sort delivers its records in order, or nothing. -/
theorem runSorted_ordered (r : Run) :
    (delivered (runSorted keys collation r)).Pairwise
      fun a b => a.2.orderBy collation keys b.2 ≠ .gt := by
  rw [runSorted]
  split
  · exact List.Pairwise.nil
  · rename_i rows hrows
    rw [delivered_runItems]
    exact sortRows_ordered (values_of_rows (Result.mapM_eq_ok_iff.mp hrows))

end RecordStream

end DocumentDb
