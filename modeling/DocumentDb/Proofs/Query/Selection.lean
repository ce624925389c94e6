import DocumentDb.Index.FanOut
import DocumentDb.Index.Scan
import DocumentDb.Proofs.Index.Tree
import DocumentDb.Proofs.Result

/-!
# `DocumentDb.Proofs.Query.Selection`: conditions on values and on keys

A condition is evaluated in two ways: on the value of a field (`Condition.holds`), and as a
selection of keys when an index is scanned (`Scan.selection`). The keys of a value are its
elements, so the two ways agree when a value meets a condition exactly if the selection takes
one of its keys.

* `Key.equal_eq_same`: the equality of filters is that of keys, for all classes of scalars
  and for null.
* `selection_holds`: a condition that an index can answer is decided on every value with keys,
  and the selection decides it.
* `firstKeys_holds`, `key_holds`: the same for the keys that an index has of a field.
-/

set_option autoImplicit false

namespace DocumentDb

/-! ### Keys and their values -/

namespace Key

/-- Which of two keys comes first makes no difference to their being the same. -/
theorem same_comm (a b : Key) : a.same b = b.same a := by
  rw [Bool.eq_iff_iff]
  exact ⟨same_symm, same_symm⟩

/-- A key is the same as both of two keys that are the same, or as neither. -/
theorem same_congr_right {a b : Key} (h : a.same b = true) (k : Key) : k.same a = k.same b := by
  rw [Bool.eq_iff_iff]
  exact ⟨fun hk => same_trans hk h, fun hk => same_trans hk (same_symm h)⟩

/-- A key is no array. -/
@[simp] theorem value_isArray (k : Key) : k.value.isArray = false := by
  obtain ⟨v, hv⟩ := k
  cases v <;> first | rfl | contradiction

/-- A key is no document. -/
@[simp] theorem value_isDocument (k : Key) : k.value.isDocument = false := by
  obtain ⟨v, hv⟩ := k
  cases v <;> first | rfl | contradiction

/-- The key of a value has that value. -/
theorem ofValue?_eq_some {v : Value} {k : Key} : ofValue? v = some k ↔ v = k.value := by
  unfold ofValue?
  constructor
  · intro h
    split at h
    · cases h
      rfl
    · cases h
  · rintro rfl
    exact dif_pos k.2

/-- Every value that can be a key has one. -/
theorem ofValue?_isSome {v : Value} (h : v.isKey = true) : ∃ k, ofValue? v = some k :=
  ⟨⟨v, h⟩, dif_pos h⟩

/-- The only key of its class is null. -/
theorem keyClass_eq_null_iff {k : Key} : k.keyClass = .null ↔ k.value = .null := by
  obtain ⟨v, hv⟩ := k
  cases v <;> first | contradiction | simp [keyClass, value, Value.keyClass]

/-- Keys of different classes cannot be compared as scalars. -/
theorem compareScalars_eq_none {a b : Key} (h : a.keyClass ≠ b.keyClass) :
    Value.compareScalars a.value b.value = none := by
  obtain ⟨v, hv⟩ := a
  obtain ⟨w, hw⟩ := b
  cases v <;> cases w <;> first | contradiction | rfl

/-- Keys of different classes are not the same. -/
theorem same_eq_false_of_class {a b : Key} (h : a.keyClass ≠ b.keyClass) : a.same b = false := by
  have hne : Ord.compare a.keyClass b.keyClass ≠ .eq := by
    revert h
    cases a.keyClass <;> cases b.keyClass <;> decide
  rw [same, compare]
  revert hne
  cases Ord.compare a.keyClass b.keyClass <;> simp

/-- The values of two keys are equal in a filter when the keys are one key. -/
theorem equal_eq_same (a b : Key) : a.value.equal b.value = a.same b := by
  by_cases hclass : a.keyClass = b.keyClass
  · by_cases hnull : a.keyClass = .null
    · -- null is a class of its own, with one key
      have hb : b.value = .null := keyClass_eq_null_iff.mp (hclass ▸ hnull)
      have ha : a.value = .null := keyClass_eq_null_iff.mp hnull
      have hab : a = b := Subtype.ext (ha.trans hb.symm)
      rw [hab, same_refl, hb]
      rfl
    · rw [Value.equal, compareScalars_eq_some a b hclass hnull]
      rfl
  · rw [same_eq_false_of_class hclass, Value.equal, compareScalars_eq_none hclass]
    obtain ⟨v, hv⟩ := a
    obtain ⟨w, hw⟩ := b
    cases v <;> cases w <;> first | contradiction | simp [value, Value.same]

end Key

namespace Scan

/-! ### Selections -/

/-- Whether a key lies in the range of its class that the operator and bound describe. -/
def inRange (op : RangeOp) (bound k : Key) : Bool :=
  k.keyClass == bound.keyClass && op.accepts (k.compare bound)

/-- Whether a selection takes a key. -/
def Selection.takes : Selection → Key → Bool
  | .these ks, k => ks.any (·.same k)
  | .range op bound, k => inRange op bound k
  | .allBut ks, k => !ks.any (·.same k)

/-- A selection does not tell keys apart that are one key. -/
theorem Selection.takes_congr (s : Selection) {a b : Key} (h : a.same b = true) :
    s.takes a = s.takes b := by
  have hsame : ∀ ks : List Key, (ks.any (·.same a)) = ks.any (·.same b) := by
    intro ks
    simp only [Key.same_congr_right h]
  have hcompare : Ord.compare a b = .eq := Key.same_iff.mp h
  cases s with
  | these ks => exact hsame ks
  | allBut ks => exact congrArg (! ·) (hsame ks)
  | range op bound =>
    have hclass : a.keyClass = b.keyClass := by
      by_contra hne
      rw [Key.same_eq_false_of_class hne] at h
      cases h
    have hbound : Ord.compare a bound = Ord.compare b bound := Std.TransCmp.congr_left hcompare
    show (a.keyClass == bound.keyClass && op.accepts (Ord.compare a bound)) = _
    rw [hclass, hbound]
    rfl

/-- Leaving repeats out makes no difference to which keys are in the list. -/
theorem any_dropRepeats (ks : List Key) (k : Key) :
    ((dropRepeats ks).any (·.same k)) = ks.any (·.same k) := by
  induction ks with
  | nil => rfl
  | cons a ks ih =>
    rw [dropRepeats, List.any_cons, ← ih]
    split
    · rename_i hnil
      simp [hnil]
    · rename_i b rest hrest
      rw [hrest]
      split
      · rename_i hab
        -- the dropped key is the one before it
        simp [← Key.same_comm k, Key.same_congr_right hab]
      · rfl

/-- Nor does sorting. -/
theorem any_sortedKeys (ks : List Key) (k : Key) :
    ((sortedKeys ks).any (·.same k)) = ks.any (·.same k) := by
  rw [sortedKeys, any_dropRepeats]
  exact (List.mergeSort_perm ks _).any_eq

/-- An operand gives the key that has its value. -/
theorem operandKey_eq_ok {field : String} {v : Value} {k : Key} :
    operandKey field v = .ok k ↔ v = k.value := by
  rw [← Key.ofValue?_eq_some, operandKey]
  cases Key.ofValue? v <;> simp

/-- A list of values is that of some keys when it is so one by one. -/
theorem forall₂_value_iff {vs : List Value} {ks : List Key} :
    List.Forall₂ (fun v (k : Key) => v = k.value) vs ks ↔ vs = ks.map Key.value := by
  rw [← List.forall₂_map_right_iff, List.forall₂_eq_eq_eq]

/-- Operands give the keys that have their values, in order. -/
theorem operandKeys_eq_ok {field : String} {vs : List Value} {ks : List Key} :
    operandKeys field vs = .ok ks ↔ vs = ks.map Key.value := by
  rw [operandKeys, Result.mapM_eq_ok_iff, ← forall₂_value_iff]
  simp only [operandKey_eq_ok]

/-- Values that can be keys are those of some keys. -/
theorem exists_keys {vs : List Value} (h : ∀ v ∈ vs, v.isKey = true) :
    ∃ ks : List Key, vs = ks.map Key.value := by
  induction vs with
  | nil => exact ⟨[], rfl⟩
  | cons v vs ih =>
    rw [List.forall_mem_cons] at h
    obtain ⟨ks, rfl⟩ := ih h.2
    exact ⟨⟨v, h.1⟩ :: ks, rfl⟩

/-- An index can answer every indexable condition that is not on a text. -/
theorem exists_selection {c : Comparison} (h : c.isIndexable = true) (ht : c.isText = false) :
    ∃ s, selection c = .ok s := by
  have hone : ∀ v : Value, v.isKey = true → ∃ k, operandKey c.field v = .ok k := by
    intro v hv
    obtain ⟨k, hk⟩ := Key.ofValue?_isSome hv
    exact ⟨k, operandKey_eq_ok.mpr (Key.ofValue?_eq_some.mp hk)⟩
  have hall : ∀ vs : List Value, vs.all (·.isKey) = true →
      ∃ ks, operandKeys c.field vs = .ok ks := by
    intro vs hvs
    obtain ⟨ks, hks⟩ := exists_keys (List.all_eq_true.mp hvs)
    exact ⟨ks, operandKeys_eq_ok.mpr hks⟩
  obtain ⟨field, condition⟩ := c
  cases condition with
  | eq v =>
    obtain ⟨k, hk⟩ := hone v h
    exact ⟨_, congrArg (Except.map _) hk⟩
  | ne v =>
    obtain ⟨k, hk⟩ := hone v h
    exact ⟨_, congrArg (Except.map _) hk⟩
  | range op v =>
    -- a range has a scalar as its bound, which is a key
    have hkey : v.isKey = true := by
      rw [Value.isKey, show v.isScalar = true from h, Bool.or_true]
    obtain ⟨k, hk⟩ := hone v hkey
    exact ⟨_, congrArg (Except.map _) hk⟩
  | isIn vs =>
    obtain ⟨ks, hks⟩ := hall vs h
    exact ⟨_, congrArg (Except.map _) hks⟩
  | notIn vs =>
    obtain ⟨ks, hks⟩ := hall vs h
    exact ⟨_, congrArg (Except.map _) hks⟩
  | text query => cases ht

/-! ### Conditions on values with keys -/

/-- An array is equal to no key. -/
theorem equal_key_of_isArray {v : Value} (hv : v.isArray = true) (k : Key) :
    v.equal k.value = false := by
  cases v with
  | array items =>
    obtain ⟨w, hw⟩ := k
    cases w <;> first | contradiction | rfl
  | _ => cases hv

/-- A value that is no array counts as its own element. -/
theorem elements_of_not_isArray {v : Value} (hv : v.isArray = false) : v.elements = [v] := by
  cases v <;> first | rfl | cases hv

/-- A range has the keys of its bound's class on one side of the bound. The keys of no other
class are in it, null included. -/
theorem inRange_key {op : RangeOp} {bound : Key} (hbound : bound.value.isScalar = true) (k : Key) :
    ((Value.compareScalars k.value bound.value).any op.accepts) = inRange op bound k := by
  have hnull : bound.keyClass ≠ .null := by
    intro hnull
    rw [Key.keyClass_eq_null_iff.mp hnull] at hbound
    cases hbound
  rw [inRange]
  by_cases hclass : k.keyClass = bound.keyClass
  · rw [Key.compareScalars_eq_some k bound hclass (hclass ▸ hnull), beq_iff_eq.mpr hclass]
    rfl
  · rw [Key.compareScalars_eq_none hclass, beq_eq_false_iff_ne.mpr hclass]
    rfl

/-- Whether some key lies in a range is decided on the values as it is on the keys. -/
theorem condition_inRange {field : String} {op : RangeOp} {bound : Key}
    (hbound : bound.value.isScalar = true) (ks : List Key) :
    Condition.inRange field op bound.value (ks.map Key.value)
      = .ok (ks.any (inRange op bound)) := by
  induction ks with
  | nil => rfl
  | cons k ks ih =>
    rw [List.map_cons, Condition.inRange, Key.value_isDocument, Key.value_isArray, ih,
      inRange_key hbound, List.any_cons]
    cases inRange op bound k <;> rfl

/-- A condition is decided on a value whose elements are keys, and it is met when the selection
takes one of them. -/
theorem selection_holds {c : Comparison} {s : Selection} (h : selection c = .ok s)
    (hindexable : c.isIndexable = true) {v : Value} {ks : List Key}
    (hv : v.elements = ks.map Key.value) :
    c.condition.holds c.field v = .ok (ks.any s.takes) := by
  obtain ⟨field, condition⟩ := c
  have hany : ∀ (p : Value → Bool) (s : Selection), (∀ k : Key, p k.value = s.takes k) →
      v.elements.any p = ks.any s.takes := by
    intro p s hp
    rw [hv, List.any_map]
    exact congrArg ks.any (funext hp)
  cases condition with
  | eq w =>
    obtain ⟨kw, hkw, rfl⟩ := Result.map_eq_ok_iff.mp h
    obtain rfl := operandKey_eq_ok.mp hkw
    -- a value that is no array is its only element
    have hwhole : (v.equal kw.value || (v.isArray && v.elements.any (·.equal kw.value)))
        = v.elements.any (·.equal kw.value) := by
      cases harray : v.isArray with
      | true => simp [equal_key_of_isArray harray]
      | false => simp [elements_of_not_isArray harray]
    refine congrArg Except.ok (hwhole.trans (hany _ _ fun k => ?_))
    simp [Selection.takes, Key.equal_eq_same, Key.same_comm k]
  | ne w =>
    obtain ⟨kw, hkw, rfl⟩ := Result.map_eq_ok_iff.mp h
    obtain rfl := operandKey_eq_ok.mp hkw
    have hwhole : Condition.holds field v (.ne kw.value)
        = .ok (v.elements.any (!·.equal kw.value)) := by
      rw [Condition.holds, Key.value_isArray, Bool.false_or]
      cases harray : v.isArray with
      | true => rfl
      | false => simp [elements_of_not_isArray harray]
    refine hwhole.trans (congrArg Except.ok (hany _ _ fun k => ?_))
    simp [Selection.takes, Key.equal_eq_same, Key.same_comm k]
  | range op w =>
    obtain ⟨kw, hkw, rfl⟩ := Result.map_eq_ok_iff.mp h
    obtain rfl := operandKey_eq_ok.mp hkw
    show Condition.inRange field op kw.value v.elements = _
    rw [hv]
    exact condition_inRange hindexable ks
  | isIn ws =>
    obtain ⟨kws, hkws, rfl⟩ := Result.map_eq_ok_iff.mp h
    obtain rfl := operandKeys_eq_ok.mp hkws
    refine congrArg Except.ok (hany _ _ fun k => ?_)
    simp [Selection.takes, any_sortedKeys, Function.comp_def, Key.equal_eq_same, Key.same_comm k]
  | notIn ws =>
    obtain ⟨kws, hkws, rfl⟩ := Result.map_eq_ok_iff.mp h
    obtain rfl := operandKeys_eq_ok.mp hkws
    refine congrArg Except.ok (hany _ _ fun k => ?_)
    simp [Selection.takes, Function.comp_def, Key.equal_eq_same, Key.same_comm k]
  | text query => cases h

end Scan

/-! ### Conditions on fields with keys -/

namespace FanOut

open Scan

/-- The key of a value in a field is the one that has the value. -/
theorem keyOf_eq_ok {field : String} {v : Value} {k : Key} :
    keyOf field v = .ok k ↔ v = k.value := by
  rw [← Key.ofValue?_eq_some, keyOf]
  cases Key.ofValue? v <;> simp

/-- So is the key of an element of an array. -/
theorem elementKey_eq_ok {field : String} {v : Value} {k : Key} :
    elementKey field v = .ok k ↔ v = k.value := by
  rw [elementKey]
  split
  · rename_i harray
    constructor
    · nofun
    · rintro rfl
      rw [Key.value_isArray] at harray
      cases harray
  · exact keyOf_eq_ok

/-- Dropping keys that have occurred loses nothing that a selection takes. -/
theorem any_distinct (ks : List Key) (s : Selection) :
    (distinct ks).any s.takes = ks.any s.takes := by
  have hfold : ∀ found : List Key,
      (ks.foldl (fun found k => if found.any (·.same k) then found else found ++ [k]) found).any
        s.takes = (found.any s.takes || ks.any s.takes) := by
    induction ks with
    | nil => simp
    | cons k ks ih =>
      intro found
      rw [List.foldl_cons, ih, List.any_cons, ← Bool.or_assoc]
      congr 1
      split
      · rename_i hfound
        obtain ⟨a, ha, hsame⟩ := List.any_eq_true.mp hfound
        cases hk : s.takes k with
        | false => simp
        | true =>
          have htaken : found.any s.takes = true :=
            List.any_eq_true.mpr ⟨a, ha, (s.takes_congr hsame).trans hk⟩
          simp [htaken]
      · simp
  exact (hfold []).trans (Bool.false_or _)

/-- A value that is no array gives one key. -/
theorem firstKeys_of_not_isArray {field : String} {v : Value} (hv : v.isArray = false) :
    firstKeys field v = (keyOf field v).map ([·]) := by
  cases v <;> first | rfl | cases hv

/-- The first field has keys when all its elements are keys. -/
theorem firstKeys_eq_ok {field : String} {v : Value} {ks : List Key} :
    firstKeys field v = .ok ks ↔ ∃ all, v.elements = all.map Key.value ∧ ks = distinct all := by
  cases harray : v.isArray with
  | true =>
    cases v with
    | array items =>
      show (items.mapM (elementKey field)).map distinct = .ok ks ↔
        ∃ all : List Key, items = all.map Key.value ∧ ks = distinct all
      simp only [Result.map_eq_ok_iff, Result.mapM_eq_ok_iff, elementKey_eq_ok, forall₂_value_iff]
      exact exists_congr fun all => and_congr_right fun _ => eq_comm
    | _ => cases harray
  | false =>
    rw [firstKeys_of_not_isArray harray, elements_of_not_isArray harray, Result.map_eq_ok_iff]
    simp only [keyOf_eq_ok]
    constructor
    · rintro ⟨k, rfl, rfl⟩
      exact ⟨[k], rfl, rfl⟩
    · rintro ⟨all, hall, rfl⟩
      obtain ⟨k, rfl, hk⟩ := List.map_eq_singleton_iff.mp hall.symm
      exact ⟨k, hk.symm, rfl⟩

/-- A condition on the first field of an index is met when the selection takes one of the keys
that the index has of it. -/
theorem firstKeys_holds {c : Comparison} {s : Selection} (h : selection c = .ok s)
    (hindexable : c.isIndexable = true) {field : String} {v : Value} {ks : List Key}
    (hks : firstKeys field v = .ok ks) : c.condition.holds c.field v = .ok (ks.any s.takes) := by
  obtain ⟨all, hall, rfl⟩ := firstKeys_eq_ok.mp hks
  rw [any_distinct]
  exact selection_holds h hindexable hall

/-- A condition on a later field is met when the selection takes its key. -/
theorem key_holds {c : Comparison} {s : Selection} (h : selection c = .ok s)
    (hindexable : c.isIndexable = true) (k : Key) :
    c.condition.holds c.field k.value = .ok (s.takes k) := by
  have hone : k.value.elements = [k].map Key.value := elements_of_not_isArray k.value_isArray
  rw [selection_holds h hindexable hone, List.any_cons, List.any_nil, Bool.or_false]

end FanOut

end DocumentDb
