import DocumentDb.Proofs.Query.Selection

/-!
# `DocumentDb.Proofs.ValueEquality`: the two equalities of values

`Value.same` compares content and `Value.equal` is the equality of filters. Both are symmetric and
transitive. Neither is reflexive: a NaN in an array or in a document is not the same as itself, and
then neither is what holds it.

On nulls and scalars `Value.equal` is the equality of keys (`Key.equal_eq_same`), and on all else it
is `Value.same` (`equal_of_not_isKey`). A value of the one sort is equal to none of the other
(`isKey_of_equal`), so each fact about `Value.equal` comes from the same fact about keys and about
content.
-/

set_option autoImplicit false

namespace DocumentDb

/-! ### Content -/

namespace Binary64

/-- Being the same number does not depend on the order. -/
theorem sameNumber_comm (a b : Binary64) : a.sameNumber b = b.sameNumber a := by
  rw [sameNumber, sameNumber, Bool.and_comm (!a.isNaN), Bool.beq_comm]

/-- Numbers that are the same as a third one are the same. -/
theorem sameNumber_trans {a b c : Binary64} (hab : a.sameNumber b = true)
    (hbc : b.sameNumber c = true) : a.sameNumber c = true := by
  simp only [sameNumber, Bool.and_eq_true, beq_iff_eq] at hab hbc ⊢
  exact ⟨⟨hab.1.1, hbc.1.2⟩, hab.2.trans hbc.2⟩

end Binary64

namespace Value

mutual

/-- Structural equality of values does not depend on the order. -/
theorem same_comm (a b : Value) : a.same b = b.same a := by
  cases a <;> cases b
  case float.float x y => exact Binary64.sameNumber_comm x y
  case array.array as bs => rw [same, same, sameItems_comm as bs]
  case document.document as bs => rw [same, same, sameFields_comm as bs]
  all_goals first | rfl | exact Bool.beq_comm

/-- The same for lists of items. -/
theorem sameItems_comm (as bs : List Value) : sameItems as bs = sameItems bs as := by
  cases as <;> cases bs
  case cons.cons a as b bs => rw [sameItems, sameItems, same_comm a b, sameItems_comm as bs]
  all_goals rfl

/-- The same for lists of fields. -/
theorem sameFields_comm (as bs : List (String × Value)) : sameFields as bs = sameFields bs as := by
  cases as <;> cases bs
  case cons.cons a as b bs =>
    rw [sameFields, sameFields, same_comm a.2 b.2, sameFields_comm as bs, Bool.beq_comm]
  all_goals rfl

end

mutual

/-- Structural equality of values is transitive. -/
theorem same_trans (a b c : Value) (hab : a.same b = true) (hbc : b.same c = true) :
    a.same c = true := by
  cases a <;> cases b <;> try contradiction
  all_goals cases c <;> try contradiction
  case null.null.null => rfl
  case float.float.float => exact Binary64.sameNumber_trans hab hbc
  case array.array.array as bs cs => exact sameItems_trans as bs cs hab hbc
  case document.document.document as bs cs => exact sameFields_trans as bs cs hab hbc
  all_goals
    simp only [same, beq_iff_eq] at hab hbc ⊢
    exact hab.trans hbc
termination_by structural a

/-- The same for lists of items. -/
theorem sameItems_trans (as bs cs : List Value) (hab : sameItems as bs = true)
    (hbc : sameItems bs cs = true) : sameItems as cs = true := by
  cases as <;> cases bs <;> try contradiction
  all_goals cases cs <;> try contradiction
  case nil.nil.nil => rfl
  case cons.cons.cons a as b bs c cs =>
    simp only [sameItems, Bool.and_eq_true] at hab hbc ⊢
    exact ⟨same_trans a b c hab.1 hbc.1, sameItems_trans as bs cs hab.2 hbc.2⟩
termination_by structural as

/-- The same for lists of fields. -/
theorem sameFields_trans (as bs cs : List (String × Value)) (hab : sameFields as bs = true)
    (hbc : sameFields bs cs = true) : sameFields as cs = true := by
  cases as <;> cases bs <;> try contradiction
  all_goals cases cs <;> try contradiction
  case nil.nil.nil => rfl
  case cons.cons.cons field as field' bs field'' cs =>
    obtain ⟨m, a⟩ := field
    obtain ⟨n, b⟩ := field'
    obtain ⟨o, c⟩ := field''
    simp only [sameFields, Bool.and_eq_true, beq_iff_eq] at hab hbc ⊢
    obtain ⟨⟨hmn, hvalues⟩, hrest⟩ := hab
    obtain ⟨⟨hno, hvalues'⟩, hrest'⟩ := hbc
    exact ⟨⟨hmn.trans hno, same_trans a b c hvalues hvalues'⟩,
      sameFields_trans as bs cs hrest hrest'⟩
termination_by structural as

end

/-! ### Equality in filters -/

variable {a b c : Value}

/-- A value with a key is the value of the key. -/
theorem exists_key_value (h : a.isKey = true) : ∃ k : Key, k.value = a := ⟨⟨a, h⟩, rfl⟩

/-- Arrays and documents are compared by their content. -/
theorem equal_of_not_isKey (h : a.isKey = false) (b : Value) : a.equal b = a.same b := by
  cases a <;> first | rfl | cases h

/-- A null or a scalar is equal to no array and no document. -/
theorem isKey_of_equal (h : a.equal b = true) : a.isKey = b.isKey := by
  cases a <;> cases b <;> first | rfl | cases h

/-- Equality of values is symmetric. -/
theorem equal_symm (h : a.equal b = true) : b.equal a = true := by
  have hkeys := isKey_of_equal h
  cases ha : a.isKey with
  | false =>
    rw [equal_of_not_isKey ha] at h
    rw [equal_of_not_isKey (hkeys.symm.trans ha), same_comm, h]
  | true =>
    obtain ⟨k, rfl⟩ := exists_key_value ha
    obtain ⟨l, rfl⟩ := exists_key_value (hkeys.symm.trans ha)
    rw [Key.equal_eq_same] at h ⊢
    exact Key.same_symm h

/-- Equality of values is transitive. -/
theorem equal_trans (hab : a.equal b = true) (hbc : b.equal c = true) : a.equal c = true := by
  -- all three values have keys, or none of them has
  have hkeys := isKey_of_equal hab
  have hkeys' := isKey_of_equal hbc
  cases ha : a.isKey with
  | false =>
    rw [equal_of_not_isKey ha] at hab ⊢
    rw [equal_of_not_isKey (hkeys.symm.trans ha)] at hbc
    exact same_trans a b c hab hbc
  | true =>
    have hb : b.isKey = true := hkeys.symm.trans ha
    obtain ⟨k, rfl⟩ := exists_key_value ha
    obtain ⟨l, rfl⟩ := exists_key_value hb
    obtain ⟨m, rfl⟩ := exists_key_value (hkeys'.symm.trans hb)
    rw [Key.equal_eq_same] at hab hbc ⊢
    exact Key.same_trans hab hbc

/-- Equality of values does not depend on the order. -/
theorem equal_comm (a b : Value) : a.equal b = b.equal a :=
  Bool.eq_iff_iff.mpr ⟨equal_symm, equal_symm⟩

/-- Nulls and scalars have keys, and are equal when these are. -/
theorem exists_keys_equal_iff (ha : a.isKey = true) (hb : b.isKey = true) :
    ∃ k l : Key, Key.ofValue? a = some k ∧ Key.ofValue? b = some l ∧
      (a.equal b = true ↔ k.compare l = .eq) := by
  obtain ⟨k, rfl⟩ := exists_key_value ha
  obtain ⟨l, rfl⟩ := exists_key_value hb
  refine ⟨k, l, dif_pos ha, dif_pos hb, ?_⟩
  rw [Key.equal_eq_same, Key.same, beq_iff_eq]

end Value

namespace Document

/-- Structural equality of documents does not depend on the order. -/
theorem same_comm (a b : Document) : a.same b = b.same a := Value.sameFields_comm a.fields b.fields

/-- Structural equality of documents is transitive. -/
theorem same_trans {a b c : Document} (hab : a.same b = true) (hbc : b.same c = true) :
    a.same c = true :=
  Value.sameFields_trans a.fields b.fields c.fields hab hbc

end Document

end DocumentDb
