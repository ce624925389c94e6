import DocumentDb.Proofs.Index.Exact
import DocumentDb.Proofs.Query.Selection

/-!
# `DocumentDb.Proofs.Index.Places`: where documents belong in indexes

The places of a document are computed from the values of its fields. `placesIn_ordered` and
`placesIn_fullText` are the two cases as equations on these values, without the extractor
and the order in which an index looks at the fields. Where an extractor may have supplied any
values at all, `paths_eq_ok` and `placesOf_ordered` say the same of them.
-/

set_option autoImplicit false

namespace DocumentDb

open FanOut

variable {tokenizer : Text.Tokenizer} {d : IndexDescriptor} {doc : Document} {id : RecordId}

/-! ### From the values of the fields -/

/-- The values of the fields after the first one. A field without a value counts as null. -/
def FieldValues.laterValues (vs : FieldValues) (fields : FieldPath) : List Value :=
  fields.fields.tail.map fun f => (vs.get? f).getD .null

/-- A later field has a key when its value is one. -/
theorem laterKey_eq_ok {vs : FieldValues} {fields : FieldPath} {f : String} {k : Key} :
    laterKey vs fields f = .ok k ↔ (vs.get? f).getD .null = k.value := by
  rw [laterKey]
  split
  · rename_i harray
    constructor
    · nofun
    · intro hv
      rw [hv, Key.value_isArray] at harray
      cases harray
  · exact keyOf_eq_ok

/-- The later fields have keys when their values are keys. -/
theorem laterKeys_eq_ok {vs : FieldValues} {fields : FieldPath} {path : List Key} :
    fields.fields.tail.mapM (laterKey vs fields) = .ok path ↔
      vs.laterValues fields = path.map Key.value := by
  rw [Result.mapM_eq_ok_iff, ← Scan.forall₂_value_iff, FieldValues.laterValues,
    List.forall₂_map_left_iff]
  simp only [laterKey_eq_ok]

/-- The keys of values and the path below them: every key of the first field, and the keys of the
later fields. -/
theorem paths_eq_ok {vs : FieldValues} {keys path : List Key} :
    OrderedIndex.paths d vs = .ok (keys, path) ↔
      firstKeys d.fields.first vs.firstValue = .ok keys ∧
        vs.laterValues d.fields = path.map Key.value := by
  rw [OrderedIndex.paths]
  split
  · rw [FanOut.keyPaths]
    simp only [Result.bind_eq_ok_iff, Result.map_eq_ok_iff, laterKeys_eq_ok, Prod.mk.injEq]
    constructor
    · rintro ⟨_, hkeys, _, hpath, rfl, rfl⟩
      exact ⟨hkeys, hpath⟩
    · rintro ⟨hkeys, hpath⟩
      exact ⟨keys, hkeys, path, hpath, rfl, rfl⟩
  · rename_i hcompound
    -- an index on one field has nothing below its keys
    have hlater : vs.laterValues d.fields = [] := by
      have hlength : ¬ 1 < d.fields.fields.length := by
        simpa [IndexDescriptor.isCompound, FieldPath.isCompound] using hcompound
      rw [FieldValues.laterValues, List.map_eq_nil_iff, ← List.length_eq_zero_iff,
        List.length_tail]
      omega
    rw [hlater]
    simp only [Result.map_eq_ok_iff, Prod.mk.injEq]
    constructor
    · rintro ⟨_, hkeys, rfl, rfl⟩
      exact ⟨hkeys, rfl⟩
    · rintro ⟨hkeys, hpath⟩
      exact ⟨keys, hkeys, rfl, (List.map_eq_nil_iff.mp hpath.symm).symm⟩

/-- The places of values in an ordered index. -/
theorem placesOf_ordered (hkind : d.isFullText = false) {vs : FieldValues} {ps : List Place} :
    placesOf tokenizer d vs = .ok ps ↔
      ∃ keys path, firstKeys d.fields.first vs.firstValue = .ok keys ∧
        vs.laterValues d.fields = path.map Key.value ∧
          ps = keys.map fun k => .path (k :: path) := by
  rw [placesOf, if_neg (by simp [hkind]), Result.map_eq_ok_iff]
  constructor
  · rintro ⟨⟨keys, path⟩, hpaths, rfl⟩
    obtain ⟨hkeys, hpath⟩ := paths_eq_ok.mp hpaths
    exact ⟨keys, path, hkeys, hpath, rfl⟩
  · rintro ⟨keys, path, hkeys, hpath, rfl⟩
    exact ⟨(keys, path), paths_eq_ok.mpr ⟨hkeys, hpath⟩, rfl⟩

/-! ### From documents -/

/-- The values that the default extractor finds in a document with an id. -/
def Document.fieldValues (doc : Document) (id : RecordId) (fields : FieldPath) : FieldValues :=
  ⟨id, fields, fields.fields.map fun f => (f, doc.valueAt f)⟩

/-- The places of a document that names its id come from its field values. -/
theorem Document.placesIn_eq (hid : doc.id = .ok (some id)) :
    doc.placesIn tokenizer d = placesOf tokenizer d (doc.fieldValues id d.fields) := by
  rw [Document.placesIn, Extractor.byPath, hid]
  rfl

/-- The field values of a document are its values at the fields. -/
theorem Document.get?_fieldValues {fields : FieldPath} {f : String} (hf : f ∈ fields.fields) :
    (doc.fieldValues id fields).get? f = some (doc.valueAt f) := by
  show (fields.fields.map fun f => (f, doc.valueAt f)).lookup f = _
  generalize fields.fields = fs at hf
  induction fs with
  | nil => cases hf
  | cons g fs ih =>
    rw [List.map_cons, List.lookup_cons]
    by_cases heq : f = g
    · rw [beq_iff_eq.mpr heq, heq]
    · rw [beq_eq_false_iff_ne.mpr heq]
      exact ih ((List.mem_cons.mp hf).resolve_left heq)

/-- The later values of a document stand in its later fields. -/
theorem Document.laterValues_fieldValues (fields : FieldPath) :
    (doc.fieldValues id fields).laterValues fields = fields.fields.tail.map doc.valueAt := by
  refine List.map_congr_left fun f hf => ?_
  rw [Document.get?_fieldValues (List.mem_of_mem_tail hf), Option.getD_some]

/-- The places of a document in an ordered index: every key of the first field, with the keys of
the later fields below it. -/
theorem Document.placesIn_ordered (hkind : d.isFullText = false) {field : String}
    {rest : List String} (hfields : d.fields.fields = field :: rest)
    (hid : doc.id = .ok (some id)) {ps : List Place} :
    doc.placesIn tokenizer d = .ok ps ↔
      ∃ keys path, firstKeys field (doc.valueAt field) = .ok keys ∧
        rest.map doc.valueAt = path.map Key.value ∧ ps = keys.map fun k => .path (k :: path) := by
  have hfirst : d.fields.first = field := by
    rw [FieldPath.first, hfields]
    rfl
  have hvalue : (doc.fieldValues id d.fields).firstValue = doc.valueAt field := by
    rw [Document.fieldValues, hfields]
    rfl
  rw [Document.placesIn_eq hid, placesOf_ordered hkind, Document.laterValues_fieldValues, hfirst,
    hvalue, hfields, List.tail_cons]

/-- The places of a document in a full-text index: the tokens of its text. -/
theorem Document.placesIn_fullText (hkind : d.isFullText = true) (hid : doc.id = .ok (some id)) :
    doc.placesIn tokenizer d
      = (FullText.tokens tokenizer d.fields.first (doc.fieldValues id d.fields).firstValue).map
          (List.map Place.token) := by
  rw [Document.placesIn_eq hid, placesOf, if_pos hkind]

/-- Where a document belongs in an ordered index. -/
theorem Document.belongsAt_ordered (hkind : d.isFullText = false) {field : String}
    {rest : List String} (hfields : d.fields.fields = field :: rest)
    (hid : doc.id = .ok (some id)) {keys path : List Key}
    (hkeys : firstKeys field (doc.valueAt field) = .ok keys)
    (hpath : rest.map doc.valueAt = path.map Key.value) (q : List Key) :
    doc.BelongsAt tokenizer d (.path q) ↔ ∃ k ∈ keys, samePath q (k :: path) = true := by
  have hplaces : doc.placesIn tokenizer d = .ok (keys.map fun k => .path (k :: path)) :=
    (Document.placesIn_ordered hkind hfields hid).mpr ⟨keys, path, hkeys, hpath, rfl⟩
  have hamong : (Place.path q).among (keys.map fun k => .path (k :: path)) = true ↔
      ∃ k ∈ keys, samePath q (k :: path) = true := by
    simp [Place.among, Place.same]
  rw [← hamong]
  constructor
  · rintro ⟨ps, hps, hq⟩
    cases hplaces.symm.trans hps
    exact hq
  · intro hq
    exact ⟨_, hplaces, hq⟩

end DocumentDb
