import DocumentDb.Proofs.Index.Places

/-!
# `DocumentDb.Proofs.Index.Admission`: which documents an index takes

Whether a document has places in an index, and whether two documents want the same place, is
decided by the values of their fields. `IndexDescriptor.admits` and `IndexDescriptor.clashes`
decide it without keys, tokens and trees.

* `indexable_iff_admits`: a document has places in an index when the index admits it.
* `shares_iff_clashes`: two admitted documents have a place of an ordered index in common when
  they clash.
* `IndexState.Exact.takes_iff_admits`: an index that is exact takes a document when it admits
  it and, if it is unique, no other record clashes with it.
-/

set_option autoImplicit false

namespace DocumentDb

open FanOut

/-! ### Values -/

/-- Whether a value is null or a text. -/
def Value.isWording (v : Value) : Bool := v.isNull || v.asString?.isSome

namespace IndexDescriptor

/-- Whether an index admits a document. Of the first field of an ordered index, every element has
to be null or a scalar, and so do the values of its later fields. A full-text index has one
field, of which every element has to be null or a text. -/
def admits (d : IndexDescriptor) (doc : Document) : Bool :=
  match d.fields.fields with
  | [] => true
  | field :: rest =>
    if d.isFullText then (doc.valueAt field).elements.all (·.isWording)
    else (doc.valueAt field).elements.all (·.isKey) && rest.all fun f => (doc.valueAt f).isKey

/-- Whether two documents have the same values in an index: some element of the first field, and
the later fields. -/
def clashes (d : IndexDescriptor) (doc doc' : Document) : Bool :=
  match d.fields.fields with
  | [] => true
  | field :: rest =>
    ((doc.valueAt field).elements.any fun v => (doc'.valueAt field).elements.any (v.equal ·)) &&
      rest.all fun f => (doc.valueAt f).equal (doc'.valueAt f)

end IndexDescriptor

/-! ### Keys and tokens -/

/-- Some values are those of keys when every one of them can be a key. -/
theorem exists_keys_iff {vs : List Value} :
    (∃ ks : List Key, vs = ks.map Key.value) ↔ ∀ v ∈ vs, v.isKey = true := by
  constructor
  · rintro ⟨ks, rfl⟩
    intro v hv
    obtain ⟨k, -, rfl⟩ := List.mem_map.mp hv
    exact k.2
  · exact Scan.exists_keys

/-- A value has keys on the first field when its elements can be keys. -/
theorem exists_firstKeys_iff {field : String} {v : Value} :
    (∃ ks, firstKeys field v = .ok ks) ↔ ∀ e ∈ v.elements, e.isKey = true := by
  simp only [firstKeys_eq_ok]
  rw [← exists_keys_iff]
  constructor
  · rintro ⟨-, all, hall, rfl⟩
    exact ⟨all, hall⟩
  · rintro ⟨all, hall⟩
    exact ⟨_, all, hall, rfl⟩

/-- An element has tokens when it is null or a text. -/
theorem exists_elementTokens_iff {tokenizer : Text.Tokenizer} {field : String} {v : Value} :
    (∃ ts, FullText.elementTokens tokenizer field v = .ok ts) ↔ v.isWording = true := by
  cases v <;> simp [FullText.elementTokens, Value.isWording, Value.isNull, Value.asString?]

/-- A value has tokens when its elements are null or texts. -/
theorem exists_tokens_iff {tokenizer : Text.Tokenizer} {field : String} {v : Value} :
    (∃ ts, FullText.tokens tokenizer field v = .ok ts) ↔
      ∀ e ∈ v.elements, e.isWording = true := by
  unfold FullText.tokens
  rw [Result.exists_map_eq_ok_iff]
  cases v with
  | array items =>
    show (∃ ts, (items.mapM (FullText.elementTokens tokenizer field)).map List.flatten = .ok ts) ↔
      ∀ e ∈ items, e.isWording = true
    rw [Result.exists_map_eq_ok_iff, Result.exists_mapM_eq_ok_iff]
    simp only [exists_elementTokens_iff]
  | _ => simp [Value.elements, Value.isWording, Value.isNull, Value.asString?]

/-! ### Admission -/

variable {tokenizer : Text.Tokenizer} {d : IndexDescriptor} {doc doc' : Document}
  {id id' : RecordId}

/-- An index without fields has one place, that of null, for every document. -/
theorem Document.placesIn_of_nil (hfields : d.fields.fields = []) (hid : doc.id = .ok (some id)) :
    doc.placesIn tokenizer d = .ok (if d.isFullText then [] else [.path [⟨.null, rfl⟩]]) := by
  have hvalue : (doc.fieldValues id d.fields).firstValue = .null := by
    rw [Document.fieldValues, hfields]
    rfl
  have hsingle : d.isCompound = false := by
    simp [IndexDescriptor.isCompound, FieldPath.isCompound, hfields]
  rw [Document.placesIn_eq hid, placesOf, OrderedIndex.paths, hvalue, hsingle]
  cases d.isFullText <;> rfl

/-- A document has places in an index when the index admits it. -/
theorem indexable_iff_admits (hid : doc.id = .ok (some id)) :
    doc.Indexable tokenizer d ↔ d.admits doc = true := by
  unfold Document.Indexable IndexDescriptor.admits
  split
  · rename_i hnil
    exact iff_of_true ⟨_, Document.placesIn_of_nil hnil hid⟩ rfl
  · rename_i field rest hfields
    split
    · rename_i hkind
      have hvalue : (doc.fieldValues id d.fields).firstValue = doc.valueAt field := by
        rw [Document.fieldValues, hfields]
        rfl
      rw [Document.placesIn_fullText hkind hid, Result.exists_map_eq_ok_iff, hvalue,
        exists_tokens_iff, List.all_eq_true]
    · rename_i hkind
      have hfirst : (∃ ks, firstKeys field (doc.valueAt field) = .ok ks) ↔
          ∀ e ∈ (doc.valueAt field).elements, e.isKey = true := exists_firstKeys_iff
      have hlater : (∃ path : List Key, rest.map doc.valueAt = path.map Key.value) ↔
          ∀ f ∈ rest, (doc.valueAt f).isKey = true := by
        rw [exists_keys_iff, List.forall_mem_map]
      simp only [Document.placesIn_ordered (Bool.eq_false_iff.mpr hkind) hfields hid,
        Bool.and_eq_true, List.all_eq_true]
      rw [← hfirst, ← hlater]
      constructor
      · rintro ⟨-, keys, path, hkeys, hpath, -⟩
        exact ⟨⟨keys, hkeys⟩, path, hpath⟩
      · rintro ⟨⟨keys, hkeys⟩, path, hpath⟩
        exact ⟨_, keys, path, hkeys, hpath, rfl⟩

/-! ### Clashes -/

/-- The paths below two equal keys are one path when the later fields have equal values. -/
theorem samePath_iff_equal {fields : List String} {path path' : List Key}
    (hpath : fields.map doc.valueAt = path.map Key.value)
    (hpath' : fields.map doc'.valueAt = path'.map Key.value) :
    samePath path path' = fields.all fun f => (doc.valueAt f).equal (doc'.valueAt f) := by
  induction fields generalizing path path' with
  | nil =>
    obtain rfl := List.map_eq_nil_iff.mp hpath.symm
    obtain rfl := List.map_eq_nil_iff.mp hpath'.symm
    rfl
  | cons f fields ih =>
    obtain ⟨k, path, rfl, hk, hpath⟩ := List.map_eq_cons_iff.mp hpath.symm
    obtain ⟨k', path', rfl, hk', hpath'⟩ := List.map_eq_cons_iff.mp hpath'.symm
    rw [samePath, List.all_cons, ih hpath.symm hpath'.symm, ← hk, ← hk', Key.equal_eq_same]

/-- Two values have a key in common when they have equal elements. -/
theorem any_keys_iff_equal {field : String} {v v' : Value} {keys keys' : List Key}
    (hkeys : firstKeys field v = .ok keys) (hkeys' : firstKeys field v' = .ok keys') :
    (∃ k ∈ keys, ∃ k' ∈ keys', k.same k' = true) ↔
      (v.elements.any fun e => v'.elements.any (e.equal ·)) = true := by
  obtain ⟨all, hall, rfl⟩ := firstKeys_eq_ok.mp hkeys
  obtain ⟨all', hall', rfl⟩ := firstKeys_eq_ok.mp hkeys'
  have hinner : ∀ k : Key, (distinct all').any (k.same ·) = all'.any (k.same ·) := by
    intro k
    have htakes : (Scan.Selection.these [k]).takes = (k.same ·) := by
      funext a
      simp [Scan.Selection.takes]
    rw [← htakes, any_distinct]
  have houter : (distinct all).any (fun k => all'.any (k.same ·))
      = all.any fun k => all'.any (k.same ·) := by
    have htakes : (Scan.Selection.these all').takes = fun k => all'.any (k.same ·) := by
      funext k
      simp only [Scan.Selection.takes, Key.same_comm k]
    rw [← htakes, any_distinct]
  have hequal : (v.elements.any fun e => v'.elements.any (e.equal ·))
      = all.any fun k => all'.any (k.same ·) := by
    simp [hall, hall', Function.comp_def, Key.equal_eq_same]
  rw [hequal, ← houter]
  simp only [← hinner, List.any_eq_true]

/-- Two documents belong at one place when a place of the one is a place of the other. -/
theorem shares_iff {ps ps' : List Place} (hps : doc.placesIn tokenizer d = .ok ps)
    (hps' : doc'.placesIn tokenizer d = .ok ps') :
    (∃ p, doc.BelongsAt tokenizer d p ∧ doc'.BelongsAt tokenizer d p) ↔
      ∃ q ∈ ps, ∃ q' ∈ ps', q.same q' = true := by
  constructor
  · rintro ⟨p, ⟨_, hp, hamong⟩, _, hp', hamong'⟩
    obtain rfl := Except.ok.inj (hps.symm.trans hp)
    obtain rfl := Except.ok.inj (hps'.symm.trans hp')
    obtain ⟨q, hq, hsame⟩ := List.any_eq_true.mp hamong
    obtain ⟨q', hq', hsame'⟩ := List.any_eq_true.mp hamong'
    exact ⟨q, hq, q', hq', Place.same_trans (Place.same_symm hsame) hsame'⟩
  · rintro ⟨q, hq, q', hq', hsame⟩
    exact ⟨q, ⟨ps, hps, Place.among_of_mem hq⟩, ps', hps', List.any_eq_true.mpr ⟨q', hq', hsame⟩⟩

/-- Two admitted documents have a place of an ordered index in common when they clash. -/
theorem shares_iff_clashes (hkind : d.isFullText = false) (hid : doc.id = .ok (some id))
    (hid' : doc'.id = .ok (some id')) (hdoc : d.admits doc = true) (hdoc' : d.admits doc' = true) :
    (∃ p, doc.BelongsAt tokenizer d p ∧ doc'.BelongsAt tokenizer d p) ↔
      d.clashes doc doc' = true := by
  unfold IndexDescriptor.clashes
  split
  · -- an index on no field has one place for all documents
    rename_i hnil
    have hplaces : ∀ {doc : Document} {id : RecordId}, doc.id = .ok (some id) →
        doc.placesIn tokenizer d = .ok [.path [⟨.null, rfl⟩]] := by
      intro doc id hid
      rw [Document.placesIn_of_nil hnil hid, hkind]
      rfl
    rw [shares_iff (hplaces hid) (hplaces hid')]
    simp
  · rename_i field rest hfields
    obtain ⟨ps, hps⟩ : doc.Indexable tokenizer d := (indexable_iff_admits hid).mpr hdoc
    obtain ⟨ps', hps'⟩ : doc'.Indexable tokenizer d := (indexable_iff_admits hid').mpr hdoc'
    rw [shares_iff hps hps', Bool.and_eq_true]
    obtain ⟨keys, path, hkeys, hpath, rfl⟩ := (Document.placesIn_ordered hkind hfields hid).mp hps
    obtain ⟨keys', path', hkeys', hpath', rfl⟩ :=
      (Document.placesIn_ordered hkind hfields hid').mp hps'
    rw [← any_keys_iff_equal hkeys hkeys', ← samePath_iff_equal hpath hpath']
    simp only [List.mem_map, exists_exists_and_eq_and, Place.same, samePath, Bool.and_eq_true]
    constructor
    · rintro ⟨k, hk, k', hk', hsame, hbelow⟩
      exact ⟨⟨k, hk, k', hk', hsame⟩, hbelow⟩
    · rintro ⟨⟨k, hk, k', hk', hsame⟩, hbelow⟩
      exact ⟨k, hk, k', hk', hsame, hbelow⟩

/-! ### What an exact index takes -/

namespace IndexState.Exact

variable {config : Config} {records : List (RecordId × Document)} {i : IndexState}

/-- An exact index takes a document that it admits and that clashes with no other record, if it
is unique. -/
theorem takes_iff_admits (h : Exact config records i)
    (hown : ∀ e ∈ records, e.2.id = .ok (some e.1)) (hid : doc.id = .ok (some id)) :
    i.Takes config id doc ↔ i.descriptor.admits doc = true ∧
      (i.descriptor.isUnique = true → ∀ e ∈ records, i.descriptor.clashes doc e.2 = true →
        e.1 = id) := by
  rw [h.takes_iff, indexable_iff_admits hid]
  refine and_congr_right fun hadmits => imp_congr_right fun hunique => ?_
  have hkind : i.descriptor.isFullText = false := by
    simp only [IndexDescriptor.isUnique, beq_iff_eq] at hunique
    rw [IndexDescriptor.isFullText, hunique]
    rfl
  have hclash : ∀ e ∈ records, (∃ p, doc.BelongsAt config.tokenizer i.descriptor p ∧
      e.2.BelongsAt config.tokenizer i.descriptor p) ↔ i.descriptor.clashes doc e.2 = true := by
    intro e he
    refine shares_iff_clashes hkind hid (hown e he) hadmits ?_
    exact (indexable_iff_admits (hown e he)).mp (h.indexable e he)
  constructor
  · intro hfree e he hclashes
    obtain ⟨p, hp, hp'⟩ := (hclash e he).mpr hclashes
    exact hfree p hp e he hp'
  · intro hfree p hp e he hp'
    exact hfree e he ((hclash e he).mp ⟨p, hp, hp'⟩)

end IndexState.Exact

end DocumentDb
