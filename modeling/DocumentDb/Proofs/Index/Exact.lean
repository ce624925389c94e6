import DocumentDb.Proofs.Index.State

/-!
# `DocumentDb.Proofs.Index.Exact`: an index that holds what the records say

`IndexState.Exact` says that an index holds the entries of some records, none missing and
none stale. The records are a list of entries, whatever its order, so the same predicate
serves for all records of a collection and for those that a build has passed.

* `IndexState.WellFormed.add_cases` and `remove_cases`: what adding and removing the entries of
  one document does to the ids at every place, whether the index was exact or not. `add_spec`
  and `remove_spec` say it of the ids as a set.
* `IndexState.Exact.of_added` and `Exact.of_removed`: exactness follows the records.
* `IndexState.WellFormed.fill_spec`: a build comes to its end exactly when the records are
  `Buildable`, and the index is exact then. An index that is not emptied first may have entries
  of the records already, as long as none is stale (`IndexState.Sourced`).
-/

set_option autoImplicit false

namespace DocumentDb

/-! ### Documents and places -/

/-- The places of a document in an index, by the default extractor. -/
def Document.placesIn (tokenizer : Text.Tokenizer) (d : IndexDescriptor) (doc : Document) :
    Result (List Place) :=
  (Extractor.byPath doc d.fields).bind (placesOf tokenizer d)

/-- Whether a document has places in an index: it names a record id, and the values of the
fields are of the kinds that the index takes. -/
def Document.Indexable (tokenizer : Text.Tokenizer) (d : IndexDescriptor) (doc : Document) :
    Prop :=
  ∃ ps, doc.placesIn tokenizer d = .ok ps

/-- Whether a document belongs at a place of an index. -/
def Document.BelongsAt (tokenizer : Text.Tokenizer) (d : IndexDescriptor) (doc : Document)
    (p : Place) : Prop :=
  ∃ ps, doc.placesIn tokenizer d = .ok ps ∧ p.among ps = true

/-- Whether an index can be built from some records: all have places, and a unique index
wants no place for two ids. -/
structure IndexDescriptor.Buildable (tokenizer : Text.Tokenizer) (d : IndexDescriptor)
    (records : List (RecordId × Document)) : Prop where
  indexable : ∀ e ∈ records, e.2.Indexable tokenizer d
  unshared : d.isUnique = true → ∀ e ∈ records, ∀ e' ∈ records, ∀ p,
    e.2.BelongsAt tokenizer d p → e'.2.BelongsAt tokenizer d p → e.1 = e'.1

namespace IndexState

/-- The content of the index is one of its kind. -/
def WellFormed (i : IndexState) : Prop := i.content.WellFormed i.descriptor

/-- Whether an index takes the entries of a document under an id. -/
def Takes (config : Config) (id : RecordId) (doc : Document) (i : IndexState) : Prop :=
  doc.Indexable config.tokenizer i.descriptor ∧
    (i.descriptor.isUnique = true → ∀ p, doc.BelongsAt config.tokenizer i.descriptor p →
      ∀ x ∈ i.content.idsAt p, x = id)

/-- The index holds the entries of the records and no others. -/
structure Exact (config : Config) (records : List (RecordId × Document)) (i : IndexState) :
    Prop where
  wellFormed : i.WellFormed
  indexable : ∀ e ∈ records, e.2.Indexable config.tokenizer i.descriptor
  mem_iff : ∀ p x, x ∈ i.content.idsAt p ↔
    ∃ e ∈ records, e.1 = x ∧ e.2.BelongsAt config.tokenizer i.descriptor p

variable {config : Config} {i i' : IndexState} {id : RecordId} {doc : Document}
  {records records' : List (RecordId × Document)}

/-! ### One document -/

/-- The default extractor finds a value for every field of a document with an id. -/
theorem exists_values (hplain : config.customExtractor = none) (hid : doc.id = .ok (some id))
    (d : IndexDescriptor) :
    ∃ vs, config.extractor doc d.fields = .ok vs ∧ vs.id = id ∧
      doc.placesIn config.tokenizer d = placesOf config.tokenizer d vs := by
  have hvs : Extractor.byPath doc d.fields
      = .ok ⟨id, d.fields, d.fields.fields.map fun f => (f, doc.valueAt f)⟩ := by
    rw [Extractor.byPath, hid]
    rfl
  have hextract : config.extractor doc d.fields = Extractor.byPath doc d.fields := by
    rw [Config.extractor, hplain]
    rfl
  refine ⟨_, hextract.trans hvs, rfl, ?_⟩
  rw [Document.placesIn, hvs]
  rfl

/-- No other id stands at the places of a document when none stands where it belongs. -/
theorem free_iff {c : Content} {d : IndexDescriptor} {ps : List Place}
    (hps : doc.placesIn config.tokenizer d = .ok ps) :
    Content.Free id ps c ↔
      ∀ p, doc.BelongsAt config.tokenizer d p → ∀ x ∈ c.idsAt p, x = id := by
  constructor
  · rintro hfree p ⟨ps', hps', hp⟩ x hx
    obtain rfl : ps = ps' := Except.ok.inj (hps.symm.trans hps')
    obtain ⟨q, hq, hsame⟩ := List.any_eq_true.mp hp
    rw [Content.idsAt_congr hsame] at hx
    exact hfree q hq x hx
  · intro hfree p hp x hx
    exact hfree p ⟨ps, hps, Place.among_of_mem hp⟩ x hx

/-- Where a document belongs, once its places are known. -/
theorem belongsAt_iff {d : IndexDescriptor} {ps : List Place}
    (hps : doc.placesIn config.tokenizer d = .ok ps) (p : Place) :
    doc.BelongsAt config.tokenizer d p ↔ p.among ps = true := by
  refine ⟨?_, fun hp => ⟨ps, hps, hp⟩⟩
  rintro ⟨ps', hps', hp⟩
  obtain rfl : ps = ps' := Except.ok.inj (hps.symm.trans hps')
  exact hp

/-- The id of a document is added at its places, unless the index does not take it. -/
theorem WellFormed.add_cases (h : i.WellFormed) (hplain : config.customExtractor = none)
    (hid : doc.id = .ok (some id)) :
    (¬ i.Takes config id doc ∧ ∃ e, (add config doc).perform i = (.error e, i)) ∨
      ∃ ps i', i.Takes config id doc ∧ doc.placesIn config.tokenizer i.descriptor = .ok ps ∧
        (add config doc).perform i = (.ok (), i') ∧ i'.WellFormed ∧
        Content.Adds id ps i.content i'.content := by
  obtain ⟨vs, hvs, rfl, hplaces⟩ := exists_values hplain hid i.descriptor
  rw [perform_add_ok hvs]
  have htakes : i.Takes config vs.id doc ↔
      i.content.Accepts config.tokenizer i.descriptor vs := by
    constructor
    · rintro ⟨⟨ps, hps⟩, hfree⟩
      exact ⟨ps, hplaces ▸ hps, fun hu => (free_iff hps).mpr (hfree hu)⟩
    · rintro ⟨ps, hps, hfree⟩
      rw [← hplaces] at hps
      exact ⟨⟨ps, hps⟩, fun hu => (free_iff hps).mp (hfree hu)⟩
  rw [htakes]
  rcases Content.WellFormed.write_spec h config.tokenizer vs with
    ⟨hnot, e, hrun⟩ | ⟨ps, c', hacc, hps, hrun, hwf, hadds⟩
  · rw [hrun]
    exact Or.inl ⟨hnot, e, rfl⟩
  · rw [hrun]
    exact Or.inr ⟨ps, _, hacc, hplaces.trans hps, rfl, hwf, hadds⟩

/-- The entries of a document are added, unless the index does not take them. -/
theorem WellFormed.add_spec (h : i.WellFormed) (hplain : config.customExtractor = none)
    (hid : doc.id = .ok (some id)) :
    (¬ i.Takes config id doc ∧ ∃ e, (add config doc).perform i = (.error e, i)) ∨
      ∃ i', i.Takes config id doc ∧ (add config doc).perform i = (.ok (), i') ∧
        i'.WellFormed ∧
        ∀ p x, x ∈ i'.content.idsAt p ↔
          x ∈ i.content.idsAt p ∨ (x = id ∧ doc.BelongsAt config.tokenizer i.descriptor p) := by
  rcases h.add_cases hplain hid with hrefused | ⟨ps, i', htakes, hps, hrun, hwf, hadds⟩
  · exact Or.inl hrefused
  · refine Or.inr ⟨i', htakes, hrun, hwf, fun p x => ?_⟩
    rw [hadds.mem_iff, belongsAt_iff hps]

/-- The id of a document is removed from its places. A document without places is an error and
changes nothing. -/
theorem WellFormed.remove_cases (h : i.WellFormed) (hplain : config.customExtractor = none)
    (hid : doc.id = .ok (some id)) :
    (∃ e, doc.placesIn config.tokenizer i.descriptor = .error e ∧
        (remove config doc).perform i = (.error e, i)) ∨
      ∃ ps i', doc.placesIn config.tokenizer i.descriptor = .ok ps ∧
        (remove config doc).perform i = (.ok (), i') ∧ i'.WellFormed ∧
        Content.Drops id ps i.content i'.content := by
  obtain ⟨vs, hvs, rfl, hplaces⟩ := exists_values hplain hid i.descriptor
  rw [perform_remove_ok hvs]
  rcases Content.WellFormed.erase_spec h config.tokenizer vs with
    ⟨e, hps, hrun⟩ | ⟨ps, c', hps, hrun, hwf, hdrops⟩
  · rw [hrun]
    exact Or.inl ⟨e, hplaces.trans hps, rfl⟩
  · rw [hrun]
    exact Or.inr ⟨ps, _, hplaces.trans hps, rfl, hwf, hdrops⟩

/-- The entries of a document are removed. A document without places has none, which is an
error and changes nothing. -/
theorem WellFormed.remove_spec (h : i.WellFormed) (hplain : config.customExtractor = none)
    (hid : doc.id = .ok (some id)) :
    ∃ r i', (remove config doc).perform i = (r, i') ∧
      (r = .ok () ↔ doc.Indexable config.tokenizer i.descriptor) ∧ i'.WellFormed ∧
      ∀ p x, x ∈ i'.content.idsAt p ↔
        x ∈ i.content.idsAt p ∧ ¬(x = id ∧ doc.BelongsAt config.tokenizer i.descriptor p) := by
  rcases h.remove_cases hplain hid with ⟨e, hps, hrun⟩ | ⟨ps, i', hps, hrun, hwf, hdrops⟩
  · have hnone : ∀ ps, doc.placesIn config.tokenizer i.descriptor ≠ .ok ps := by
      intro ps hok
      rw [hps] at hok
      cases hok
    refine ⟨_, _, hrun, ⟨nofun, fun ⟨ps, hok⟩ => absurd hok (hnone ps)⟩, h, fun p x => ?_⟩
    have hnot : ¬ doc.BelongsAt config.tokenizer i.descriptor p :=
      fun ⟨ps, hok, _⟩ => hnone ps hok
    simp [hnot]
  · refine ⟨_, _, hrun, ⟨fun _ => ⟨ps, hps⟩, fun _ => rfl⟩, hwf, fun p x => ?_⟩
    rw [hdrops.mem_iff, belongsAt_iff hps]

/-- Taking the entries of a document back leaves the index as if the document had never had
a place in it. -/
theorem WellFormed.undone_spec (h : i.WellFormed) (hplain : config.customExtractor = none)
    (hid : doc.id = .ok (some id)) :
    (i.undone config doc).WellFormed ∧
      ∀ p x, x ∈ (i.undone config doc).content.idsAt p ↔
        x ∈ i.content.idsAt p ∧ ¬(x = id ∧ doc.BelongsAt config.tokenizer i.descriptor p) := by
  obtain ⟨r, i', hrun, -, hwf, hmem⟩ := h.remove_spec hplain hid
  rw [undone, hrun]
  exact ⟨hwf, hmem⟩

/-! ### Other entries for one id -/

/-- The second index is the first with other entries for one id: that id stands at the given
places, and every other id stands where it stood. -/
structure Rewrites (id : RecordId) (i i' : IndexState) (places : Place → Prop) : Prop where
  wellFormed : i'.WellFormed
  descriptor_eq : i'.descriptor = i.descriptor
  dirty_eq : i'.dirty = i.dirty
  mem_iff : ∀ p x, x ∈ i'.content.idsAt p ↔ (x = id ∧ places p) ∨ (x ≠ id ∧ x ∈ i.content.idsAt p)

namespace Rewrites

variable {i'' : IndexState} {places places' : Place → Prop}

/-- An index has its own entries. -/
theorem refl (h : i.WellFormed) : Rewrites id i i fun p => id ∈ i.content.idsAt p where
  wellFormed := h
  descriptor_eq := rfl
  dirty_eq := rfl
  mem_iff p x := by
    by_cases hx : x = id
    · simp [hx]
    · simp [hx]

/-- Of two changes for one id the second counts. -/
theorem trans (h : Rewrites id i i' places) (h' : Rewrites id i' i'' places') :
    Rewrites id i i'' places' where
  wellFormed := h'.wellFormed
  descriptor_eq := h'.descriptor_eq.trans h.descriptor_eq
  dirty_eq := h'.dirty_eq.trans h.dirty_eq
  mem_iff p x := by
    rw [h'.mem_iff, h.mem_iff]
    by_cases hx : x = id
    · simp [hx]
    · simp [hx]

/-- The places may be told in another way. -/
theorem congr (h : Rewrites id i i' places) (hplaces : ∀ p, places p ↔ places' p) :
    Rewrites id i i' places' := by
  rwa [show places' = places from funext fun p => propext (hplaces p).symm]

/-- Where the id stands. -/
theorem self_mem_iff (h : Rewrites id i i' places) (p : Place) :
    id ∈ i'.content.idsAt p ↔ places p := by
  simp [h.mem_iff]

/-- Whether the index takes a document under the id depends on the other ids only. -/
theorem takes_iff (h : Rewrites id i i' places) :
    i'.Takes config id doc ↔ i.Takes config id doc := by
  unfold Takes
  rw [h.descriptor_eq]
  refine and_congr Iff.rfl (imp_congr Iff.rfl (forall_congr' fun p => imp_congr Iff.rfl
    (forall_congr' fun x => ?_)))
  rw [h.mem_iff]
  by_cases hx : x = id
  · simp [hx]
  · simp [hx]

end Rewrites

/-! ### All records -/

/-- Every entry of the index is one of some record. -/
def Sourced (tokenizer : Text.Tokenizer) (records : List (RecordId × Document)) (i : IndexState) :
    Prop :=
  ∀ p, ∀ x ∈ i.content.idsAt p, ∃ e ∈ records, e.1 = x ∧ e.2.BelongsAt tokenizer i.descriptor p

/-- The index has every entry of the records. -/
structure Covers (tokenizer : Text.Tokenizer) (records : List (RecordId × Document))
    (i : IndexState) : Prop where
  indexable : ∀ e ∈ records, e.2.Indexable tokenizer i.descriptor
  mem : ∀ e ∈ records, ∀ p, e.2.BelongsAt tokenizer i.descriptor p → e.1 ∈ i.content.idsAt p

/-- An empty index has entries of records only. -/
theorem sourced_empty (hempty : i.content = Content.empty i.descriptor) (tokenizer : Text.Tokenizer)
    (records : List (RecordId × Document)) : i.Sourced tokenizer records := by
  intro p x hx
  rw [hempty, Content.idsAt_empty] at hx
  cases hx

namespace Sourced

variable {tokenizer : Text.Tokenizer}

/-- More records make no entry stale. -/
theorem mono (h : i.Sourced tokenizer records) (hsub : ∀ e ∈ records, e ∈ records') :
    i.Sourced tokenizer records' := by
  intro p x hx
  obtain ⟨e, he, hp⟩ := h p x hx
  exact ⟨e, hsub e he, hp⟩

/-- Neither do fewer entries. -/
theorem anti (h : i.Sourced tokenizer records) (hd : i'.descriptor = i.descriptor)
    (hsub : ∀ p, ∀ x ∈ i'.content.idsAt p, x ∈ i.content.idsAt p) :
    i'.Sourced tokenizer records := by
  intro p x hx
  rw [hd]
  exact h p x (hsub p x hx)

end Sourced

namespace Exact

/-- Exactness is about which records there are. -/
theorem congr (h : Exact config records i) (hmem : ∀ e, e ∈ records' ↔ e ∈ records) :
    Exact config records' i where
  wellFormed := h.wellFormed
  indexable e he := h.indexable e ((hmem e).mp he)
  mem_iff p x := by
    rw [h.mem_iff]
    exact exists_congr fun e => and_congr (hmem e).symm Iff.rfl

/-- Neither the flag nor the order of the records counts. -/
theorem withDirty (h : Exact config records i) (dirty : Bool) :
    Exact config records { i with dirty } := ⟨h.wellFormed, h.indexable, h.mem_iff⟩

/-- No two records of an exact unique index share a place. -/
theorem buildable (h : Exact config records i) :
    i.descriptor.Buildable config.tokenizer records where
  indexable := h.indexable
  unshared hu e he e' he' p hp hp' := by
    have hids : e.1 ∈ i.content.idsAt p ∧ e'.1 ∈ i.content.idsAt p :=
      ⟨(h.mem_iff p _).mpr ⟨e, he, rfl, hp⟩, (h.mem_iff p _).mpr ⟨e', he', rfl, hp'⟩⟩
    have hone := (Content.WellFormed.idsAt_nodup h.wellFormed p).2 hu
    match hp : i.content.idsAt p, hone with
    | [], _ => simp [hp] at hids
    | [x], _ =>
      rw [hp, List.mem_singleton, List.mem_singleton] at hids
      exact hids.1.trans hids.2.symm

/-- An exact unique index takes a document that shares its places with no other record. -/
theorem takes_iff (h : Exact config records i) :
    i.Takes config id doc ↔ doc.Indexable config.tokenizer i.descriptor ∧
      (i.descriptor.isUnique = true → ∀ p, doc.BelongsAt config.tokenizer i.descriptor p →
        ∀ e ∈ records, e.2.BelongsAt config.tokenizer i.descriptor p → e.1 = id) := by
  refine and_congr Iff.rfl (imp_congr Iff.rfl (forall_congr' fun p =>
    imp_congr Iff.rfl ⟨fun hfree e he hp => ?_, fun hfree x hx => ?_⟩))
  · exact hfree e.1 ((h.mem_iff p _).mpr ⟨e, he, rfl, hp⟩)
  · obtain ⟨e, he, rfl, hp⟩ := (h.mem_iff p x).mp hx
    exact hfree e he hp

/-- Once a document has been taken, the index is exact for the records with it. -/
theorem of_added (h : Exact config records i) (hd : i'.descriptor = i.descriptor)
    (htakes : i.Takes config id doc) (hwf : i'.WellFormed)
    (hadd : ∀ p x, x ∈ i'.content.idsAt p ↔
      x ∈ i.content.idsAt p ∨ (x = id ∧ doc.BelongsAt config.tokenizer i.descriptor p))
    (hmem : ∀ e, e ∈ records' ↔ e = (id, doc) ∨ e ∈ records) : Exact config records' i' where
  wellFormed := hwf
  indexable e he := by
    rw [hd]
    rcases (hmem e).mp he with rfl | he
    · exact htakes.1
    · exact h.indexable e he
  mem_iff p x := by
    rw [hadd, h.mem_iff, hd]
    constructor
    · rintro (⟨e, he, rfl, hp⟩ | ⟨rfl, hp⟩)
      · exact ⟨e, (hmem e).mpr (Or.inr he), rfl, hp⟩
      · exact ⟨_, (hmem _).mpr (Or.inl rfl), rfl, hp⟩
    · rintro ⟨e, he, rfl, hp⟩
      rcases (hmem e).mp he with rfl | he
      · exact Or.inr ⟨rfl, hp⟩
      · exact Or.inl ⟨e, he, rfl, hp⟩

/-- Once a record has been removed, the index is exact for the other records. -/
theorem of_removed (h : Exact config records i) (hd : i'.descriptor = i.descriptor)
    (hwf : i'.WellFormed)
    (hremove : ∀ p x, x ∈ i'.content.idsAt p ↔
      x ∈ i.content.idsAt p ∧ ¬(x = id ∧ doc.BelongsAt config.tokenizer i.descriptor p))
    (hmem : ∀ e, e ∈ records ↔ e = (id, doc) ∨ e ∈ records')
    (hid : ∀ e ∈ records', e.1 ≠ id) : Exact config records' i' where
  wellFormed := hwf
  indexable e he := hd ▸ h.indexable e ((hmem e).mpr (Or.inr he))
  mem_iff p x := by
    rw [hremove, h.mem_iff, hd]
    constructor
    · rintro ⟨⟨e, he, rfl, hp⟩, hnot⟩
      rcases (hmem e).mp he with rfl | he
      · exact absurd ⟨rfl, hp⟩ hnot
      · exact ⟨e, he, rfl, hp⟩
    · rintro ⟨e, he, rfl, hp⟩
      exact ⟨⟨e, (hmem e).mpr (Or.inr he), rfl, hp⟩, fun hsame => hid e he hsame.1⟩

end Exact

/-! ### Builds -/

/-- An index without stale entries that lacks none is exact. -/
theorem Sourced.exact (hs : i.Sourced config.tokenizer records) (hwf : i.WellFormed)
    (hc : i.Covers config.tokenizer records) : Exact config records i where
  wellFormed := hwf
  indexable := hc.indexable
  mem_iff p x := by
    refine ⟨hs p x, ?_⟩
    rintro ⟨e, he, rfl, hp⟩
    exact hc.mem e he p hp

/-- An index without stale entries takes each record of which it can be built. -/
theorem Sourced.takes (hs : i.Sourced config.tokenizer records)
    (hbuild : i.descriptor.Buildable config.tokenizer records) (hmem : (id, doc) ∈ records) :
    i.Takes config id doc := by
  refine ⟨hbuild.indexable _ hmem, fun hu p hp x hx => ?_⟩
  obtain ⟨e, he, rfl, hp'⟩ := hs p x hx
  exact hbuild.unshared hu e he _ hmem p hp' hp

/-- Adding the rest of the records ends well exactly when the index can be built from all of
them. It may have entries of the rest already, as long as none is stale. -/
theorem Sourced.addAll_spec (hplain : config.customExtractor = none)
    {passed rest : List (RecordId × Document)} (hs : i.Sourced config.tokenizer (passed ++ rest))
    (hwf : i.WellFormed) (hc : i.Covers config.tokenizer passed)
    (hids : ∀ e ∈ rest, e.2.id = .ok (some e.1)) :
    (i.descriptor.Buildable config.tokenizer (passed ++ rest) ∧
        ∃ i', (addAll config (rest.map (·.2))).perform i = (.ok (), i') ∧
          Exact config (passed ++ rest) i') ∨
      (¬ i.descriptor.Buildable config.tokenizer (passed ++ rest) ∧
        ∃ e i', (addAll config (rest.map (·.2))).perform i = (.error e, i') ∧ i'.WellFormed) := by
  induction rest generalizing i passed with
  | nil =>
    rw [List.append_nil] at hs ⊢
    have hexact := hs.exact hwf hc
    exact Or.inl ⟨hexact.buildable, i, rfl, hexact⟩
  | cons entry rest ih =>
    obtain ⟨id, doc⟩ := entry
    rw [List.map_cons, perform_addAll_cons]
    rcases hwf.add_spec hplain (hids _ List.mem_cons_self) with
      ⟨hnot, e, hadd⟩ | ⟨i₁, htakes, hadd, hwf₁, hmem⟩
    · exact Or.inr ⟨fun hbuild => hnot (hs.takes hbuild (by simp)), e, i, by rw [hadd], hwf⟩
    · have hd : i₁.descriptor = i.descriptor := by
        rw [← add_descriptor config doc i, hadd]
      -- the entries that are added are those of one of the records
      have hs₁ : i₁.Sourced config.tokenizer ((passed ++ [(id, doc)]) ++ rest) := by
        rw [List.append_assoc, List.singleton_append]
        intro p x hx
        rw [hd]
        rcases (hmem p x).mp hx with hx | ⟨rfl, hp⟩
        · exact hs p x hx
        · exact ⟨(x, doc), by simp, rfl, hp⟩
      have hc₁ : i₁.Covers config.tokenizer (passed ++ [(id, doc)]) := by
        refine ⟨fun e he => ?_, fun e he p hp => ?_⟩ <;> rw [hd] at *
        · rcases List.mem_append.mp he with he | he
          · exact hc.indexable e he
          · rw [List.mem_singleton.mp he]
            exact htakes.1
        · rw [hmem]
          rcases List.mem_append.mp he with he | he
          · exact Or.inl (hc.mem e he p hp)
          · rw [List.mem_singleton.mp he] at hp ⊢
            exact Or.inr ⟨rfl, hp⟩
      have hnext := ih hs₁ hwf₁ hc₁ fun e he => hids e (List.mem_cons_of_mem _ he)
      rw [hd, List.append_assoc, List.singleton_append] at hnext
      rw [hadd]
      exact hnext

/-- An index stays well-formed when its build begins. -/
theorem wellFormed_begun (h : i.WellFormed) (rebuild : Bool) : (begun rebuild i).WellFormed := by
  cases rebuild with
  | false => exact h
  | true =>
    show Content.WellFormed i.descriptor i.content.cleared
    rw [h.cleared_eq]
    exact Content.wellFormed_empty _

/-- Filling an index ends well exactly when it can be built from the records. The index is clean
and exact then, and dirty otherwise. What it held before counts only if it is not emptied, and
then none of it may be stale. -/
theorem WellFormed.fill_spec (h : i.WellFormed) (hplain : config.customExtractor = none)
    (hids : ∀ e ∈ records, e.2.id = .ok (some e.1)) {rebuild : Bool}
    (hs : rebuild = false → i.Sourced config.tokenizer records) :
    (i.descriptor.Buildable config.tokenizer records ∧
        ∃ i', (fill config (records.map (·.2)) rebuild).perform i = (.ok (), i') ∧
          i'.dirty = false ∧ Exact config records i') ∨
      (¬ i.descriptor.Buildable config.tokenizer records ∧
        ∃ e i', (fill config (records.map (·.2)) rebuild).perform i = (.error e, i') ∧
          i'.dirty = true ∧ i'.WellFormed) := by
  have hs' : (begun rebuild i).Sourced config.tokenizer ([] ++ records) := by
    cases rebuild with
    | false => exact hs rfl
    | true => exact sourced_empty (i := i.begun true) h.cleared_eq _ _
  rw [perform_fill, perform_complete]
  rcases hs'.addAll_spec hplain (wellFormed_begun h rebuild) ⟨nofun, nofun⟩ hids with
    ⟨hbuild, i', hrun, hexact⟩ | ⟨hnot, e, i', hrun, hwf⟩
  · rw [hrun]
    exact Or.inl ⟨hbuild, _, rfl, rfl, hexact.withDirty false⟩
  · have hdirty : i'.dirty = true := by
      have hkept := addAll_dirty config (records.map (·.2)) (begun rebuild i)
      rwa [hrun] at hkept
    rw [hrun]
    exact Or.inr ⟨hnot, e, i', rfl, hdirty, hwf⟩

end IndexState

end DocumentDb
