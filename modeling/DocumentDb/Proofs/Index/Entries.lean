import DocumentDb.Proofs.Index.FullText
import DocumentDb.Proofs.Index.Ordered

/-!
# `DocumentDb.Proofs.Index.Entries`: entries of records in indexes of both kinds

`placesOf` says at which places the values of a record belong in an index. `Content.write`
and `Content.erase` are what writing and removing the entries of the record does to the
content as a whole.

* `Content.WellFormed.write_spec`: a write that is refused changes nothing; one that is
  accepted adds the id at the places of the record and nowhere else. A unique index refuses
  exactly the records that have a place where another id stands (`Content.Accepts`).
* `Content.WellFormed.erase_spec`: an erasure takes the id away at the places of the record,
  whatever stands there, and fails only if the values have no places.
-/

set_option autoImplicit false

namespace DocumentDb

/-- The places where the values of a record belong. -/
def placesOf (tokenizer : Text.Tokenizer) (d : IndexDescriptor) (vs : FieldValues) :
    Result (List Place) :=
  if d.isFullText then
    (FullText.tokens tokenizer d.fields.first vs.firstValue).map (List.map Place.token)
  else (OrderedIndex.paths d vs).map fun (keys, path) => keys.map fun k => .path (k :: path)

namespace Content

/-- Changes an index where the values of a record belong: its level at the keys, its postings
at the tokens. Values that have no place there are an error and change nothing. -/
def change (tokenizer : Text.Tokenizer) (d : IndexDescriptor) (vs : FieldValues)
    (onKeys : List Key → List Key → Action Level Unit)
    (onTokens : List String → FullText.Postings → FullText.Postings) :
      Action Content Unit := fun c =>
  match c with
  | .ordered level =>
    match OrderedIndex.paths d vs with
    | .error e => (.error e, c)
    | .ok (keys, path) =>
      let (r, level') := (onKeys keys path).perform level
      (r, .ordered level')
  | .fullText postings =>
    match FullText.tokens tokenizer d.fields.first vs.firstValue with
    | .error e => (.error e, c)
    | .ok ts => (.ok (), .fullText (onTokens ts postings))

/-- What writing the entries of a record does. -/
def write (tokenizer : Text.Tokenizer) (d : IndexDescriptor) (vs : FieldValues) :
    Action Content Unit :=
  change tokenizer d vs (OrderedIndex.writeKeys d vs.id) (FullText.addTokens vs.id)

/-- What removing the entries of a record does. -/
def erase (tokenizer : Text.Tokenizer) (d : IndexDescriptor) (vs : FieldValues) :
    Action Content Unit :=
  change tokenizer d vs (OrderedIndex.eraseKeys d vs.id) (FullText.dropTokens vs.id)

variable {tokenizer : Text.Tokenizer} {d : IndexDescriptor} {vs : FieldValues} {c : Content}

/-- Whether the content takes the entries of a record: the values have places, and a unique
index has no other id there. -/
def Accepts (tokenizer : Text.Tokenizer) (d : IndexDescriptor) (vs : FieldValues) (c : Content) :
    Prop :=
  ∃ ps, placesOf tokenizer d vs = .ok ps ∧ (d.isUnique = true → Free vs.id ps c)

/-- A change of an ordered index fails without paths, and else changes its levels. -/
theorem perform_change_ordered (level : Level)
    (onKeys : List Key → List Key → Action Level Unit)
    (onTokens : List String → FullText.Postings → FullText.Postings) :
    (change tokenizer d vs onKeys onTokens).perform (ordered level)
      = match OrderedIndex.paths d vs with
        | .error e => (.error e, ordered level)
        | .ok (keys, path) =>
          (((onKeys keys path).perform level).1, ordered ((onKeys keys path).perform level).2) :=
  rfl

/-- A change of a full-text index fails without tokens, and else changes its posting lists. -/
theorem perform_change_fullText (postings : FullText.Postings)
    (onKeys : List Key → List Key → Action Level Unit)
    (onTokens : List String → FullText.Postings → FullText.Postings) :
    (change tokenizer d vs onKeys onTokens).perform (fullText postings)
      = match FullText.tokens tokenizer d.fields.first vs.firstValue with
        | .error e => (.error e, fullText postings)
        | .ok ts => (.ok (), fullText (onTokens ts postings)) := rfl

/-- A change does not turn an index into one of the other kind. -/
theorem isFullText_change (c : Content) (onKeys : List Key → List Key → Action Level Unit)
    (onTokens : List String → FullText.Postings → FullText.Postings) :
    ((change tokenizer d vs onKeys onTokens).perform c).2.isFullText = c.isFullText := by
  cases c with
  | ordered level =>
    rw [perform_change_ordered]
    cases OrderedIndex.paths d vs <;> rfl
  | fullText postings =>
    rw [perform_change_fullText]
    cases FullText.tokens tokenizer d.fields.first vs.firstValue <;> rfl

/-- A write that is accepted adds the id of the record at its places. One that is refused
changes nothing. -/
theorem WellFormed.write_spec (h : c.WellFormed d) (tokenizer : Text.Tokenizer)
    (vs : FieldValues) :
    (¬ c.Accepts tokenizer d vs ∧
        ∃ e, (write tokenizer d vs).perform c = (.error e, c)) ∨
      ∃ ps c', c.Accepts tokenizer d vs ∧ placesOf tokenizer d vs = .ok ps ∧
        (write tokenizer d vs).perform c = (.ok (), c') ∧ c'.WellFormed d ∧ Adds vs.id ps c c' := by
  cases c with
  | fullText postings =>
    -- a full-text index is not unique, so it takes whatever has tokens
    have hkind : d.isUnique = false := by
      have hk : d.kind = .fullText := beq_iff_eq.mp h.1
      rw [IndexDescriptor.isUnique, hk]
      rfl
    have hplaces : placesOf tokenizer d vs
        = (FullText.tokens tokenizer d.fields.first vs.firstValue).map (List.map Place.token) :=
      if_pos h.1
    rw [write, perform_change_fullText]
    cases hts : FullText.tokens tokenizer d.fields.first vs.firstValue with
    | error e =>
      rw [hts] at hplaces
      refine Or.inl ⟨?_, e, rfl⟩
      rintro ⟨ps, hps, -⟩
      rw [hplaces] at hps
      cases hps
    | ok ts =>
      rw [hts] at hplaces
      obtain ⟨hwf, hadds⟩ := h.addTokens vs.id ts
      exact Or.inr ⟨_, _, ⟨_, hplaces, by simp [hkind]⟩, hplaces, rfl, hwf, hadds⟩
  | ordered level =>
    have hplaces : placesOf tokenizer d vs
        = (OrderedIndex.paths d vs).map fun (keys, path) => keys.map fun k => .path (k :: path) :=
      if_neg (by simp [h.1])
    rw [write, perform_change_ordered]
    cases hpaths : OrderedIndex.paths d vs with
    | error e =>
      rw [hpaths] at hplaces
      refine Or.inl ⟨?_, e, rfl⟩
      rintro ⟨ps, hps, -⟩
      rw [hplaces] at hps
      cases hps
    | ok kp =>
      obtain ⟨keys, path⟩ := kp
      rw [hpaths] at hplaces
      -- a unique index takes what has free places only
      by_cases hfree : d.isUnique = true →
          Free vs.id (keys.map fun k => .path (k :: path)) (ordered level)
      · obtain ⟨hwrite, hwf, hadds⟩ := h.writeKeys hpaths hfree
        refine Or.inr ⟨_, _, ⟨_, hplaces, hfree⟩, hplaces, ?_, hwf, hadds⟩
        simp only [hwrite]
      · obtain ⟨hu, hnot⟩ := Classical.not_imp.mp hfree
        obtain ⟨e, hwrite⟩ := h.writeKeys_refused hpaths hu hnot
        refine Or.inl ⟨?_, e, ?_⟩
        · rintro ⟨ps, hps, hfree'⟩
          rw [hplaces] at hps
          cases hps
          exact hfree hfree'
        · simp only [hwrite]

/-- An erasure succeeds when the values of the record have places, and takes its id away
there. -/
theorem WellFormed.erase_spec (h : c.WellFormed d) (tokenizer : Text.Tokenizer)
    (vs : FieldValues) :
    (∃ e, placesOf tokenizer d vs = .error e ∧
        (erase tokenizer d vs).perform c = (.error e, c)) ∨
      ∃ ps c', placesOf tokenizer d vs = .ok ps ∧
        (erase tokenizer d vs).perform c = (.ok (), c') ∧ c'.WellFormed d ∧
        Drops vs.id ps c c' := by
  cases c with
  | fullText postings =>
    have hplaces : placesOf tokenizer d vs
        = (FullText.tokens tokenizer d.fields.first vs.firstValue).map (List.map Place.token) :=
      if_pos h.1
    -- values without tokens are an error before anything is taken out
    rw [erase, perform_change_fullText]
    cases hts : FullText.tokens tokenizer d.fields.first vs.firstValue with
    | error e =>
      rw [hts] at hplaces
      exact Or.inl ⟨e, hplaces, rfl⟩
    | ok ts =>
      rw [hts] at hplaces
      obtain ⟨hwf, hdrops⟩ := h.dropTokens vs.id ts
      exact Or.inr ⟨_, _, hplaces, rfl, hwf, hdrops⟩
  | ordered level =>
    have hplaces : placesOf tokenizer d vs
        = (OrderedIndex.paths d vs).map fun (keys, path) => keys.map fun k => .path (k :: path) :=
      if_neg (by simp [h.1])
    -- so are values without paths
    rw [erase, perform_change_ordered]
    cases hpaths : OrderedIndex.paths d vs with
    | error e =>
      rw [hpaths] at hplaces
      exact Or.inl ⟨e, hplaces, rfl⟩
    | ok kp =>
      obtain ⟨keys, path⟩ := kp
      rw [hpaths] at hplaces
      obtain ⟨herase, hwf, hdrops⟩ := h.eraseKeys hpaths vs.id
      refine Or.inr ⟨_, _, hplaces, ?_, hwf, hdrops⟩
      simp only [herase]

end Content

end DocumentDb
