import DocumentDb.Proofs.Index.Scanning
import DocumentDb.Proofs.Index.TokenWalk

/-!
# `DocumentDb.Proofs.Index.Searching`: what a search of a full-text index finds

A search takes some of the tokens of an index (`TextQuery.takes`) and answers with the ids under
them, each once. A query of words looks its tokens up and counts (`Ranking`); a query with stars
goes over the tokens, and if the star is at the end only over the run of tokens that begin with the
term (`TokenWalk`). Which tokens are taken decides which ids are found: `FullText.answer_spec` says
this for all kinds of queries, and `Content.search_spec` that on an exact index these are the
records with such a token.
-/

set_option autoImplicit false

namespace DocumentDb

open SortedEntries (Sorted)

/-! ### Answers -/

/-- Whether a search takes a token. -/
def TextQuery.takes (tokenizer : Text.Tokenizer) : TextQuery → String → Bool
  | .words text, token => (tokenizer text).contains token
  | .beginsWith term, token => Text.startsWith token term
  | .endsWith term, token => Text.endsWith token term
  | .contains term, token => Text.contains token term

namespace FullText

variable {postings : Postings}

/-- The ids under the tokens with a property. -/
theorem collectTokens_spec (p : String → Bool) (postings : Postings) :
    (collectTokens p postings).Nodup ∧ ∀ id, id ∈ collectTokens p postings ↔
      ∃ e ∈ postings, p e.1 = true ∧ id ∈ e.2 := by
  rw [collectTokens_eq]
  refine ⟨RecordIdSet.nodup_eraseDups _, fun id => ?_⟩
  rw [List.mem_eraseDups, List.mem_flatMap]
  simp only [List.mem_filter, and_assoc]

/-- An id that stands under some entry is found by looking up the token of the entry. -/
theorem exists_holding_iff (h : Sorted postings) (p : String → Prop) (id : RecordId) :
    (∃ e ∈ postings, p e.1 ∧ id ∈ e.2) ↔ ∃ t, p t ∧ id ∈ idsUnder postings t := by
  constructor
  · rintro ⟨⟨t, ids⟩, he, ht, hid⟩
    refine ⟨t, ht, ?_⟩
    rw [idsUnder, h.get?_eq_some_iff_mem.mpr he]
    exact hid
  · rintro ⟨t, ht, hid⟩
    rw [idsUnder] at hid
    cases hget : SortedEntries.get? t postings with
    | none =>
      rw [hget] at hid
      cases hid
    | some ids =>
      rw [hget] at hid
      exact ⟨(t, ids), h.get?_eq_some_iff_mem.mp hget, ht, hid⟩

/-- The ids under the tokens of a list. -/
theorem rankWords_spec (h : Sorted postings) (tokens : List String) :
    (rankWords tokens postings).Nodup ∧ ∀ id, id ∈ rankWords tokens postings ↔
      ∃ e ∈ postings, tokens.contains e.1 = true ∧ id ∈ e.2 := by
  refine ⟨nodup_rankWords tokens postings, fun id => ?_⟩
  rw [mem_rankWords, exists_holding_iff h (tokens.contains · = true)]
  simp only [List.contains_iff_mem]

/-- A search answers with the ids under the tokens that it takes, each once. -/
theorem answer_spec (h : Sorted postings) (tokenizer : Text.Tokenizer) (q : TextQuery) :
    (answer tokenizer q postings).Nodup ∧ ∀ id, id ∈ answer tokenizer q postings ↔
      ∃ e ∈ postings, q.takes tokenizer e.1 = true ∧ id ∈ e.2 := by
  cases q with
  | words text => exact rankWords_spec h (tokenizer text)
  | beginsWith term =>
    rw [answer, collectFrom_eq h]
    exact collectTokens_spec _ postings
  | endsWith term => exact collectTokens_spec (Text.endsWith · term) postings
  | contains term => exact collectTokens_spec (Text.contains · term) postings

end FullText

/-! ### Searches -/

/-- Whether a search on a field finds a document: it takes one of the tokens of the field. -/
def Document.Searched (tokenizer : Text.Tokenizer) (field : String) (q : TextQuery)
    (doc : Document) :
    Prop :=
  ∃ ts, FullText.tokens tokenizer field (doc.valueAt field) = .ok ts ∧
    ∃ t ∈ ts, q.takes tokenizer t = true

/-- Where a document belongs in the full-text index on a field. -/
theorem Document.belongsAt_token {tokenizer : Text.Tokenizer} {d : IndexDescriptor} {doc : Document}
    {id : RecordId} {field : String} (hkind : d.isFullText = true)
    (hfields : d.fields = FieldPath.single field) (hid : doc.id = .ok (some id)) (t : String) :
    doc.BelongsAt tokenizer d (.token t) ↔
      ∃ ts, FullText.tokens tokenizer field (doc.valueAt field) = .ok ts ∧ t ∈ ts := by
  have hvalue : (doc.fieldValues id (FieldPath.single field)).firstValue = doc.valueAt field := rfl
  have hfirst : (FieldPath.single field).first = field := rfl
  rw [Document.BelongsAt, Document.placesIn_fullText hkind hid, hfields, hvalue, hfirst]
  simp [Result.map_eq_ok_iff, Place.among, Place.same]

namespace Content

variable {config : Config} {records : List (RecordId × Document)} {i : IndexState}
  {field query : String} {q : TextQuery}

/-- A search of an exact full-text index finds the records with a token that it takes, each once. -/
theorem search_spec (hexact : i.Exact config records)
    (hown : ∀ e ∈ records, e.2.id = .ok (some e.1)) (hkind : i.descriptor.isFullText = true)
    (hfields : i.descriptor.fields = FieldPath.single field) (hq : TextQuery.parse query = .ok q)
    (order : ScanOrder) :
    ∃ ids, i.content.scan config.tokenizer i.descriptor order [⟨field, .text query⟩] = .ok ids ∧
      ids.Nodup ∧
      ∀ id, id ∈ ids ↔ ∃ e ∈ records, e.1 = id ∧ e.2.Searched config.tokenizer field q := by
  have hwf := hexact.wellFormed
  unfold IndexState.WellFormed at hwf
  cases hcontent : i.content with
  | ordered level =>
    rw [hcontent] at hwf
    rw [hwf.1] at hkind
    cases hkind
  | fullText postings =>
    rw [hcontent] at hwf
    obtain ⟨-, hsorted, -⟩ := hwf
    -- what the index holds under the tokens that the search takes
    have hheld : ∀ id, (∃ e ∈ postings, q.takes config.tokenizer e.1 = true ∧ id ∈ e.2) ↔
        ∃ e ∈ records, e.1 = id ∧ e.2.Searched config.tokenizer field q := by
      intro id
      have hat : ∀ t, id ∈ FullText.idsUnder postings t ↔
          ∃ e ∈ records, e.1 = id ∧ ∃ ts,
            FullText.tokens config.tokenizer field (e.2.valueAt field) = .ok ts ∧ t ∈ ts := by
        intro t
        have hmem := hexact.mem_iff (.token t) id
        rw [hcontent] at hmem
        refine hmem.trans (exists_congr fun e => and_congr_right fun he => ?_)
        rw [Document.belongsAt_token hkind hfields (hown e he)]
      rw [FullText.exists_holding_iff hsorted (q.takes config.tokenizer · = true)]
      constructor
      · rintro ⟨t, ht, hid⟩
        obtain ⟨e, he, hown, ts, hts, hmem⟩ := (hat t).mp hid
        exact ⟨e, he, hown, ts, hts, t, hmem, ht⟩
      · rintro ⟨e, he, hown, ts, hts, t, hmem, ht⟩
        exact ⟨t, ht, (hat t).mpr ⟨e, he, hown, ts, hts, hmem⟩⟩
    obtain ⟨hnodup, hmem⟩ := FullText.answer_spec hsorted config.tokenizer q
    refine ⟨_, ?_, hnodup, fun id => (hmem id).trans (hheld id)⟩
    rw [scan, hq]
    cases hlooks : FullText.looksAtPostings config.tokenizer q with
    | true => exact congrArg Except.ok (if_pos hlooks)
    | false =>
      rw [FullText.answer_of_not_looks hlooks]
      exact congrArg Except.ok (if_neg (by simp [hlooks]))

end Content

end DocumentDb
