import DocumentDb.Index.FullText
import DocumentDb.Proofs.Action
import DocumentDb.Proofs.Index.RecordIdSet
import DocumentDb.Proofs.Query.TextGrammar
import DocumentDb.Proofs.Store

/-!
# `DocumentDb.Proofs.Index.Ranking`: the order in which a search for words finds records

A search for words goes over the posting lists of its tokens and counts how often each id occurs
there. The counts are kept in a list, and a map of positions says where in it an id stands.

* `Scores.Counts` says what list and map are after some occurrences: the list has each id with its
  count, in the order of first occurrences, and the map has the places of this list. One occurrence
  keeps this up (`Counts.count`), so it holds of all of them (`counts_scores`).
* `pairwise_mergeSort` says of a stable sort that elements which it does not tell apart stay in the
  order in which they came. So the ranking is by counts, and by first occurrences among equal
  counts.
* `Ranked` is that order in terms of the query alone: the score of an id is the number of places in
  the list of query tokens whose token holds it. An id is in a posting list once, so its score is
  its count.
-/

set_option autoImplicit false

namespace DocumentDb

/-! ### Stable sorts -/

/-- Elements that a merge sort does not tell apart are in the order in which they came. -/
theorem pairwise_mergeSort_of_pairwise {α : Type} (le : α → α → Bool) {r : α → α → Prop}
    {xs : List α}
    (htrans : ∀ a b c, le a b = true → le b c = true → le a c = true)
    (htotal : ∀ a b, (le a b || le b a) = true) (h : xs.Pairwise r) :
    (xs.mergeSort le).Pairwise fun a b => le a b = true ∧ (le b a = true → r a b) := by
  -- the same sort, with the place of an element beside it as the last criterion
  have hperm := List.mergeSort_perm xs.zipIdx (List.zipIdxLE le)
  have hsorted := List.pairwise_mergeSort (List.zipIdxLE_trans htrans) (List.zipIdxLE_total htotal)
    xs.zipIdx
  have hplaces : (xs.zipIdx.mergeSort (List.zipIdxLE le)).Pairwise fun a b => a.2 ≠ b.2 := by
    have hnodup : (xs.zipIdx.map (·.2)).Nodup := by
      rw [List.zipIdx_map_snd]
      exact List.nodup_range'
    exact List.pairwise_map.mp ((hperm.map Prod.snd).nodup_iff.mpr hnodup)
  rw [← List.mergeSort_zipIdx, List.pairwise_map]
  refine (hsorted.and hplaces).imp_of_mem fun {a b} ha hb hab => ?_
  obtain ⟨hle, hne⟩ := hab
  rw [List.zipIdxLE] at hle
  split at hle
  · rename_i hfirst
    refine ⟨hfirst, fun hback => ?_⟩
    -- neither is first by the order, so the places decide
    rw [if_pos hback, decide_eq_true_iff] at hle
    have hia := List.mem_zipIdx_iff_getElem?.mp (hperm.mem_iff.mp ha)
    have hjb := List.mem_zipIdx_iff_getElem?.mp (hperm.mem_iff.mp hb)
    obtain ⟨hi, hia⟩ := List.getElem?_eq_some_iff.mp hia
    obtain ⟨hj, hjb⟩ := List.getElem?_eq_some_iff.mp hjb
    rw [← hia, ← hjb]
    exact List.pairwise_iff_getElem.mp h _ _ hi hj (Nat.lt_of_le_of_ne hle hne)
  · cases hle

/-- A list with one more element has it at its end. -/
theorem getElem?_concat_eq_some_iff {α : Type} {xs : List α} {a b : α} {i : Nat} :
    (xs ++ [a])[i]? = some b ↔ xs[i]? = some b ∨ i = xs.length ∧ a = b := by
  rw [List.getElem?_append, List.getElem?_singleton]
  split
  · rename_i h
    simp [Nat.ne_of_lt h]
  · rename_i h
    rw [List.getElem?_eq_none (Nat.le_of_not_lt h)]
    grind

namespace FullText

open RecordIdSet (addAll)

variable {postings : Postings} {tokens : List String} {id : RecordId}

/-! ### Counting -/

/-- The ids that an index holds under a token. -/
def idsUnder (postings : Postings) (token : String) : List RecordId :=
  (SortedEntries.get? token postings).getD []

/-- What a search for some tokens comes to: their posting lists one after the other. -/
def occurrences (tokens : List String) (postings : Postings) : List RecordId :=
  tokens.flatMap (idsUnder postings)

/-- What has been noted of some occurrences. -/
structure Scores.Counts (s : Scores) (ids : List RecordId) : Prop where
  rows : s.rows = (addAll [] ids).map fun id => (id, ids.count id)
  positions : ∀ id i, SortedEntries.get? id s.positions = some i ↔ (addAll [] ids)[i]? = some id

namespace Scores

variable {s : Scores} {ids : List RecordId}

/-- Nothing has been noted of no occurrences. -/
theorem counts_nil : Counts {} [] where
  rows := rfl
  positions := fun _ _ => by simp [addAll]

/-- An id without a position has not occurred. -/
theorem Counts.not_mem_of_get?_eq_none (h : s.Counts ids)
    (hnone : SortedEntries.get? id s.positions = none) : id ∉ addAll [] ids := by
  intro hmem
  obtain ⟨i, hi⟩ := List.mem_iff_getElem?.mp hmem
  rw [← h.positions, hnone] at hi
  cases hi

/-- An id that has occurred is counted where it stands, and nothing else changes. -/
theorem Counts.count_again (h : s.Counts ids) {i : Nat}
    (hposition : SortedEntries.get? id s.positions = some i) :
    Counts { s with rows := s.rows.modify i fun (id, n) => (id, n + 1) } (ids ++ [id]) := by
  have hi := (h.positions id i).mp hposition
  have hset : addAll [] (ids ++ [id]) = addAll [] ids := by
    rw [RecordIdSet.addAll_concat, addId_of_mem (List.mem_of_getElem? hi)]
  constructor
  · rw [hset]
    refine List.ext_getElem? fun j => ?_
    rw [List.getElem?_modify, h.rows, List.getElem?_map, List.getElem?_map]
    cases hj : (addAll [] ids)[j]? with
    | none => rfl
    | some id' =>
      by_cases hij : i = j
      · obtain rfl : id = id' := Option.some.inj (hi.symm.trans (hij ▸ hj))
        simp [hij]
      · -- another place has another id
        have hne : id ≠ id' := by
          rintro rfl
          have hlength := (List.getElem?_eq_some_iff.mp hi).1
          have hnodup := RecordIdSet.nodup_addAll_nil ids
          exact hij ((List.getElem?_inj hlength hnodup).mp (hi.trans hj.symm))
        simp [hij, List.count_append, hne]
  · rw [hset]
    exact h.positions

/-- An id that has not occurred gets a place at the end. -/
theorem Counts.count_new (h : s.Counts ids) (hnone : SortedEntries.get? id s.positions = none) :
    Counts
      { rows := s.rows ++ [(id, 1)]
        positions := SortedEntries.insert id s.rows.length s.positions } (ids ++ [id]) := by
  have hnew := h.not_mem_of_get?_eq_none hnone
  have hset : addAll [] (ids ++ [id]) = addAll [] ids ++ [id] := by
    rw [RecordIdSet.addAll_concat, addId_of_not_mem hnew]
  have hlength : s.rows.length = (addAll [] ids).length := by rw [h.rows, List.length_map]
  constructor
  · have hself : (ids ++ [id]).count id = 1 := by
      rw [List.count_append, List.count_singleton_self,
        List.count_eq_zero.mpr (mt RecordIdSet.mem_addAll_nil.mpr hnew)]
    -- the counts of the other ids stay
    have hothers : (addAll [] ids).map (fun id' => (id', (ids ++ [id]).count id')) = s.rows := by
      rw [h.rows]
      refine List.map_congr_left fun id' hid' => ?_
      have hne : id ≠ id' := fun heq => hnew (heq ▸ hid')
      simp [List.count_append, hne]
    rw [hset, List.map_append, List.map_singleton, hself, hothers]
  · intro id' i
    rw [hset, SortedEntries.get?_insert, getElem?_concat_eq_some_iff, hlength]
    by_cases hsame : id' = id
    · subst hsame
      have hnot : (addAll [] ids)[i]? ≠ some id' := fun hi => hnew (List.mem_of_getElem? hi)
      simp [hnot, eq_comm]
    · rw [if_neg (mt Std.LawfulEqCmp.compare_eq_iff_eq.mp hsame), h.positions, or_iff_left]
      exact fun hi => hsame hi.2.symm

/-- One more occurrence is noted. -/
theorem Counts.count (h : s.Counts ids) (id : RecordId) : (s.count id).Counts (ids ++ [id]) := by
  rw [Scores.count]
  cases hposition : SortedEntries.get? id s.positions with
  | some i => exact h.count_again hposition
  | none => exact h.count_new hposition

/-- Occurrences are noted in turn. -/
theorem counts_foldl (ids : List RecordId) : (ids.foldl Scores.count {}).Counts ids := by
  induction ids using List.reverseRecOn with
  | nil => exact counts_nil
  | append_singleton ids id ih =>
    rw [List.foldl_concat]
    exact ih.count id

end Scores

/-- A search notes all occurrences of its tokens. -/
theorem counts_scores (tokens : List String) (postings : Postings) :
    (scores tokens postings).Counts (occurrences tokens postings) := by
  have hfold : scores tokens postings = (occurrences tokens postings).foldl Scores.count {} :=
    List.foldl_flatMap.symm
  rw [hfold]
  exact Scores.counts_foldl _

/-! ### Ranking -/

/-- The ids of the tokens are ranked by how often they occur, and stay in the order in which they
occur first where that is the same. -/
theorem rankWords_eq (tokens : List String) (postings : Postings) :
    rankWords tokens postings
      = (addAll [] (occurrences tokens postings)).mergeSort fun a b =>
          (occurrences tokens postings).count b ≤ (occurrences tokens postings).count a := by
  have hsort := List.map_mergeSort
    (r := fun a b => (occurrences tokens postings).count b ≤ (occurrences tokens postings).count a)
    (s := fun a b => b.2 ≤ a.2) (f := fun id => (id, (occurrences tokens postings).count id))
    (l := addAll [] (occurrences tokens postings)) fun _ _ _ _ => rfl
  -- the rows are sorted by their counts, so the ids could be sorted before the counts are put to
  -- them
  rw [rankWords, (counts_scores tokens postings).rows, ← hsort, List.map_map]
  have hids : (fun row : RecordId × Nat => row.1) ∘
      (fun id => (id, (occurrences tokens postings).count id)) = fun id => id := rfl
  rw [hids, List.map_id']
  exact RecordIdSet.addAll_of_nodup
    ((List.mergeSort_perm _ _).nodup_iff.mpr (RecordIdSet.nodup_addAll_nil _))

/-- No id is ranked twice. -/
theorem nodup_rankWords (tokens : List String) (postings : Postings) :
    (rankWords tokens postings).Nodup := by
  rw [rankWords_eq, (List.mergeSort_perm _ _).nodup_iff]
  exact RecordIdSet.nodup_addAll_nil _

/-- The ids that are ranked are those under the tokens. -/
theorem mem_rankWords :
    id ∈ rankWords tokens postings ↔ ∃ t ∈ tokens, id ∈ idsUnder postings t := by
  rw [rankWords_eq, List.mem_mergeSort, RecordIdSet.mem_addAll_nil, occurrences, List.mem_flatMap]

/-- The score of an id: the number of places in the list of query tokens whose token holds it. -/
def score (tokens : List String) (postings : Postings) (id : RecordId) : Nat :=
  tokens.countP fun t => (idsUnder postings t).contains id

/-- What a search for some tokens has to find: the ids that one of them holds, each once, those of a
greater score first, and those of one score in the order in which they occur first. -/
structure Ranked (tokens : List String) (postings : Postings) (ids : List RecordId) : Prop where
  nodup : ids.Nodup
  mem_iff : ∀ id, id ∈ ids ↔ ∃ t ∈ tokens, id ∈ idsUnder postings t
  ordered : ids.Pairwise fun a b =>
    score tokens postings b < score tokens postings a ∨
      score tokens postings b = score tokens postings a ∧
        (occurrences tokens postings).idxOf a < (occurrences tokens postings).idxOf b

/-- There is one ranking of the ids. -/
theorem Ranked.unique {ids ids' : List RecordId} (h : Ranked tokens postings ids)
    (h' : Ranked tokens postings ids') : ids' = ids := by
  have hperm : ids'.Perm ids := (List.perm_ext_iff_of_nodup h'.nodup h.nodup).mpr fun id => by
    rw [h.mem_iff, h'.mem_iff]
  refine hperm.eq_of_pairwise (fun a b _ _ hab hba => ?_) h'.ordered h.ordered
  omega

/-- Where posting lists do not repeat ids, no id is twice under a token. -/
theorem nodup_idsUnder (h : ∀ e ∈ postings, e.2.Nodup) (t : String) :
    (idsUnder postings t).Nodup := by
  rw [idsUnder]
  cases hget : SortedEntries.get? t postings with
  | none => exact List.nodup_nil
  | some ids =>
    obtain ⟨t', hmem, -⟩ := SortedEntries.exists_mem_of_get?_eq_some hget
    exact h _ hmem

/-- An id occurs once for each query token that holds it. -/
theorem count_occurrences (h : ∀ e ∈ postings, e.2.Nodup) (tokens : List String) (id : RecordId) :
    (occurrences tokens postings).count id = score tokens postings id := by
  induction tokens with
  | nil => rfl
  | cons t tokens ih =>
    rw [occurrences, List.flatMap_cons, List.count_append, (nodup_idsUnder h t).count, score,
      List.countP_cons, Nat.add_comm]
    simpa [occurrences, score] using ih

/-- The counts rank the ids by their scores. -/
theorem rankWords_ranked (h : ∀ e ∈ postings, e.2.Nodup) (tokens : List String) :
    Ranked tokens postings (rankWords tokens postings) where
  nodup := nodup_rankWords tokens postings
  mem_iff := fun _ => mem_rankWords
  ordered := by
    rw [rankWords_eq]
    have hsorted := pairwise_mergeSort_of_pairwise
      (fun a b => (occurrences tokens postings).count b ≤ (occurrences tokens postings).count a)
      (by grind) (by grind) (RecordIdSet.pairwise_idxOf (occurrences tokens postings))
    refine hsorted.imp fun {a b} hab => ?_
    simp only [count_occurrences h, decide_eq_true_eq] at hab
    rcases Nat.lt_or_eq_of_le hab.1 with hlt | heq
    · exact Or.inl hlt
    · exact Or.inr ⟨heq, hab.2 heq.ge⟩

/-! ### Searches -/

/-- A query that is answered without the index would find nothing there. -/
theorem answer_of_not_looks {tokenizer : Text.Tokenizer} {q : TextQuery}
    (h : looksAtPostings tokenizer q = false) : answer tokenizer q postings = [] := by
  cases q with
  | words text =>
    have hnone : tokenizer text = [] := by simpa [looksAtPostings] using h
    rw [answer, hnone, List.eq_nil_iff_forall_not_mem]
    intro id hid
    obtain ⟨t, ht, -⟩ := mem_rankWords.mp hid
    exact List.not_mem_nil ht
  | _ => cases h

/-- A search of an index that can be read gives the answer to its query. -/
theorem perform_search {tokenizer : Text.Tokenizer} {s : Store} {map : MapRef String}
    (hread : (s.map map).read = .ok postings) {query : String} {q : TextQuery}
    (hq : TextQuery.parse query = .ok q) :
    (search tokenizer map query).perform s = (.ok (answer tokenizer q postings), s) := by
  rw [search, Action.perform_bind, Action.perform_ofResult, hq]
  dsimp only
  cases hlooks : looksAtPostings tokenizer q with
  | true =>
    rw [if_pos rfl, Action.perform_bind, MapRef.perform_entries_of_read hread]
    rfl
  | false =>
    rw [if_neg Bool.false_ne_true, answer_of_not_looks hlooks]
    rfl

/-- A query without stars is one for its words, without the blanks around them. -/
theorem parse_words {query : String} (h : '*' ∉ query.toList) :
    TextQuery.parse query = .ok (.words (String.ofList (Text.trim query.toList))) := by
  apply TextQuery.parse_of_no_star
  intro hmem
  exact h (Text.mem_of_mem_dropEnds hmem)

/-- A search for words of an index whose posting lists hold no id twice answers, with any tokenizer,
with the ranking of the ids that one of its tokens holds. There is no other ranking of them. -/
theorem search_words_ranked (tokenizer : Text.Tokenizer) {s : Store} {map : MapRef String}
    (hread : (s.map map).read = .ok postings) (hnodup : ∀ e ∈ postings, e.2.Nodup) {query : String}
    (hstar : '*' ∉ query.toList) :
    ∃ ids, (search tokenizer map query).perform s = (.ok ids, s) ∧
      Ranked (tokenizer (String.ofList (Text.trim query.toList))) postings ids ∧
      ∀ ids', Ranked (tokenizer (String.ofList (Text.trim query.toList))) postings ids' →
        ids' = ids := by
  have hranked := rankWords_ranked hnodup (tokenizer (String.ofList (Text.trim query.toList)))
  exact ⟨_, perform_search hread (parse_words hstar), hranked, fun ids' => hranked.unique⟩

/-- Three tokens and the records that hold them. -/
def colours : Postings := [("blue", [⟨2⟩, ⟨1⟩]), ("green", [⟨3⟩]), ("red", [⟨1⟩, ⟨3⟩])]

/-- A store with their full-text index. -/
def coloured : Store := { texts := [⟨"colours", colours, false⟩] }

/-- A token that stands twice in a query counts twice. The first record is in three places and the
others in two, of which the third occurs first. -/
theorem search_words_ranked_repeated_token :
    (search .atSpaces ⟨0⟩ " red green blue blue ").perform coloured
      = (.ok [⟨1⟩, ⟨3⟩, ⟨2⟩], coloured) := by
  have hread : (coloured.map (⟨0⟩ : MapRef String)).read = .ok colours := rfl
  obtain ⟨ids, hsearch, -, hunique⟩ := search_words_ranked .atSpaces hread (by decide)
    (by decide : '*' ∉ " red green blue blue ".toList)
  have htokens : Text.Tokenizer.atSpaces
      (String.ofList (Text.trim " red green blue blue ".toList))
        = ["red", "green", "blue", "blue"] := by decide
  have hranked : Ranked ["red", "green", "blue", "blue"] colours [⟨1⟩, ⟨3⟩, ⟨2⟩] := by
    refine ⟨by decide, fun id => ?_, by decide⟩
    have hoccurrences : occurrences ["red", "green", "blue", "blue"] colours
        = [⟨1⟩, ⟨3⟩, ⟨3⟩, ⟨2⟩, ⟨1⟩, ⟨2⟩, ⟨1⟩] := by decide
    rw [← List.mem_flatMap]
    show id ∈ _ ↔ id ∈ occurrences _ _
    rw [hoccurrences]
    grind
  rw [htokens] at hunique
  rw [hsearch, hunique _ hranked]

end FullText

end DocumentDb
