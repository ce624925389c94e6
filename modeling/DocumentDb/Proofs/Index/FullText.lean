import DocumentDb.Proofs.Index.Content
import DocumentDb.Proofs.Result

/-!
# `DocumentDb.Proofs.Index.FullText`: tokens of records in full-text indexes

The tokens of a record are its places in a full-text index. `WellFormed.addTokens` and
`WellFormed.dropTokens` say that an id is added, or taken away, under these tokens, that
the content stays well formed, and that there is nothing that could be refused.

Under one token the changes are `FullText.grow` and `FullText.prune`, the counterparts of
`Node.grow` and `Node.prune`.
-/

set_option autoImplicit false

namespace DocumentDb

open SortedEntries (Sorted alter alterAll alterAll_cons)

namespace FullText

/-! ### Tokens of a value -/

/-- The tokens that have been found are those found before and those of the list. -/
theorem mem_foldl_addToken {ts found : List String} {t : String} :
    t ∈ ts.foldl Text.Tokenizer.addToken found ↔ t ∈ found ∨ t ∈ ts := by
  induction ts generalizing found with
  | nil => simp
  | cons u ts ih =>
    rw [List.foldl_cons, ih, Text.Tokenizer.addToken]
    by_cases hu : u ∈ found
    · have hsame : t = u → t ∈ found := fun heq => heq ▸ hu
      rw [if_pos (List.contains_iff_mem.mpr hu), List.mem_cons]
      tauto
    · rw [if_neg (mt List.contains_iff_mem.mp hu)]
      simp [or_assoc]

/-- No token is found twice. -/
theorem nodup_foldl_addToken {ts found : List String} (h : found.Nodup) :
    (ts.foldl Text.Tokenizer.addToken found).Nodup := by
  induction ts generalizing found with
  | nil => exact h
  | cons u ts ih =>
    rw [List.foldl_cons]
    apply ih
    rw [Text.Tokenizer.addToken]
    split
    · exact h
    · rename_i hu
      rw [List.contains_iff_mem] at hu
      exact List.concat_eq_append ▸ h.concat hu

/-- The tokens of an array element are those of its text. -/
theorem mem_elementTokens_iff {tokenizer : Text.Tokenizer} {field : String} {v : Value}
    {ts : List String} (h : elementTokens tokenizer field v = .ok ts) (t : String) :
    t ∈ ts ↔ ∃ text, v = .string text ∧ t ∈ tokenizer text := by
  cases v <;> cases h <;> simp

/-- The tokens of a value are those of its texts. -/
theorem mem_tokens_iff {tokenizer : Text.Tokenizer} {field : String} {v : Value}
    {ts : List String} (h : tokens tokenizer field v = .ok ts) (t : String) :
    t ∈ ts ↔ ∃ text, .string text ∈ v.elements ∧ t ∈ tokenizer text := by
  obtain ⟨all, hall, rfl⟩ := Result.map_eq_ok_iff.mp h
  rw [mem_foldl_addToken]
  simp only [List.not_mem_nil, false_or]
  cases v with
  | array items =>
    -- each element of an array has its own tokens
    obtain ⟨lists, hlists, rfl⟩ := Result.map_eq_ok_iff.mp hall
    have heach := Result.mapM_eq_ok_iff.mp hlists
    show t ∈ lists.flatten ↔ ∃ text, .string text ∈ items ∧ t ∈ tokenizer text
    clear h hall hlists
    induction heach with
    | nil => simp
    | cons hitem _ ih =>
      rw [List.flatten_cons, List.mem_append, ih, mem_elementTokens_iff hitem]
      simp only [List.mem_cons, or_and_right, exists_or, eq_comm]
  | null =>
    cases hall
    simp [Value.elements]
  | string text =>
    cases hall
    simp [Value.elements]
  | _ => cases hall

/-- Every token is given once. -/
theorem nodup_tokens {tokenizer : Text.Tokenizer} {field : String} {v : Value}
    {ts : List String} (h : tokens tokenizer field v = .ok ts) : ts.Nodup := by
  obtain ⟨all, -, rfl⟩ := Result.map_eq_ok_iff.mp h
  exact nodup_foldl_addToken List.nodup_nil

/-! ### Changes under tokens -/

/-- What adding an id does under a token, where there may be nothing yet. -/
def grow (id : RecordId) (old : Option (List RecordId)) : Option (List RecordId) :=
  some (addId id (old.getD []))

/-- What removing an id does under a token. A token without ids does not stay. -/
def prune (id : RecordId) (old : Option (List RecordId)) : Option (List RecordId) :=
  (old.map (dropId id)).filter (!·.isEmpty)

/-- What is left of a posting list is the list without the id. -/
theorem getD_prune (id : RecordId) (old : Option (List RecordId)) :
    (prune id old).getD [] = dropId id (old.getD []) := by
  cases old with
  | none => rfl
  | some ids =>
    rw [prune, Option.map_some, Option.filter_some, Option.getD_some]
    cases hleft : dropId id ids <;> simp

/-- An empty posting list is not kept. -/
theorem ne_nil_of_prune {id : RecordId} {old : Option (List RecordId)} {ids : List RecordId}
    (h : prune id old = some ids) : ids ≠ [] := by
  have hkept := (Option.filter_eq_some_iff.mp h).2
  simpa using hkept

variable {postings : Postings}

/-- Adding an id under tokens that may hold it already is a change under each of them. -/
theorem addTokens_eq (h : Sorted postings) (id : RecordId) (ts : List String) :
    addTokens id ts postings = alterAll (grow id) ts postings := by
  induction ts generalizing postings with
  | nil => rfl
  | cons t rest ih =>
    rw [alterAll_cons, ← ih (h.alter _ t), addTokens,
      SortedEntries.alter_eq_insert (v := addId id ((SortedEntries.get? t postings).getD [])) rfl]
    split
    · rename_i hid
      rw [List.contains_iff_mem] at hid
      cases ht : SortedEntries.get? t postings with
      | none => simp [ht] at hid
      | some ids =>
        rw [ht, Option.getD_some] at hid
        rw [Option.getD_some, addId_of_mem hid, h.insert_eq_self ht]
    · rename_i hid
      rw [List.contains_iff_mem] at hid
      rw [addId_of_not_mem hid]

/-- Removing an id under tokens is a change under each of them. -/
theorem dropTokens_eq (h : Sorted postings) (id : RecordId) (ts : List String) :
    dropTokens id ts postings = alterAll (prune id) ts postings := by
  induction ts generalizing postings with
  | nil => rfl
  | cons t rest ih =>
    rw [alterAll_cons, ← ih (h.alter _ t), dropTokens]
    cases ht : SortedEntries.get? t postings with
    | none =>
      have hprune : prune id (SortedEntries.get? t postings) = none := by
        rw [ht]
        rfl
      rw [SortedEntries.alter_eq_erase hprune, h.erase_eq_self ht]
    | some ids =>
      by_cases hempty : (dropId id ids).isEmpty = true
      · have hprune : prune id (SortedEntries.get? t postings) = none := by
          simpa [ht, prune] using hempty
        rw [SortedEntries.alter_eq_erase hprune]
        simp [hempty]
      · have hprune : prune id (SortedEntries.get? t postings) = some (dropId id ids) := by
          simpa [ht, prune] using hempty
        rw [SortedEntries.alter_eq_insert hprune]
        simp [hempty]

end FullText

namespace Content

variable {d : IndexDescriptor} {postings : FullText.Postings}

/-- A change under a token keeps the content well formed if what it leaves there is a posting list
that is neither empty nor repeats an id. -/
theorem WellFormed.alter_token (h : (fullText postings).WellFormed d)
    (f : Option (List RecordId) → Option (List RecordId)) (t : String)
    (hf : ∀ ids, f (SortedEntries.get? t postings) = some ids → ids ≠ [] ∧ ids.Nodup) :
    (fullText (alter f t postings)).WellFormed d := by
  refine ⟨h.1, h.2.1.alter f t, fun e he => ?_⟩
  rcases h.2.1.mem_alter.mp he with ⟨ids, hids, rfl⟩ | ⟨he, -⟩
  · exact hf ids hids
  · exact h.2.2 e he

/-- The posting list of a token. -/
theorem WellFormed.nodup_token (h : (fullText postings).WellFormed d) (t : String) :
    ((SortedEntries.get? t postings).getD []).Nodup :=
  (h.idsAt_nodup (.token t)).1

/-- The ids under a token after a change under one token. -/
theorem WellFormed.idsAt_alter_token (h : (fullText postings).WellFormed d)
    (f : Option (List RecordId) → Option (List RecordId)) (t u : String) :
    (fullText (alter f t postings)).idsAt (.token u)
      = if u = t then (f (SortedEntries.get? t postings)).getD []
        else (fullText postings).idsAt (.token u) := by
  rw [idsAt, h.2.1.get?_alter]
  by_cases hut : u = t
  · rw [if_pos hut, if_pos (Std.LawfulEqOrd.compare_eq_iff_eq.mpr hut)]
  · rw [if_neg hut, if_neg (mt Std.LawfulEqOrd.compare_eq_iff_eq.mp hut)]
    rfl

/-- Adding an id under one token. -/
theorem WellFormed.grow_token (h : (fullText postings).WellFormed d) (id : RecordId)
    (t : String) :
    (fullText (alter (FullText.grow id) t postings)).WellFormed d ∧
      Adds id [.token t] (fullText postings)
        (fullText (alter (FullText.grow id) t postings)) := by
  refine ⟨h.alter_token _ t fun ids hids => ?_, fun q => ?_⟩
  · cases hids
    exact ⟨addId_ne_nil id _, nodup_addId (h.nodup_token t)⟩
  · cases q with
    | path q => rfl
    | token u =>
      rw [h.idsAt_alter_token]
      by_cases hut : u = t
      · simp [hut, Place.among, idsAt, FullText.grow]
      · simp [hut, Place.among, Place.same]

/-- Removing an id under one token. -/
theorem WellFormed.prune_token (h : (fullText postings).WellFormed d) (id : RecordId)
    (t : String) :
    (fullText (alter (FullText.prune id) t postings)).WellFormed d ∧
      Drops id [.token t] (fullText postings)
        (fullText (alter (FullText.prune id) t postings)) := by
  have hleft := FullText.getD_prune id (SortedEntries.get? t postings)
  refine ⟨h.alter_token _ t fun ids hids => ?_, fun q => ?_⟩
  · rw [hids, Option.getD_some] at hleft
    exact ⟨FullText.ne_nil_of_prune hids, hleft ▸ nodup_dropId (h.nodup_token t)⟩
  · cases q with
    | path q => rfl
    | token u =>
      rw [h.idsAt_alter_token, hleft]
      by_cases hut : u = t
      · simp [hut, Place.among, idsAt]
      · simp [hut, Place.among, Place.same]

/-- Adding an id under tokens adds it there, and nowhere else. -/
theorem WellFormed.addTokens (h : (fullText postings).WellFormed d) (id : RecordId)
    (ts : List String) :
    (fullText (FullText.addTokens id ts postings)).WellFormed d ∧
      Adds id (ts.map Place.token) (fullText postings)
        (fullText (FullText.addTokens id ts postings)) := by
  rw [FullText.addTokens_eq h.2.1]
  induction ts generalizing postings with
  | nil => exact ⟨h, adds_nil⟩
  | cons t rest ih =>
    obtain ⟨hwf, hadds⟩ := h.grow_token id t
    obtain ⟨hwf', hadds'⟩ := ih hwf
    exact ⟨hwf', hadds.cons hadds'⟩

/-- Taking an id away under tokens takes it away there, and nowhere else. -/
theorem WellFormed.dropTokens (h : (fullText postings).WellFormed d) (id : RecordId)
    (ts : List String) :
    (fullText (FullText.dropTokens id ts postings)).WellFormed d ∧
      Drops id (ts.map Place.token) (fullText postings)
        (fullText (FullText.dropTokens id ts postings)) := by
  rw [FullText.dropTokens_eq h.2.1]
  induction ts generalizing postings with
  | nil => exact ⟨h, drops_nil⟩
  | cons t rest ih =>
    obtain ⟨hwf, hdrops⟩ := h.prune_token id t
    obtain ⟨hwf', hdrops'⟩ := ih hwf
    exact ⟨hwf', hdrops.cons hdrops'⟩

end Content

end DocumentDb
