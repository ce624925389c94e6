import DocumentDb.Proofs.Index.Relation

/-!
# `DocumentDb.Proofs.Index.Rollback`: taking a write back

A write that has to be undone is undone by erasing the same values. If the id was at none of the
places before, this gives back the content as it was, entry by entry: the keys in the form in which
they were stored, the levels below them, and the ids in their order.

A write and an erasure both change what stands under the first keys, or under the tokens, one after
the other. Under one of them the erasure undoes the write, for a key path by `Node.erase_insert`.
The keys that values fan out to are different keys (`FanOut.pairwise_distinct`), so
`SortedEntries.Sorted.alterAll_cancel` carries this over to all of them together.

`rollback_exact` is the result for the store, after any calls on a new index.
-/

set_option autoImplicit false

namespace DocumentDb

open SortedEntries (Sorted)

/-- The keys that an array fans out to are different keys. -/
theorem FanOut.pairwise_distinct (ks : List Key) :
    (distinct ks).Pairwise fun a b => compare a b ≠ .eq := by
  have hfold : ∀ found : List Key, (found.Pairwise fun a b => compare a b ≠ .eq) →
      (ks.foldl (fun found k => if found.any (·.same k) then found else found ++ [k])
        found).Pairwise fun a b => compare a b ≠ .eq := by
    induction ks with
    | nil => exact fun _ h => h
    | cons k ks ih =>
      intro found h
      rw [List.foldl_cons]
      apply ih
      split
      · exact h
      · rename_i hnew
        refine List.pairwise_append.mpr ⟨h, List.pairwise_singleton _ _, fun a ha b hb heq => ?_⟩
        rw [List.mem_singleton.mp hb] at heq
        exact hnew (List.any_eq_true.mpr ⟨a, ha, Key.same_iff.mpr heq⟩)
  exact hfold [] List.Pairwise.nil

/-- The keys of the first field are different keys. -/
theorem FanOut.pairwise_firstKeys {field : String} {v : Value} {keys : List Key}
    (h : firstKeys field v = .ok keys) : keys.Pairwise fun a b => compare a b ≠ .eq := by
  obtain ⟨all, -, rfl⟩ := firstKeys_eq_ok.mp h
  exact pairwise_distinct all

/-- Under a token, removing an id that has just been added gives back what was there. -/
theorem FullText.prune_grow {id : RecordId} {old : Option (List RecordId)}
    (hkept : ∀ ids, old = some ids → ids ≠ []) (hnew : id ∉ old.getD []) :
    prune id (some (addId id (old.getD []))) = old := by
  rw [prune, Option.map_some, dropId_addId hnew]
  cases old with
  | none => rfl
  | some ids => simpa using hkept ids rfl

namespace Content

variable {tokenizer : Text.Tokenizer} {d : IndexDescriptor} {vs : FieldValues} {c c' : Content}
  {id : RecordId}

/-- Adding an id below several keys that do not have it yet is undone by removing it there. -/
theorem WellFormed.prune_grow_keys {level : Level} {keys path : List Key}
    (h : (ordered level).WellFormed d) (hpaths : OrderedIndex.paths d vs = .ok (keys, path))
    (hfree : d.isUnique = true → Free id (keys.map fun k => .path (k :: path)) (ordered level))
    (hnew : ∀ k ∈ keys, id ∉ (ordered level).idsAt (.path (k :: path))) :
    SortedEntries.alterAll (Node.prune id path) keys
      (SortedEntries.alterAll (Node.grow id path) keys level) = level := by
  have hlen := OrderedIndex.length_of_paths hpaths
  have hdistinct := FanOut.pairwise_firstKeys (paths_eq_ok.mp hpaths).1
  refine h.2.1.alterAll_cancel hdistinct fun k hk => ?_
  have hplace := List.mem_map_of_mem (f := fun k => Place.path (k :: path)) hk
  obtain ⟨child, hins, -⟩ := h.insert_below hlen k id fun hu p hp =>
    hfree hu p (List.mem_singleton.mp hp ▸ hplace)
  have hshaped := h.2
  rw [← hlen] at hshaped
  exact ⟨child, Node.grow_eq_some hins, hshaped.prune_insert (hnew k hk) hins⟩

/-- Adding an id under several tokens that do not have it yet is undone by removing it there. -/
theorem WellFormed.dropTokens_addTokens {postings : FullText.Postings} {ts : List String}
    (h : (fullText postings).WellFormed d) (hts : ts.Nodup)
    (hnew : ∀ t ∈ ts, id ∉ (fullText postings).idsAt (.token t)) :
    FullText.dropTokens id ts (FullText.addTokens id ts postings) = postings := by
  have hsorted : Sorted postings := h.2.1
  have hdistinct : ts.Pairwise fun a b => compare a b ≠ .eq :=
    hts.imp fun hne heq => hne (Std.LawfulEqOrd.eq_of_compare heq)
  rw [FullText.addTokens_eq hsorted, FullText.dropTokens_eq (hsorted.alterAll _ ts)]
  refine hsorted.alterAll_cancel hdistinct fun t ht => ?_
  refine ⟨_, rfl, FullText.prune_grow ?_ (hnew t ht)⟩
  intro ids hids
  exact (h.2.2 _ (hsorted.get?_eq_some_iff_mem.mp hids)).1

/-- Erasing what has just been written under new places gives back the content as it was. -/
theorem WellFormed.erase_write (h : c.WellFormed d)
    (hnew : ∀ p ∈ vs.fanOut tokenizer d, vs.id ∉ c.idsAt p)
    (hwrite : (write tokenizer d vs).perform c = (.ok (), c')) :
    (erase tokenizer d vs).perform c' = (.ok (), c) := by
  -- a write that succeeds was allowed, and its values have places
  obtain ⟨ps, hps, hfree, hwf'⟩ : ∃ ps, placesOf tokenizer d vs = .ok ps ∧
      (d.isUnique = true → Free vs.id ps c) ∧ c'.WellFormed d := by
    rcases h.write_spec tokenizer vs with ⟨-, e, he⟩ |
      ⟨ps, c₁, ⟨ps', hps', hfree⟩, hps, hok, hwf, -⟩
    · rw [he] at hwrite
      cases hwrite
    · rw [hok] at hwrite
      cases hwrite
      cases hps.symm.trans hps'
      exact ⟨ps, hps, hfree, hwf⟩
  have hnotin : ∀ p ∈ ps, vs.id ∉ c.idsAt p := fun p hp =>
    hnew p ((FieldValues.mem_fanOut_iff hps p).mpr (Place.among_of_mem hp))
  cases c with
  | ordered level =>
    rw [placesOf, if_neg (by simp [h.1])] at hps
    obtain ⟨⟨keys, path⟩, hpaths, rfl⟩ := Result.map_eq_ok_iff.mp hps
    obtain ⟨hadd, -, -⟩ := h.writeKeys hpaths hfree
    rw [write, perform_change_ordered, hpaths] at hwrite
    simp only [hadd] at hwrite
    cases hwrite
    obtain ⟨hdrop, -, -⟩ := hwf'.eraseKeys hpaths vs.id
    have hback := h.prune_grow_keys hpaths hfree fun k hk =>
      hnotin _ (List.mem_map_of_mem (f := fun k => Place.path (k :: path)) hk)
    rw [erase, perform_change_ordered, hpaths]
    simp only [hdrop, hback]
  | fullText postings =>
    rw [placesOf, if_pos h.1] at hps
    obtain ⟨ts, hts, rfl⟩ := Result.map_eq_ok_iff.mp hps
    rw [write, perform_change_fullText, hts] at hwrite
    cases hwrite
    have hback := h.dropTokens_addTokens (FullText.nodup_tokens hts) fun t ht =>
      hnotin (.token t) (List.mem_map_of_mem ht)
    rw [erase, perform_change_fullText, hts]
    simp only [hback]

end Content

/-- Values are written to an index that any calls have led to, under places where their id is not.
If the write succeeds, erasing the same values succeeds as well, and the store is what it was before
the write. -/
theorem rollback_exact {d : IndexDescriptor} {mapName : String} {tokenizer : Text.Tokenizer}
    {s s₁ s₂ : Store} {x : IndexHandle} (hfree : s.hasMap mapName = false)
    (hopen : (IndexHandle.openMap d mapName tokenizer).perform s = (.ok x, s₁))
    (history : List IndexCall) (vs : FieldValues)
    (hnew : ∀ p ∈ vs.fanOut tokenizer d,
      (p, vs.id) ∉ IndexCall.relationAfter tokenizer d history)
    (hwrite : (x.write vs).perform (IndexCall.after x s₁ history) = (.ok (), s₂)) :
    (x.erase vs).perform s₂ = (.ok (), IndexCall.after x s₁ history) := by
  obtain ⟨x', s', hopen', rfl, hempty⟩ := exists_represents d tokenizer hfree
  cases hopen'.symm.trans hopen
  have hrep : x.Represents tokenizer (IndexCall.after x s₁ history)
      (IndexCall.relationAfter tokenizer x.descriptor history) := represents_after hempty history
  obtain ⟨c, hholds, hwf, hrelation⟩ := hrep
  rw [← hrelation] at hnew
  rw [hholds.perform_write vs] at hwrite
  obtain ⟨hok, rfl⟩ := Prod.mk.inj hwrite
  have hback := hwf.erase_write hnew (Prod.ext hok rfl)
  have hkind : ((Content.write tokenizer x.descriptor vs).perform c).2.isFullText
      = c.isFullText := Content.isFullText_change c _ _
  rw [(hholds.withContent hkind).perform_erase vs, hback, hholds.withContent_withContent]

/-- An index on two fields that takes several records at a place. -/
def sharingIndex : IndexDescriptor := { pairIndex with kind := .nonUnique }

/-- Values of a record that share the number `1`, here a float, with `arrayValues`, and that have a
number of their own. -/
def sharingValues : FieldValues :=
  ⟨⟨2⟩, sharingIndex.fields,
    [("a", .array [.float ⟨0x3FF0000000000000⟩, .int 3]), ("b", .string "x")]⟩

/-- The second record joins the first one under the number `1` and gets a key `3` for itself. Taking
it out again gives the store with the first record alone. -/
theorem rollback_exact_sharing_values :
    ∃ x s₁ s₂ s₃, (IndexHandle.openMap sharingIndex "m" fun _ => []).perform {} = (.ok x, s₁) ∧
      (x.write arrayValues).perform s₁ = (.ok (), s₂) ∧
      (x.write sharingValues).perform s₂ = (.ok (), s₃) ∧
      (x.erase sharingValues).perform s₃ = (.ok (), s₂) := by
  have hfree := Store.hasMap_new "m"
  obtain ⟨x, s₁, hopen, hd, hempty⟩ := exists_represents sharingIndex (fun _ => []) hfree
  -- an index that is not unique takes whatever can be indexed
  have htakes : ∀ (vs : FieldValues) (R : Set (Place × RecordId)),
      vs.indexable sharingIndex = true →
        (IndexCall.write vs).Accepted (fun _ => []) x.descriptor R := by
    intro vs R hvs
    rw [hd]
    exact ⟨hvs, nofun⟩
  have hfirst := htakes arrayValues ∅ (by decide)
  obtain ⟨s₂, hs₂, hrep⟩ := hempty.taken hfirst
  obtain ⟨s₃, hs₃, -⟩ := hrep.taken (htakes sharingValues _ (by decide))
  have hrelation : IndexCall.relationAfter (fun _ => []) sharingIndex [.write arrayValues]
      = ∅ ∪ arrayValues.fanOut (fun _ => []) sharingIndex ×ˢ {⟨1⟩} := if_pos (hd ▸ hfirst)
  have hafter : IndexCall.after x s₁ [.write arrayValues] = s₂ := congrArg Prod.snd hs₂
  have hnew : ∀ p ∈ sharingValues.fanOut (fun _ => []) sharingIndex,
      (p, sharingValues.id) ∉
        IndexCall.relationAfter (fun _ => []) sharingIndex [.write arrayValues] := by
    intro p _ hp
    rw [hrelation, Set.empty_union] at hp
    have hid : sharingValues.id = ⟨1⟩ := hp.2
    exact absurd hid (by decide)
  have hback := rollback_exact hfree hopen [.write arrayValues] sharingValues hnew (hafter ▸ hs₃)
  exact ⟨x, s₁, s₂, s₃, hopen, hs₂, hs₃, hafter ▸ hback⟩

end DocumentDb
