import DocumentDb.Proofs.FailedWrites

/-!
# `DocumentDb.Proofs.PostingOrder`: the order of ids after a refused update

An update that an index refuses has taken the old version out of every index by then, and
writes it again in the end. While all indexes are clean and at rest this brings every entry
back, so that no posting list has more or fewer ids than before. But an id that is written
goes behind the ids that stand there.

* `IndexState.Relists` compares two states of an index by what has become of each posting
  list, and `forget_relists`, `retracted_relists` and `bringUp_relists` say what the three
  loops of an update do to them.
* `Consistent.update_relists`: all loops together move the id to the end of the lists that
  have it (`movedLast`).
* `refused_update_moves_last` says so of an update as a whole, and that the update goes
  unnoticed exactly if the id stood at the end of all these lists already.
-/

set_option autoImplicit false

namespace DocumentDb

variable {id : RecordId} {ids : List RecordId}

/-! ### One posting list -/

/-- A posting list after one of its ids has been taken out and put back. -/
def movedLast (id : RecordId) (ids : List RecordId) : List RecordId :=
  if id ∈ ids then dropId id ids ++ [id] else ids

/-- A list without the id is not changed. -/
theorem movedLast_of_not_mem (h : id ∉ ids) : movedLast id ids = ids := if_neg h

/-- The list stays as it is if the id is the last one already. -/
theorem movedLast_eq_self_iff (hnodup : ids.Nodup) :
    movedLast id ids = ids ↔ (id ∈ ids → ids.getLast? = some id) := by
  by_cases hmem : id ∈ ids
  swap
  · simp [movedLast_of_not_mem hmem, hmem]
  rw [movedLast, if_pos hmem]
  constructor
  · intro heq _
    rw [← heq, List.getLast?_append, List.getLast?_singleton, Option.some_or]
  · intro hlast
    obtain ⟨front, rfl⟩ := List.getLast?_eq_some_iff.mp (hlast hmem)
    have hfront : id ∉ front := fun hin =>
      (List.nodup_append.mp hnodup).2.2 id hin id (List.mem_singleton.mpr rfl) rfl
    have hfilter : dropId id (front ++ [id]) = dropId id front := by simp [dropId]
    rw [hfilter, dropId_of_not_mem hfront]

/-! ### One index -/

namespace IndexState

/-- The second index has the posting lists of the first, each with what the function makes of
it. -/
structure Relists (i i' : IndexState) (list : Place → List RecordId → List RecordId) : Prop where
  wellFormed : i'.WellFormed
  descriptor_eq : i'.descriptor = i.descriptor
  dirty_eq : i'.dirty = i.dirty
  idsAt_eq : ∀ p, i'.content.idsAt p = list p (i.content.idsAt p)

variable {config : Config} {doc : Document} {i i' : IndexState}

/-- An index has its own posting lists. -/
theorem Relists.refl (h : i.WellFormed) : i.Relists i fun _ ids => ids :=
  ⟨h, rfl, rfl, fun _ => rfl⟩

/-- What is made of the posting lists may be told in another way. -/
theorem Relists.congr {list list' : Place → List RecordId → List RecordId}
    (h : i.Relists i' list)
    (hlist : ∀ p, list p (i.content.idsAt p) = list' p (i.content.idsAt p)) :
    i.Relists i' list' :=
  ⟨h.wellFormed, h.descriptor_eq, h.dirty_eq, fun p => (h.idsAt_eq p).trans (hlist p)⟩

/-- Removing a document from an index that has its id at most where the document belongs. -/
theorem WellFormed.remove_relists (h : i.WellFormed) (hplain : config.customExtractor = none)
    (hid : doc.id = .ok (some id))
    (hwhere : ∀ p, id ∈ i.content.idsAt p → doc.BelongsAt config.tokenizer i.descriptor p) :
    i.Relists ((remove config doc).perform i).2 fun _ => dropId id := by
  have hd := remove_descriptor config doc i
  have hdirty := remove_dirty config doc i
  rcases h.remove_cases hplain hid with ⟨e, hnone, hrun⟩ | ⟨ps, i', hps, hrun, hwf, hdrops⟩
  · rw [hrun]
    refine (Relists.refl h).congr fun p => (dropId_of_not_mem fun hmem => ?_).symm
    obtain ⟨ps, hps, -⟩ := hwhere p hmem
    rw [hnone] at hps
    cases hps
  · rw [hrun] at hd hdirty ⊢
    refine ⟨hwf, hd, hdirty, fun p => ?_⟩
    rw [hdrops p]
    split
    · rfl
    · rename_i hp
      exact (dropId_of_not_mem fun hmem => hp ((belongsAt_iff hps p).mp (hwhere p hmem))).symm

/-- Adding a document to an index that does not have its id. -/
theorem WellFormed.add_relists (h : i.WellFormed) (hplain : config.customExtractor = none)
    (hid : doc.id = .ok (some id)) (hfree : ∀ p, id ∉ i.content.idsAt p) :
    (∃ e, (add config doc).perform i = (.error e, i)) ∨
      ∃ ps i', doc.placesIn config.tokenizer i.descriptor = .ok ps ∧
        (add config doc).perform i = (.ok (), i') ∧
        i.Relists i' fun p ids => if p.among ps then ids ++ [id] else ids := by
  have hd := add_descriptor config doc i
  have hdirty := add_dirty config doc i
  rcases h.add_cases hplain hid with ⟨-, hrefused⟩ | ⟨ps, i', -, hps, hrun, hwf, hadds⟩
  · exact Or.inl hrefused
  · rw [hrun] at hd hdirty
    refine Or.inr ⟨ps, i', hps, hrun, hwf, hd, hdirty, fun p => ?_⟩
    rw [hadds p, addId_of_not_mem (hfree p)]

/-- The id is taken out, the index is left as it is, and the id is put where it was. -/
theorem Relists.movedLast {i₁ i₂ i₃ : IndexState} {ps : List Place}
    (hself : ∀ p, id ∈ i.content.idsAt p ↔ doc.BelongsAt config.tokenizer i.descriptor p)
    (h₁ : i.Relists i₁ fun _ => dropId id) (h₂ : i₁.Relists i₂ fun _ ids => ids)
    (hps : doc.placesIn config.tokenizer i₂.descriptor = .ok ps)
    (h₃ : i₂.Relists i₃ fun p ids => if p.among ps then ids ++ [id] else ids) :
    i.Relists i₃ fun _ => movedLast id := by
  have hd : i₂.descriptor = i.descriptor := h₂.descriptor_eq.trans h₁.descriptor_eq
  refine ⟨h₃.wellFormed, h₃.descriptor_eq.trans hd,
    h₃.dirty_eq.trans (h₂.dirty_eq.trans h₁.dirty_eq), fun p => ?_⟩
  have hwhere : id ∈ i.content.idsAt p ↔ p.among ps = true := by
    rw [hself, ← hd, belongsAt_iff hps]
  rw [h₃.idsAt_eq, h₂.idsAt_eq, h₁.idsAt_eq]
  by_cases hp : p.among ps = true
  · rw [if_pos hp, DocumentDb.movedLast, if_pos (hwhere.mpr hp)]
  · have hnot : id ∉ i.content.idsAt p := mt hwhere.mp hp
    rw [if_neg hp, movedLast_of_not_mem hnot, dropId_of_not_mem hnot]

/-- Moving an id to the end changes no list exactly if it stands there already. -/
theorem Relists.unchanged_iff (h : i.Relists i' fun _ => DocumentDb.movedLast id)
    (hi : i.WellFormed) :
    (i.Relists i' fun _ ids => ids) ↔
      ∀ p, id ∈ i.content.idsAt p → (i.content.idsAt p).getLast? = some id := by
  have hlist : ∀ p, DocumentDb.movedLast id (i.content.idsAt p) = i.content.idsAt p ↔
      (id ∈ i.content.idsAt p → (i.content.idsAt p).getLast? = some id) := fun p =>
    movedLast_eq_self_iff (Content.WellFormed.idsAt_nodup hi p).1
  constructor
  · intro hsame p
    exact (hlist p).mp ((h.idsAt_eq p).symm.trans (hsame.idsAt_eq p))
  · exact fun hlast => h.congr fun p => (hlist p).mpr (hlast p)

end IndexState

/-! ### The three loops -/

namespace View

open IndexState (Relists)

variable {v o : View} {doc old new : Document} {i : IndexState} {is is' : List IndexState}

section steps

variable (hplain : v.config.customExtractor = none) (hid : doc.id = .ok (some id))
  (hi : i.WellFormed) (hrest : v.atRest i = false)

include hplain hid hi hrest

/-- Forgetting a document takes its id out of the posting lists, and keeps the order of the
others. -/
theorem forget_relists
    (hwhere : ∀ p, id ∈ i.content.idsAt p → doc.BelongsAt v.config.tokenizer i.descriptor p) :
    i.Relists ((v.forget doc).perform i).2 fun _ => dropId id := by
  rw [perform_forget_remove hrest]
  exact hi.remove_relists hplain hid hwhere

/-- An index that refuses stays as it is, and one that does not has the id at the end of the
lists where the document belongs. -/
theorem bringUp_relists (hfree : ∀ p, id ∉ i.content.idsAt p) :
    (∃ e, (v.bringUp doc).perform i = (.error e, i)) ∨
      ∃ ps i', doc.placesIn v.config.tokenizer i.descriptor = .ok ps ∧
        (v.bringUp doc).perform i = (.ok true, i') ∧
        i.Relists i' fun p ids => if p.among ps then ids ++ [id] else ids := by
  rw [perform_bringUp_add hrest]
  rcases hi.add_relists hplain hid hfree with ⟨e, hrun⟩ | ⟨ps, i', hps, hrun, hlists⟩
  · rw [hrun]
    exact Or.inl ⟨e, rfl⟩
  · rw [hrun]
    exact Or.inr ⟨ps, i', hps, rfl, hlists⟩

/-- Going back over an index restores its lists: the id stood nowhere, so it is taken out only
where it has just been put. -/
theorem retracted_relists (hfree : ∀ p, id ∉ i.content.idsAt p) :
    i.Relists (v.retracted doc i) fun _ ids => ids := by
  rw [retracted]
  rcases bringUp_relists hplain hid hi hrest hfree with ⟨e, hrun⟩ | ⟨ps, i', hps, hrun, hlists⟩
  · rw [hrun]
    exact .refl hi
  rw [hrun]
  -- the id is where it was added, as it was nowhere before
  have hwhere : ∀ p, id ∈ i'.content.idsAt p →
      doc.BelongsAt v.config.tokenizer i'.descriptor p := by
    intro p hmem
    rw [hlists.descriptor_eq, IndexState.belongsAt_iff hps]
    by_contra hp
    rw [hlists.idsAt_eq, if_neg hp] at hmem
    exact hfree p hmem
  have hback := hlists.wellFormed.remove_relists hplain hid hwhere
  refine ⟨hback.wellFormed, hback.descriptor_eq.trans hlists.descriptor_eq,
    hback.dirty_eq.trans hlists.dirty_eq, fun p => ?_⟩
  have hdrop : dropId id (i.content.idsAt p) = i.content.idsAt p := dropId_of_not_mem (hfree p)
  calc (i'.undone v.config doc).content.idsAt p
      = dropId id (if p.among ps then i.content.idsAt p ++ [id] else i.content.idsAt p) := by
        rw [← hlists.idsAt_eq p]
        exact hback.idsAt_eq p
    _ = dropId id (i.content.idsAt p) := by
        split
        · simp [dropId]
        · rfl
    _ = i.content.idsAt p := hdrop

end steps

/-- Indexes that are good for all records but one do not have the id of that one. -/
theorem Keeps.not_mem (h : o.Keeps i) (htrusts : o.trusts i = true)
    (hapart : ∀ e ∈ o.records, e.1 ≠ id) (p : Place) : id ∉ i.content.idsAt p := by
  intro hmem
  obtain ⟨e, he, hkey, -⟩ := ((h.exact htrusts).mem_iff p id).mp hmem
  exact hapart e he hkey

/-- Steps of a whole list of indexes, one after the other. -/
theorem forall₂_comp {R S : IndexState → IndexState → Prop} {is'' : List IndexState}
    (h : List.Forall₂ R is is') (h' : List.Forall₂ S is' is'') :
    List.Forall₂ (fun i i'' => ∃ i', R i i' ∧ S i' i'') is is'' := by
  induction h generalizing is'' with
  | nil =>
    cases h'
    exact .nil
  | cons hstep _ ih =>
    cases h' with
    | cons hstep' hrest' => exact .cons ⟨_, hstep, hstep'⟩ (ih hrest')

/-- An update that is refused moves the id to the end of every posting list that has it. -/
theorem Consistent.update_relists (h : v.Consistent) (hplain : v.config.customExtractor = none)
    (hold : v.record id = some old) (hnew : new.id = .ok (some id))
    (htrusts : ∀ i ∈ v.indexes, v.trusts i = true) {e : Error}
    (herror : (v.update id old new).1 = .error e) :
    ∃ is, v.update id old new = (.error e, v.withIndexes is) ∧
      List.Forall₂ (fun i i' => i.Relists i' fun _ => movedLast id) v.indexes is := by
  obtain ⟨is₁, is₂, is₃, hforget, hwrite, hrestore, hupdate, hkeeps₁, hkeeps₂⟩ :=
    h.update_refused_of_trusts hplain hold hnew htrusts herror
  have hext := h.extends_self hold
  have hapart := apart_eraseRecord h.sorted id
  -- The first loop takes the id out everywhere.
  have hfirst : List.Forall₂ (fun i i₁ =>
      (∀ p, id ∈ i.content.idsAt p ↔ old.BelongsAt v.config.tokenizer i.descriptor p) ∧
        i.Relists i₁ fun _ => dropId id) v.indexes is₁ := by
    refine forall₂_forgetEach (fun i hi i₁ hone => ?_) hforget
    have hself := hext.self_mem_iff hapart ((h.keeps i hi).exact (htrusts i hi))
    have hlists := forget_relists (v := v.setRecord id new) hplain hext.own
      (h.keeps i hi).wellFormed
      (atRest_of_trusts (htrusts i hi)) fun p => (hself p).mp
    rw [hone] at hlists
    exact ⟨hself, hlists⟩
  -- The second loop leaves no trace.
  have hsecond : List.Forall₂ (fun i₁ i₂ => i₁.Relists i₂ fun _ ids => ids) is₁ is₂ := by
    have hretracted : ∀ i ∈ is₁,
        i.Relists ((v.setRecord id new).retracted new i) fun _ ids => ids := by
      intro i hi
      obtain ⟨hkeeps, htrusts⟩ := hkeeps₁ i hi
      exact retracted_relists hplain hnew hkeeps.wellFormed (atRest_of_trusts htrusts)
        (hkeeps.not_mem htrusts hapart)
    refine forall₂_writeEach_refused hretracted (fun i hi e i' hone => ?_)
      (fun i hi => .refl (hkeeps₁ i hi).1.wellFormed) hwrite
    have hlists := hretracted i hi
    rwa [retracted, hone] at hlists
  -- The third loop puts the id at the end of the lists where it was.
  have hthird : List.Forall₂ (fun i₂ i₃ => ∃ ps,
      old.placesIn v.config.tokenizer i₂.descriptor = .ok ps ∧
        i₂.Relists i₃ fun p ids => if p.among ps then ids ++ [id] else ids) is₂ is₃ := by
    refine forall₂_writeEach (fun i hi has i' hone => ?_) hrestore
    obtain ⟨hkeeps, htrusts⟩ := hkeeps₂ i hi
    rcases bringUp_relists hplain hext.own hkeeps.wellFormed (atRest_of_trusts htrusts)
      (hkeeps.not_mem htrusts hapart) with ⟨e, hrun⟩ | ⟨ps, i'', hps, hrun, hlists⟩
    · rw [hone] at hrun
      cases hrun
    · rw [hone] at hrun
      obtain ⟨-, rfl⟩ := Prod.mk.inj hrun
      exact ⟨ps, hps, hlists⟩
  refine ⟨is₃, hupdate, (forall₂_comp (forall₂_comp hfirst hsecond) hthird).imp ?_⟩
  rintro i i₃ ⟨i₂, ⟨i₁, ⟨hself, h₁⟩, h₂⟩, ps, hps, h₃⟩
  exact h₁.movedLast hself h₂ hps h₃

/-- No list of any index has changed exactly if the id stood at the end of all of them. -/
theorem forall₂_unchanged_iff
    (h : List.Forall₂ (fun i i' => i.Relists i' fun _ => movedLast id) is is')
    (hwf : ∀ i ∈ is, i.WellFormed) :
    List.Forall₂ (fun i i' => i.Relists i' fun _ ids => ids) is is' ↔
      ∀ i ∈ is, ∀ p, id ∈ i.content.idsAt p → (i.content.idsAt p).getLast? = some id := by
  induction h with
  | nil => simp
  | cons hmoved _ ih =>
    obtain ⟨hi, hrest⟩ := List.forall_mem_cons.mp hwf
    rw [List.forall₂_cons, List.forall_mem_cons]
    exact and_congr (hmoved.unchanged_iff hi) (ih hrest)

end View

/-! ### Updates -/

/-- What an update that fails leaves behind while all indexes are clean and at rest. Records,
flags and descriptors are as before, and so are the ids at every place of every index, but in
each posting list that has the id of the record this id is the last one now. So nothing has
changed exactly if it was the last one everywhere. -/
theorem refused_update_moves_last {σ : Type} {s s' : Session σ} (h : s.Sound) (hp : s.view.Plain)
    (hc : s.view.Consistent) (hsettled : ¬ s.view.Unsettled) (id : RecordId) (d : Document)
    {e : Error} (hrun : (Collection.update Listener.silent id d).perform s = (.error e, s')) :
    s'.view.setting = s.view.setting ∧ s'.view.records = s.view.records ∧
      List.Forall₂ (fun i i' => i.Relists i' fun _ => movedLast id)
        s.view.indexes s'.view.indexes ∧
      (List.Forall₂ (fun i i' => i.Relists i' fun _ ids => ids) s.view.indexes s'.view.indexes ↔
        ∀ i ∈ s.view.indexes, ∀ p, id ∈ i.content.idsAt p →
          (i.content.idsAt p).getLast? = some id) := by
  have htrusts := View.trusts_of_not_unsettled hsettled
  have hwf : ∀ i ∈ s.view.indexes, i.WellFormed := fun i hi => (hc.keeps i hi).wellFormed
  cases hrecord : s.view.record id with
  | none =>
    obtain ⟨s₁, hs₁, hreach⟩ := Session.does_update_missing h hrecord d
    obtain ⟨-, rfl⟩ := Prod.mk.inj (hs₁.symm.trans hrun)
    rw [hreach.view]
    -- No index has the id of a record that is not there.
    have hmoved : List.Forall₂ (fun i i' => i.Relists i' fun _ => movedLast id)
        s.view.indexes s.view.indexes := by
      refine List.forall₂_same.mpr fun i hi => (IndexState.Relists.refl (hwf i hi)).congr ?_
      intro p
      refine (movedLast_of_not_mem ((hc.keeps i hi).not_mem (htrusts i hi) ?_ p)).symm
      have herased := View.apart_eraseRecord hc.sorted id
      rwa [View.eraseRecord_eq_self hc.sorted hrecord] at herased
    exact ⟨rfl, rfl, hmoved, View.forall₂_unchanged_iff hmoved hwf⟩
  | some old =>
    obtain ⟨s₁, hs₁, hreach⟩ := Session.does_update h hp.processors hrecord d
    obtain ⟨herror, rfl⟩ := Prod.mk.inj (hs₁.symm.trans hrun)
    obtain ⟨is, hupdate, hmoved⟩ := hc.update_relists hp.extractor hrecord (d.id_setId id)
      htrusts herror
    rw [hreach.view, hupdate]
    exact ⟨rfl, rfl, hmoved, View.forall₂_unchanged_iff hmoved hwf⟩

/-- All of the bare records have null at `a`. The first one cannot be given a document there, and
stands behind the others when that has been tried. -/
theorem refused_update_moves_last_bare_record :
    ∃ (s s' : Session Unit) (e : Error) (i i' : IndexState) (p : Place) (d : Document),
      s.Sound ∧ s.view.Plain ∧ s.view.Consistent ∧ ¬ s.view.Unsettled ∧
        (Collection.update Listener.silent ⟨1⟩ d).perform s = (.error e, s') ∧
        s.view.indexes = [i] ∧ s'.view.indexes = [i'] ∧
        i.content.idsAt p = [⟨1⟩, ⟨2⟩, ⟨3⟩] ∧ i'.content.idsAt p = [⟨2⟩, ⟨3⟩, ⟨1⟩] ∧
        ¬ List.Forall₂ (fun i i' => i.Relists i' fun _ ids => ids)
          s.view.indexes s'.view.indexes := by
  let a : IndexDescriptor := ⟨.nonUnique, ⟨["a"]⟩, "c"⟩
  let old : Document := ⟨[("_id", .string "1")]⟩
  let d : Document := ⟨[("a", .document [])]⟩
  let p : Place := .path [⟨.null, rfl⟩]
  let v : View := .firstBuilt bareRecords a []
  obtain ⟨s, h, hp, hc, hview⟩ : ∃ s : Session Unit, s.Sound ∧ s.view.Plain ∧ s.view.Consistent ∧
      s.view = v :=
    Session.exists_first_built (by decide) bareRecords_own (by decide)
  have hold : s.view.record ⟨1⟩ = some old := by
    rw [hview]
    rfl
  have hsettled : ¬ s.view.Unsettled := by
    have hclean : ∀ i ∈ v.indexes, v.trusts i = true := by decide +kernel
    rintro ⟨i, hi, hnot⟩
    rw [hview] at hi hnot
    rw [hclean i hi] at hnot
    cases hnot
  obtain ⟨s', hs', -⟩ := Session.does_update h hp.processors hold d
  rw [hview] at hs'
  -- a document is no key, so the index refuses the new version
  obtain ⟨e, herror⟩ := Result.toOption_eq_none_iff.mp
    (show (v.update ⟨1⟩ old (d.setId ⟨1⟩)).1.toOption = none by decide +kernel)
  rw [herror] at hs'
  obtain ⟨-, -, hmoved, hsame⟩ := refused_update_moves_last h hp hc hsettled ⟨1⟩ d hs'
  obtain ⟨i, hi, hlist⟩ : ∃ i, s.view.indexes = [i] ∧
      i.content.idsAt p = [⟨1⟩, ⟨2⟩, ⟨3⟩] := by
    rw [hview]
    exact ⟨_, rfl, by decide +kernel⟩
  have hmoved' := hmoved
  rw [hi] at hmoved'
  obtain ⟨i', rest, hlists, hrest, hi'⟩ := List.forall₂_cons_left_iff.mp hmoved'
  obtain rfl := List.forall₂_nil_left_iff.mp hrest
  refine ⟨s, s', e, i, i', p, d, h, hp, hc, hsettled, hs', hi, hi', hlist, ?_, ?_⟩
  · rw [hlists.idsAt_eq p, hlist]
    decide
  · rw [hsame]
    intro hlast
    have hp := hlast i (by simp [hi]) p (by simp [hlist])
    rw [hlist] at hp
    exact absurd hp (by decide)

end DocumentDb
