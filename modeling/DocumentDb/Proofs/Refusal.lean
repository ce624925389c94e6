import DocumentDb.Proofs.Consistent

/-!
# `DocumentDb.Proofs.Refusal`: writes that an index refuses

A removal takes the entries of the document away from one index after the other. It stops at
the first index that `RefusesRemoval`, and never goes back over the ones before. An update
does the same first. If no index refuses that, the new version is written, up to the first
index that `RefusesWrite`; this loop goes back over the indexes it has passed, and then the
old version is written again everywhere, unless some index `RefusesRestore`.

All three conditions are about the index as it stands before the write. `Forgotten`,
`Halted` and `Undone` say what one index has come to after the first loop, after a first loop
that was stopped, and after all three. `Consistent.remove_cases` and `Consistent.update_cases`
put them together.
-/

set_option autoImplicit false

namespace DocumentDb

namespace View

open IndexState (Rewrites)

variable {v w : View} {id : RecordId} {doc old new : Document} {i i' : IndexState}
  {is : List IndexState}

/-! ### Where a write stops -/

/-- On a list without repetition, a function can be given for the two parts of the list apart. -/
theorem exists_map_append {α β : Type} {xs ys : List α} (h : (xs ++ ys).Nodup) (f g : α → β) :
    ∃ next : α → β, (xs ++ ys).map next = xs.map f ++ ys.map g ∧ (∀ x ∈ xs, next x = f x) ∧
      ∀ x ∉ xs, next x = g x := by
  classical
  obtain ⟨-, -, hdisjoint⟩ := List.nodup_append.mp h
  refine ⟨fun x => if x ∈ xs then f x else g x, ?_, fun x hx => if_pos hx, fun x hx => if_neg hx⟩
  rw [List.map_append]
  congr 1
  · exact List.map_congr_left fun x hx => if_pos hx
  · exact List.map_congr_left fun y hy => if_neg fun hmem => hdisjoint y hmem y hy rfl

/-- A loop over some indexes stops: the ones before do not refuse, and the next one does. -/
def StopsAt (refuses : IndexState → Prop) (is before after : List IndexState) : Prop :=
  ∃ k, is = before ++ k :: after ∧ (∀ j ∈ before, ¬ refuses j) ∧ refuses k

/-- A loop stops at one index only. -/
theorem StopsAt.unique {refuses : IndexState → Prop} {before before' after after' : List IndexState}
    (h : StopsAt refuses is before after) (h' : StopsAt refuses is before' after') :
    before' = before := by
  obtain ⟨k, rfl, hnot, hk⟩ := h
  obtain ⟨k', hsplit, hnot', hk'⟩ := h'
  induction before generalizing before' with
  | nil =>
    cases before' with
    | nil => rfl
    | cons j before' =>
      obtain ⟨rfl, -⟩ := List.cons.inj hsplit
      exact absurd hk (hnot' _ List.mem_cons_self)
  | cons j before ih =>
    cases before' with
    | nil =>
      obtain ⟨rfl, -⟩ := List.cons.inj hsplit
      exact absurd hk' (hnot _ List.mem_cons_self)
    | cons j' before' =>
      obtain ⟨rfl, hrest⟩ := List.cons.inj hsplit
      rw [ih (fun j hj => hnot j (List.mem_cons_of_mem _ hj)) hrest
        fun j hj => hnot' j (List.mem_cons_of_mem _ hj)]

/-- A loop that stops does so at one place, so what is true of some place is true of that one. -/
theorem StopsAt.exists_before_iff {refuses : IndexState → Prop} {before after : List IndexState}
    (h : StopsAt refuses is before after) {P : List IndexState → Prop} :
    (∃ before' after', StopsAt refuses is before' after' ∧ P before') ↔ P before := by
  constructor
  · rintro ⟨before', after', h', hP⟩
    rwa [h.unique h'] at hP
  · exact fun hP => ⟨before, after, h, hP⟩

/-- A loop stops at an index that refuses. -/
theorem StopsAt.exists_refuses {refuses : IndexState → Prop} {before after : List IndexState}
    (h : StopsAt refuses is before after) : ∃ i ∈ is, refuses i := by
  obtain ⟨k, rfl, -, hk⟩ := h
  exact ⟨k, by simp, hk⟩

/-- A loop does not stop if no index refuses. -/
theorem StopsAt.not_forall_not {refuses : IndexState → Prop} {before after : List IndexState}
    (h : StopsAt refuses is before after) : ¬ ∀ i ∈ is, ¬ refuses i := by
  obtain ⟨i, hi, hrefuses⟩ := h.exists_refuses
  exact fun hnone => hnone i hi hrefuses

/-- Whether an index refuses to forget a document. The view is the one during the write, which
has the new version of the record, or no record. -/
def RefusesRemoval (w : View) (old : Document) (i : IndexState) : Prop :=
  if w.atRest i then
    w.config.rebuildDirtyOnWrite = true ∧
      ¬ i.descriptor.Buildable w.config.tokenizer w.records
  else ¬ old.Indexable w.config.tokenizer i.descriptor

/-- Whether an index refuses the new version. An index at rest has been rebuilt with it by
then, or is passed by. -/
def RefusesWrite (w : View) (id : RecordId) (new : Document) (i : IndexState) : Prop :=
  w.atRest i = false ∧ ¬ i.Takes w.config id new

/-- Whether an index refuses the old version when it is written again. An index that has been
rebuilt has the places of all other records. -/
def RefusesRestore (w : View) (id : RecordId) (old : Document) (i : IndexState) : Prop :=
  if w.atRest i then
    w.config.rebuildDirtyOnWrite = true ∧
      ¬ (old.Indexable w.config.tokenizer i.descriptor ∧
        (i.descriptor.isUnique = true → ∀ p, old.BelongsAt w.config.tokenizer i.descriptor p →
          ∀ e ∈ w.records, e.2.BelongsAt w.config.tokenizer i.descriptor p → e.1 = id))
  else ¬ i.Takes w.config id old

/-- An index that stays as it is while writes go on: it is not at rest, or it is passed by. -/
def Settled (w : View) (i : IndexState) : Prop :=
  w.atRest i = true → w.config.rebuildDirtyOnWrite = false

/-- An index after a step that rewrites the places of an id, unless the index is passed by. -/
def Stepped (w : View) (id : RecordId) (i i' : IndexState) (places : Place → Prop) : Prop :=
  if w.atRest i then i' = i else Rewrites id i i' places

namespace Stepped

variable {places : Place → Prop}

/-- An index that stays as it is. -/
theorem refl (hi : i.WellFormed) : w.Stepped id i i fun p => id ∈ i.content.idsAt p := by
  unfold Stepped
  split
  · rfl
  · exact .refl hi

/-- A step keeps the descriptor of an index. -/
theorem descriptor_eq (h : w.Stepped id i i' places) : i'.descriptor = i.descriptor := by
  unfold Stepped at h
  split at h
  · rw [h]
  · exact h.descriptor_eq

/-- It keeps the mark of an index. -/
theorem dirty_eq (h : w.Stepped id i i' places) : i'.dirty = i.dirty := by
  unfold Stepped at h
  split at h
  · rw [h]
  · exact h.dirty_eq

/-- It keeps an index at rest or not at rest, so the next step treats it the same way. -/
theorem atRest_eq (h : w.Stepped id i i' places) : w.atRest i' = w.atRest i :=
  atRest_congr h.descriptor_eq h.dirty_eq

/-- It keeps an index well formed. -/
theorem wellFormed (h : w.Stepped id i i' places) (hi : i.WellFormed) : i'.WellFormed := by
  unfold Stepped at h
  split at h
  · rw [h]
    exact hi
  · exact h.wellFormed

/-- An index that is not at rest is not passed by. -/
theorem rewrites (h : w.Stepped id i i' places) (hrest : w.atRest i = false) :
    Rewrites id i i' places := by
  rwa [Stepped, hrest, if_neg Bool.false_ne_true] at h

end Stepped

/-! ### The loop that writes, over indexes that are settled -/

section writing

variable (hplain : w.config.customExtractor = none) (hid : doc.id = .ok (some id))

include hplain hid

/-- Writing to one settled index. -/
theorem Settled.bringUp_cases (hs : w.Settled i) (hi : i.WellFormed) :
    (¬ w.RefusesWrite id doc i ∧ (∃ has, ((w.bringUp doc).perform i).1 = .ok has) ∧
        (w.Stepped id i ((w.bringUp doc).perform i).2 fun p =>
          id ∈ i.content.idsAt p ∨ doc.BelongsAt w.config.tokenizer i.descriptor p) ∧
        w.Stepped id i (w.retracted doc i) fun p =>
          id ∈ i.content.idsAt p ∧ ¬ doc.BelongsAt w.config.tokenizer i.descriptor p) ∨
      (w.RefusesWrite id doc i ∧ ∃ e, (w.bringUp doc).perform i = (.error e, i)) := by
  cases hrest : w.atRest i with
  | true =>
    -- an index at rest that is not rebuilt takes nothing and refuses nothing
    have hstay : (w.bringUp doc).perform i = (.ok false, i) :=
      perform_bringUp_stay hrest (hs hrest)
    refine Or.inl ⟨?_, ⟨false, by rw [hstay]⟩, ?_, ?_⟩
    · rintro ⟨hnot, -⟩
      rw [hrest] at hnot
      cases hnot
    · rw [Stepped, hrest, if_pos rfl, hstay]
    · rw [Stepped, hrest, if_pos rfl, retracted, hstay]
  | false =>
    by_cases htakes : i.Takes w.config id doc
    · obtain ⟨i', hrun, hadds⟩ := bringUp_adds hplain hi hid hrest htakes
      refine Or.inl ⟨fun hrefuses => hrefuses.2 htakes, ⟨true, by rw [hrun]⟩, ?_, ?_⟩
      · rw [Stepped, hrest, if_neg Bool.false_ne_true, hrun]
        exact hadds
      · rw [Stepped, hrest, if_neg Bool.false_ne_true]
        exact retracted_removes hplain hi hid hrest htakes
    · exact Or.inr ⟨⟨hrest, htakes⟩, bringUp_refuses hplain hi hid hrest htakes⟩

/-- The loop over indexes that earlier steps have made of others. It comes to its end and adds
the document everywhere, or it stops and removes the document from the indexes before. -/
theorem writeEach_map (hnodup : is.Nodup) {made : IndexState → IndexState}
    (hsettled : ∀ i ∈ is, w.Settled (made i)) (hwf : ∀ i ∈ is, (made i).WellFormed) :
    ((∀ i ∈ is, ¬ w.RefusesWrite id doc (made i)) ∧
        ∃ next, w.writeEach doc (is.map made) = (.ok (), is.map next) ∧
          ∀ i ∈ is, w.Stepped id (made i) (next i) fun p =>
            id ∈ (made i).content.idsAt p ∨
              doc.BelongsAt w.config.tokenizer (made i).descriptor p) ∨
      ∃ before after e next, StopsAt (fun i => w.RefusesWrite id doc (made i)) is before after ∧
        w.writeEach doc (is.map made) = (.error e, is.map next) ∧
        ∀ i ∈ is, w.Stepped id (made i) (next i) fun p =>
          id ∈ (made i).content.idsAt p ∧
            ¬(i ∈ before ∧ doc.BelongsAt w.config.tokenizer (made i).descriptor p) := by
  have hstep := fun i hi => (hsettled i hi).bringUp_cases hplain hid (hwf i hi)
  rcases w.writeEach_cases doc (is.map made) with
    ⟨hall, hloop⟩ | ⟨before', k', after', e, hsplit, hbefore, hk, hloop⟩
  · have hok : ∀ i ∈ is, ∃ has, ((w.bringUp doc).perform (made i)).1 = .ok has := by
      simpa using hall
    have hone : ∀ i ∈ is, ¬ w.RefusesWrite id doc (made i) ∧
        w.Stepped id (made i) ((w.bringUp doc).perform (made i)).2 fun p =>
          id ∈ (made i).content.idsAt p ∨
            doc.BelongsAt w.config.tokenizer (made i).descriptor p := by
      intro i hi
      obtain ⟨has, hhas⟩ := hok i hi
      rcases hstep i hi with ⟨hnot, -, hadds, -⟩ | ⟨-, e, hrun⟩
      · exact ⟨hnot, hadds⟩
      · rw [hrun] at hhas
        cases hhas
    refine Or.inl ⟨fun i hi => (hone i hi).1,
      fun i => ((w.bringUp doc).perform (made i)).2, ?_, fun i hi => (hone i hi).2⟩
    rw [hloop, List.map_map]
    rfl
  · obtain ⟨before, rest, rfl, rfl, hrest⟩ := List.map_eq_append_iff.mp hsplit
    obtain ⟨k, after, rfl, rfl, rfl⟩ := List.map_eq_cons_iff.mp hrest
    have hrefuses : w.RefusesWrite id doc (made k) ∧
        (w.bringUp doc).perform (made k) = (.error e, made k) := by
      rcases hstep k (by simp) with ⟨-, ⟨has, hhas⟩, -⟩ | ⟨hrefuses, e', hrun⟩
      · rw [hhas] at hk
        cases hk
      · rw [hrun] at hk
        obtain rfl : e' = e := Except.error.inj hk
        exact ⟨hrefuses, hrun⟩
    have hpassed : ∀ j ∈ before, ¬ w.RefusesWrite id doc (made j) ∧
        w.Stepped id (made j) (w.retracted doc (made j)) fun p =>
          id ∈ (made j).content.idsAt p ∧
            ¬ doc.BelongsAt w.config.tokenizer (made j).descriptor p := by
      intro j hj
      obtain ⟨has, hhas⟩ := hbefore (made j) (List.mem_map_of_mem hj)
      rcases hstep j (by simp [hj]) with ⟨hnot, -, -, hremoves⟩ | ⟨-, e', hrun⟩
      · exact ⟨hnot, hremoves⟩
      · rw [hrun] at hhas
        cases hhas
    -- the indexes before have taken the entries back, all others are as they were
    obtain ⟨next, hnext, hback, hkept⟩ :=
      exists_map_append hnodup (fun i => w.retracted doc (made i)) made
    refine Or.inr ⟨before, after, e, next, ⟨k, rfl, fun j hj => (hpassed j hj).1, hrefuses.1⟩, ?_,
      fun i hi => ?_⟩
    · rw [hloop, hrefuses.2, hnext, List.map_map]
      rfl
    · by_cases hmem : i ∈ before
      · rw [hback i hmem]
        simpa only [hmem, true_and] using (hpassed i hmem).2
      · rw [hkept i hmem]
        simpa only [hmem, false_and, not_false_eq_true, and_true] using Stepped.refl (hwf i hi)

end writing

/-! ### The loop that removes -/

section removing

variable (hplain : w.config.customExtractor = none) (hid : doc.id = .ok (some id))
  (hown : ∀ e ∈ w.records, e.2.id = .ok (some e.1))

include hplain hid hown

/-- Removing a document from one index. -/
theorem forget_cases (hi : i.WellFormed) :
    (¬ w.RefusesRemoval doc i ∧ ((w.forget doc).perform i).1 = .ok ()) ∨
      (w.RefusesRemoval doc i ∧ ∃ e, ((w.forget doc).perform i).1 = .error e) := by
  unfold RefusesRemoval
  cases hrest : w.atRest i with
  | true =>
    rw [if_pos rfl]
    cases hrebuild : w.config.rebuildDirtyOnWrite with
    | true =>
      rw [perform_forget_rest hrest hrebuild]
      rcases rebuild_spec hplain hown hi with ⟨hbuild, i', hrun, -⟩ | ⟨hnot, e, i', hrun, -⟩
      · rw [hrun]
        exact Or.inl ⟨fun hrefuses => hrefuses.2 hbuild, rfl⟩
      · rw [hrun]
        exact Or.inr ⟨⟨rfl, hnot⟩, e, rfl⟩
    | false =>
      rw [perform_forget_stay hrest hrebuild]
      exact Or.inl ⟨by simp, rfl⟩
  | false =>
    rw [if_neg Bool.false_ne_true]
    -- an index that is clean refuses if the document has no places in it
    have hok := (forget_removes hplain hi hid hrest).1
    by_cases hindexable : doc.Indexable w.config.tokenizer i.descriptor
    · exact Or.inl ⟨fun hnot => hnot hindexable, hok.mpr hindexable⟩
    · refine Or.inr ⟨hindexable, ?_⟩
      rcases hrun : ((w.forget doc).perform i).1 with e | _
      · exact ⟨e, rfl⟩
      · exact absurd (hok.mp hrun) hindexable

/-- The loop over all indexes. It comes to its end, or it stops at an index that refuses; one
at rest that does stays dirty. -/
theorem forgetEach_map (hnodup : is.Nodup) (hwf : ∀ i ∈ is, i.WellFormed) :
    ((∀ i ∈ is, ¬ w.RefusesRemoval doc i) ∧
        w.forgetEach doc is = (.ok (), is.map fun i => ((w.forget doc).perform i).2)) ∨
      ∃ before after e next, StopsAt (w.RefusesRemoval doc) is before after ∧
        w.forgetEach doc is = (.error e, is.map next) ∧
        ∀ i ∈ is, (i ∈ before → next i = ((w.forget doc).perform i).2) ∧
          (i ∉ before → next i = i ∨
            w.RefusesRemoval doc i ∧ next i = ((w.forget doc).perform i).2) := by
  have hstep := fun i hi => forget_cases hplain hid hown (hwf i hi)
  rcases w.forgetEach_cases doc is with
    ⟨hall, hloop⟩ | ⟨before, k, after, e, rfl, hbefore, hk, hloop⟩
  · refine Or.inl ⟨fun i hi => ?_, hloop⟩
    rcases hstep i hi with ⟨hnot, -⟩ | ⟨-, e, hrun⟩
    · exact hnot
    · rw [hall i hi] at hrun
      cases hrun
  · have hrefuses : w.RefusesRemoval doc k := by
      rcases hstep k (by simp) with ⟨-, hrun⟩ | ⟨hrefuses, -⟩
      · rw [hk] at hrun
        cases hrun
      · exact hrefuses
    have hpassed : ∀ j ∈ before, ¬ w.RefusesRemoval doc j := by
      intro j hj
      rcases hstep j (by simp [hj]) with ⟨hnot, -⟩ | ⟨-, e', hrun⟩
      · exact hnot
      · rw [hbefore j hj] at hrun
        cases hrun
    -- the loop has come as far as `k`: a rebuild that fails there has emptied the index
    rw [List.append_cons] at hnodup
    obtain ⟨next, hnext, hreached, hkept⟩ :=
      exists_map_append hnodup (fun i => ((w.forget doc).perform i).2) fun i => i
    refine Or.inr ⟨before, after, e, next, ⟨k, rfl, hpassed, hrefuses⟩, ?_,
      fun i _ => ⟨fun hmem => hreached i (List.mem_append_left _ hmem), fun hnot => ?_⟩⟩
    · rw [hloop, List.append_cons before, hnext, List.map_append, List.map_id', List.append_assoc]
      rfl
    · by_cases heq : i = k
      · subst heq
        exact Or.inr ⟨hrefuses, hreached i (by simp)⟩
      · exact Or.inl (hkept i (by simp [hnot, heq]))

end removing

/-! ### The index after the first loop -/

/-- An index that has forgotten a document: the places are gone, or the index was at rest and
has been rebuilt from the records as they are during the write, or it was passed by. -/
inductive Forgotten (w : View) (id : RecordId) (old : Document) (i i' : IndexState) : Prop
  | removed (hrest : w.atRest i = false)
      (h : Rewrites id i i' fun p =>
        id ∈ i.content.idsAt p ∧ ¬ old.BelongsAt w.config.tokenizer i.descriptor p)
  | rebuilt (hrest : w.atRest i = true) (hrebuild : w.config.rebuildDirtyOnWrite = true)
      (hd : i'.descriptor = i.descriptor) (hdirty : i'.dirty = false)
      (h : i'.Exact w.config w.records)
  | passed (hrest : w.atRest i = true) (hrebuild : w.config.rebuildDirtyOnWrite = false)
      (h : i' = i)

section forgotten

variable (hplain : w.config.customExtractor = none) (hold : old.id = .ok (some id))
  (hown : ∀ e ∈ w.records, e.2.id = .ok (some e.1))

include hplain hold hown in
/-- An index that does not refuse to forget has forgotten in one of the three ways. -/
theorem forgotten_of_not_refuses (hi : i.WellFormed) (h : ¬ w.RefusesRemoval old i) :
    w.Forgotten id old i ((w.forget old).perform i).2 := by
  cases hrest : w.atRest i with
  | true =>
    cases hrebuild : w.config.rebuildDirtyOnWrite with
    | true =>
      rw [RefusesRemoval, hrest, if_pos rfl] at h
      have hd := forget_descriptor w old i
      rw [perform_forget_rest hrest hrebuild] at hd ⊢
      rcases rebuild_spec hplain hown hi with
        ⟨-, i', hrun, hdirty, hexact⟩ | ⟨hnot, -⟩
      · rw [hrun] at hd ⊢
        exact .rebuilt hrest hrebuild hd hdirty hexact
      · exact absurd ⟨hrebuild, hnot⟩ h
    | false => exact .passed hrest hrebuild (by rw [perform_forget_stay hrest hrebuild])
  | false => exact .removed hrest (forget_removes hplain hi hold hrest).2

/-- An index at rest that refuses stays dirty. -/
theorem dirty_of_refuses (hi : i.WellFormed) (hrest : w.atRest i = true)
    (hplain : w.config.customExtractor = none)
    (hown : ∀ e ∈ w.records, e.2.id = .ok (some e.1)) (h : w.RefusesRemoval old i) :
    ((w.forget old).perform i).2.dirty = true := by
  rw [RefusesRemoval, hrest, if_pos rfl] at h
  rw [perform_forget_rest hrest h.1]
  rcases rebuild_spec hplain hown hi with ⟨hbuild, -⟩ | ⟨-, e, i', hrun, hdirty, -⟩
  · exact absurd hbuild h.2
  · rw [hrun]
    exact hdirty

end forgotten

namespace Forgotten

variable {i₁ i₂ i₃ : IndexState} (h : w.Forgotten id old i i₁)

include h

/-! Which of the three it is shows in the index before and in the settings. -/

/-- An index that was not at rest has lost the places of the old version. -/
theorem rewrites (hrest : w.atRest i = false) : Rewrites id i i₁ fun p =>
    id ∈ i.content.idsAt p ∧ ¬ old.BelongsAt w.config.tokenizer i.descriptor p := by
  cases h with
  | removed _ h => exact h
  | rebuilt hrest' => simp [hrest] at hrest'
  | passed hrest' => simp [hrest] at hrest'

/-- An index at rest that was to be rebuilt is exact for the records during the write. -/
theorem exact_of_rebuild (hrest : w.atRest i = true)
    (hrebuild : w.config.rebuildDirtyOnWrite = true) :
    i₁.descriptor = i.descriptor ∧ i₁.dirty = false ∧ i₁.Exact w.config w.records := by
  cases h with
  | removed hrest' => simp [hrest] at hrest'
  | rebuilt _ _ hd hdirty h => exact ⟨hd, hdirty, h⟩
  | passed _ hrebuild' => simp [hrebuild] at hrebuild'

/-- An index at rest that was not to be rebuilt is as it was. -/
theorem eq_of_stay (hrest : w.atRest i = true)
    (hrebuild : w.config.rebuildDirtyOnWrite = false) : i₁ = i := by
  cases h with
  | removed hrest' => simp [hrest] at hrest'
  | rebuilt _ hrebuild' => simp [hrebuild] at hrebuild'
  | passed _ _ h => exact h

/-- In all three ways the descriptor is kept. -/
theorem descriptor_eq : i₁.descriptor = i.descriptor := by
  cases h with
  | removed _ h => exact h.descriptor_eq
  | rebuilt _ _ hd => exact hd
  | passed _ _ h => rw [h]

/-- In all three ways the index stays well formed. -/
theorem wellFormed (hi : i.WellFormed) : i₁.WellFormed := by
  cases h with
  | removed _ h => exact h.wellFormed
  | rebuilt _ _ _ _ h => exact h.wellFormed
  | passed _ _ h => rwa [h]

/-- After the first loop no index is left that a later loop would rebuild. -/
theorem settled : w.Settled i₁ := by
  intro hrest₁
  cases h with
  | removed hrest h =>
    rw [atRest_congr h.descriptor_eq h.dirty_eq, hrest] at hrest₁
    cases hrest₁
  | rebuilt _ _ _ hdirty =>
    rw [atRest, hdirty] at hrest₁
    cases hrest₁
  | passed _ hrebuild => exact hrebuild

/-- Whether the new version is refused shows before the first loop: a rebuilt index has it. -/
theorem refusesWrite_iff (hmem : (id, new) ∈ w.records) :
    w.RefusesWrite id new i₁ ↔ w.RefusesWrite id new i := by
  cases h with
  | removed hrest h =>
    rw [RefusesWrite, RefusesWrite, h.takes_iff, atRest_congr h.descriptor_eq h.dirty_eq]
  | rebuilt hrest _ _ _ h =>
    have htakes : i₁.Takes w.config id new := by
      refine h.takes_iff.mpr ⟨h.indexable _ hmem, fun hu p hp e he hp' => ?_⟩
      exact h.buildable.unshared hu e he _ hmem p hp' hp
    constructor
    · exact fun hrefuses => absurd htakes hrefuses.2
    · rintro ⟨hnot, -⟩
      rw [hrest] at hnot
      cases hnot
  | passed _ _ h => rw [h]

/-- Whether the old version is refused when it is written again shows before as well. -/
theorem refusesRestore_iff {places : Place → Prop} (h₂ : w.Stepped id i₁ i₂ places) :
    w.RefusesWrite id old i₂ ↔ w.RefusesRestore id old i := by
  have hrest₂ := h₂.atRest_eq
  unfold RefusesWrite RefusesRestore
  cases h with
  | removed hrest h =>
    have hrest₁ : w.atRest i₁ = false := by
      rw [atRest_congr h.descriptor_eq h.dirty_eq, hrest]
    rw [hrest₂, hrest₁, hrest, if_neg Bool.false_ne_true, (h₂.rewrites hrest₁).takes_iff,
      h.takes_iff]
    exact and_iff_right rfl
  | rebuilt hrest hrebuild hd hdirty h =>
    have hrest₁ : w.atRest i₁ = false := by
      rw [atRest, hdirty]
      rfl
    rw [hrest₂, hrest₁, hrest, if_pos rfl, (h₂.rewrites hrest₁).takes_iff, h.takes_iff, hd]
    exact and_congr (by simp [hrebuild]) Iff.rfl
  | passed hrest hrebuild h =>
    rw [hrest₂, h, hrest, if_pos rfl, hrebuild]
    simp

end Forgotten

/-! ### The index after all three loops -/

/-- The third loop: where the old version has no place, nothing changes, and where it has one
that is free by then, it is back if no index refuses it. -/
def Restored (w : View) (id : RecordId) (old : Document) (restored : Prop)
    (i i' : IndexState) : Prop :=
  ∃ places, w.Stepped id i i' places ∧
    (∀ p, ¬ old.BelongsAt w.config.tokenizer i.descriptor p →
      (places p ↔ id ∈ i.content.idsAt p)) ∧
    ∀ p, old.BelongsAt w.config.tokenizer i.descriptor p → id ∉ i.content.idsAt p →
      (places p ↔ restored)

/-- The loop that writes the old version again. -/
theorem writeEach_restored (hplain : w.config.customExtractor = none)
    (hold : old.id = .ok (some id)) (hnodup : is.Nodup) {made : IndexState → IndexState}
    (hsettled : ∀ i ∈ is, w.Settled (made i)) (hwf : ∀ i ∈ is, (made i).WellFormed) :
    ∃ r next, w.writeEach old (is.map made) = (r, is.map next) ∧
      ∀ i ∈ is, w.Restored id old (∀ j ∈ is, ¬ w.RefusesWrite id old (made j)) (made i)
        (next i) := by
  rcases writeEach_map hplain hold hnodup hsettled hwf with
    ⟨hnone, next, hloop, hnext⟩ | ⟨before, after, e, next, ⟨k, hsplit, -, hk⟩, hloop, hnext⟩
  · refine ⟨_, next, hloop, fun i hi => ⟨_, hnext i hi, fun p hp => ?_, fun p hp _ => ?_⟩⟩
    · exact or_iff_left hp
    · exact iff_of_true (Or.inr hp) hnone
  · have hsome : ¬ ∀ j ∈ is, ¬ w.RefusesWrite id old (made j) :=
      fun hnone => hnone k (by simp [hsplit]) hk
    refine ⟨_, next, hloop, fun i hi => ⟨_, hnext i hi, fun p hp => ?_, fun p hp hnot => ?_⟩⟩
    · exact and_iff_left fun hmem => hp hmem.2
    · exact iff_of_false (fun hmem => hnot hmem.1) hsome

namespace Forgotten

variable {i₁ i₂ i₃ : IndexState} {before : Prop} {restored : Prop}
  (h : w.Forgotten id old i i₁)
  (h₂ : w.Stepped id i₁ i₂ fun p => id ∈ i₁.content.idsAt p ∧
    ¬(before ∧ new.BelongsAt w.config.tokenizer i₁.descriptor p))
  (h₃ : w.Restored id old restored i₂ i₃)

include h h₂ h₃

/-- An index that was not at rest has the places of the old version if they have been restored,
and those of its other places that have not been taken back with the new version. -/
theorem mem_of_removed (hrest : w.atRest i = false) (p : Place) :
    id ∈ i₃.content.idsAt p ↔
      (old.BelongsAt w.config.tokenizer i.descriptor p ∧ restored) ∨
        (¬ old.BelongsAt w.config.tokenizer i.descriptor p ∧ id ∈ i.content.idsAt p ∧
          ¬(before ∧ new.BelongsAt w.config.tokenizer i.descriptor p)) := by
  have h₁ := h.rewrites hrest
  have hrest₁ : w.atRest i₁ = false := (atRest_congr h₁.descriptor_eq h₁.dirty_eq).trans hrest
  have hrest₂ : w.atRest i₂ = false := h₂.atRest_eq.trans hrest₁
  obtain ⟨places, hstep, houtside, hinside⟩ := h₃
  have hmem₁ := h₁.self_mem_iff p
  have hmem₂ := (h₂.rewrites hrest₁).self_mem_iff p
  have hmem₃ := (hstep.rewrites hrest₂).self_mem_iff p
  have hd₂ : i₂.descriptor = i.descriptor := h₂.descriptor_eq.trans h.descriptor_eq
  rw [h.descriptor_eq] at hmem₂
  rw [hd₂] at houtside hinside
  rw [hmem₃]
  by_cases hp : old.BelongsAt w.config.tokenizer i.descriptor p
  · -- the first loop has freed the place, so what is there in the end has been restored
    have hfree : id ∉ i₂.content.idsAt p := by
      rw [hmem₂, hmem₁]
      exact fun hmem => hmem.1.2 hp
    simp [hinside p hp hfree, hp]
  · rw [houtside p hp, hmem₂, hmem₁]
    simp [hp]

/-- An index that was rebuilt in the first loop has the places of the new version, unless the
second loop has taken them back. This leaves the places of the old version aside. -/
theorem mem_of_rebuilt {o : View} (hext : Extends o w id new) (hapart : ∀ e ∈ o.records, e.1 ≠ id)
    (hrest : w.atRest i = true) (hrebuild : w.config.rebuildDirtyOnWrite = true) {p : Place}
    (hp : ¬ old.BelongsAt w.config.tokenizer i.descriptor p) :
    id ∈ i₃.content.idsAt p ↔
      ¬ before ∧ new.BelongsAt w.config.tokenizer i.descriptor p := by
  obtain ⟨hd, hdirty, hexact⟩ := h.exact_of_rebuild hrest hrebuild
  have hrest₁ : w.atRest i₁ = false := by
    rw [atRest, hdirty]
    rfl
  have hrest₂ : w.atRest i₂ = false := h₂.atRest_eq.trans hrest₁
  obtain ⟨places, hstep, houtside, -⟩ := h₃
  have hmem₁ := hext.self_mem_iff hapart hexact p
  have hmem₂ := (h₂.rewrites hrest₁).self_mem_iff p
  have hmem₃ := (hstep.rewrites hrest₂).self_mem_iff p
  have hd₂ : i₂.descriptor = i.descriptor := h₂.descriptor_eq.trans hd
  rw [hd] at hmem₁ hmem₂
  rw [hd₂] at houtside
  rw [hmem₃, houtside p hp, hmem₂, hmem₁]
  tauto

/-- An index that was passed by stays as it was. -/
theorem eq_of_passed (hrest : w.atRest i = true)
    (hrebuild : w.config.rebuildDirtyOnWrite = false) : i₃ = i := by
  obtain rfl : i₁ = i := h.eq_of_stay hrest hrebuild
  have h₂' := h₂
  rw [Stepped, hrest, if_pos rfl] at h₂'
  obtain ⟨places, hstep, -⟩ := h₃
  rw [Stepped, h₂.atRest_eq, hrest, if_pos rfl] at hstep
  exact hstep.trans h₂'

/-- All three loops keep the descriptor of an index. -/
theorem descriptor_eq_of_restored : i₃.descriptor = i.descriptor := by
  obtain ⟨places, hstep, -⟩ := h₃
  exact hstep.descriptor_eq.trans (h₂.descriptor_eq.trans h.descriptor_eq)

end Forgotten

/-! ### Writes that fail in the first loop -/

/-- An index after a first loop that has been stopped, depending on whether it stands before
the index that refused. -/
structure Halted (w : View) (id : RecordId) (old : Document) (before : Prop)
    (i i' : IndexState) : Prop where
  descriptor_eq : i'.descriptor = i.descriptor
  mem_iff : w.atRest i = false → ∀ p, id ∈ i'.content.idsAt p ↔ id ∈ i.content.idsAt p ∧
    ¬(before ∧ old.BelongsAt w.config.tokenizer i.descriptor p)
  exact : w.atRest i = true → before → w.config.rebuildDirtyOnWrite = true →
    i'.Exact w.config w.records
  dirty : w.atRest i = true → ¬(before ∧ w.config.rebuildDirtyOnWrite = true) → i'.dirty = true

section halted

variable {before : Prop}

/-- An index after the one that refused. -/
theorem halted_refl (hbefore : ¬ before) : w.Halted id old before i i where
  descriptor_eq := rfl
  mem_iff _ p := by simp [hbefore]
  exact _ h := absurd h hbefore
  dirty hrest _ := dirty_of_atRest hrest

/-- An index before the one that refused has forgotten the old version. -/
theorem Forgotten.halted (h : w.Forgotten id old i i') (hbefore : before) :
    w.Halted id old before i i' := by
  refine ⟨h.descriptor_eq, fun hrest p => ?_,
    fun hrest _ hrebuild => (h.exact_of_rebuild hrest hrebuild).2.2, fun hrest hnot => ?_⟩
  · simp [(h.rewrites hrest).self_mem_iff p, hbefore]
  · have hstay : w.config.rebuildDirtyOnWrite = false :=
      Bool.eq_false_iff.mpr fun hrebuild => hnot ⟨hbefore, hrebuild⟩
    rw [h.eq_of_stay hrest hstay]
    exact dirty_of_atRest hrest

variable (hplain : w.config.customExtractor = none) (hold : old.id = .ok (some id))
  (hown : ∀ e ∈ w.records, e.2.id = .ok (some e.1))

include hplain hold hown

/-- The index that refused: it has lost nothing, as the document has no places in it, or it
could not be rebuilt and stays dirty. -/
theorem halted_of_refuses (hi : i.WellFormed) (hbefore : ¬ before)
    (h : w.RefusesRemoval old i) :
    w.Halted id old before i ((w.forget old).perform i).2 := by
  refine ⟨forget_descriptor w old i, fun hrest p => ?_, fun _ hb => absurd hb hbefore,
    fun hrest _ => dirty_of_refuses hi hrest hplain hown h⟩
  rw [RefusesRemoval, hrest, if_neg Bool.false_ne_true] at h
  have hnone : ¬ old.BelongsAt w.config.tokenizer i.descriptor p :=
    fun ⟨ps, hps, _⟩ => h ⟨ps, hps⟩
  rw [(forget_removes hplain hi hold hrest).2.self_mem_iff p]
  simp [hnone, hbefore]

/-- The first loop for a whole collection. -/
theorem forgetEach_spec (hnodup : is.Nodup) (hwf : ∀ i ∈ is, i.WellFormed) :
    ((∀ i ∈ is, ¬ w.RefusesRemoval old i) ∧
        ∃ next, w.forgetEach old is = (.ok (), is.map next) ∧
          ∀ i ∈ is, w.Forgotten id old i (next i)) ∨
      ∃ before after e next, StopsAt (w.RefusesRemoval old) is before after ∧
        w.forgetEach old is = (.error e, is.map next) ∧
        ∀ i ∈ is, w.Halted id old (i ∈ before) i (next i) := by
  have hforgotten := fun i hi =>
    forgotten_of_not_refuses (i := i) hplain hold hown (hwf i hi)
  rcases forgetEach_map hplain hold hown hnodup hwf with
    ⟨hnone, hloop⟩ | ⟨before, after, e, next, hstops, hloop, hnext⟩
  · exact Or.inl ⟨hnone, _, hloop, fun i hi => hforgotten i hi (hnone i hi)⟩
  · refine Or.inr ⟨before, after, e, next, hstops, hloop, fun i hi => ?_⟩
    obtain ⟨k, -, hnot, -⟩ := hstops
    by_cases hmem : i ∈ before
    · rw [(hnext i hi).1 hmem]
      exact (hforgotten i hi (hnot i hmem)).halted hmem
    · rcases (hnext i hi).2 hmem with heq | ⟨hrefuses, heq⟩
      · rw [heq]
        exact halted_refl hmem
      · rw [heq]
        exact halted_of_refuses hplain hold hown (hwf i hi) hmem hrefuses

end halted

/-! ### All of it -/

/-- An index after an update that has been stopped in the second loop. `before` says that the
index stands before the one that refused the new version, and `restored` that no index refused
the old version afterwards. -/
structure Undone (w : View) (id : RecordId) (old new : Document) (before restored : Prop)
    (i i' : IndexState) : Prop where
  descriptor_eq : i'.descriptor = i.descriptor
  mem_iff : w.atRest i = false → ∀ p, id ∈ i'.content.idsAt p ↔
    (old.BelongsAt w.config.tokenizer i.descriptor p ∧ restored) ∨
      (¬ old.BelongsAt w.config.tokenizer i.descriptor p ∧ id ∈ i.content.idsAt p ∧
        ¬(before ∧ new.BelongsAt w.config.tokenizer i.descriptor p))
  rebuilt : w.atRest i = true → w.config.rebuildDirtyOnWrite = true →
    ∀ p, ¬ old.BelongsAt w.config.tokenizer i.descriptor p →
      (id ∈ i'.content.idsAt p ↔ ¬ before ∧ new.BelongsAt w.config.tokenizer i.descriptor p)
  passed : w.atRest i = true → w.config.rebuildDirtyOnWrite = false → i' = i

/-- How replacing the entries of a document ends: well, or stopped by an index that does not
forget the old version, or by one that does not take the new version. -/
theorem replaceEach_cases {o : View} (hplain : w.config.customExtractor = none)
    (hold : old.id = .ok (some id)) (hext : Extends o w id new)
    (hapart : ∀ e ∈ o.records, e.1 ≠ id) (hown : ∀ e ∈ w.records, e.2.id = .ok (some e.1))
    (hnodup : is.Nodup) (hwf : ∀ i ∈ is, i.WellFormed) :
    ((∀ i ∈ is, ¬ w.RefusesRemoval old i ∧ ¬ w.RefusesWrite id new i) ∧
        (w.replaceEach old new is).1 = .ok ()) ∨
      (∃ before after e next, StopsAt (w.RefusesRemoval old) is before after ∧
        w.replaceEach old new is = (.error e, is.map next) ∧
        ∀ i ∈ is, w.Halted id old (i ∈ before) i (next i)) ∨
      ((∀ i ∈ is, ¬ w.RefusesRemoval old i) ∧
        ∃ before after e next, StopsAt (w.RefusesWrite id new) is before after ∧
          w.replaceEach old new is = (.error e, is.map next) ∧
          ∀ i ∈ is, w.Undone id old new (i ∈ before) (∀ j ∈ is, ¬ w.RefusesRestore id old j) i
            (next i)) := by
  have hmem : (id, new) ∈ w.records := (hext.mem_iff _).mpr (Or.inl rfl)
  unfold replaceEach
  rcases forgetEach_spec hplain hold hown hnodup hwf with
    ⟨hnone, next₁, hloop₁, h₁⟩ | ⟨before, after, e, next, hstops, hloop, hhalted⟩
  swap
  · rw [hloop]
    exact Or.inr (Or.inl ⟨before, after, e, next, hstops, rfl, hhalted⟩)
  rw [hloop₁]
  dsimp only
  have hwf₁ := fun i hi => (h₁ i hi).wellFormed (hwf i hi)
  rcases writeEach_map hplain hext.own hnodup (fun i hi => (h₁ i hi).settled) hwf₁ with
    ⟨hnone₂, next₂, hloop₂, -⟩ | ⟨before, after, e, next₂, hstops, hloop₂, h₂⟩
  · rw [hloop₂]
    refine Or.inl ⟨fun i hi => ⟨hnone i hi, ?_⟩, rfl⟩
    rw [← (h₁ i hi).refusesWrite_iff hmem]
    exact hnone₂ i hi
  -- The second loop has been stopped: the third one runs over what it has left.
  rw [hloop₂]
  dsimp only
  have hsettled₂ : ∀ i ∈ is, w.Settled (next₂ i) := by
    intro i hi
    rw [Settled, (h₂ i hi).atRest_eq]
    exact (h₁ i hi).settled
  obtain ⟨r, next₃, hloop₃, h₃⟩ := writeEach_restored hplain hold hnodup hsettled₂
    fun i hi => (h₂ i hi).wellFormed (hwf₁ i hi)
  rw [hloop₃]
  have hrestored : (∀ j ∈ is, ¬ w.RefusesWrite id old (next₂ j)) ↔
      ∀ j ∈ is, ¬ w.RefusesRestore id old j :=
    forall₂_congr fun j hj => not_congr ((h₁ j hj).refusesRestore_iff (h₂ j hj))
  obtain ⟨k, hsplit, hbefore, hk⟩ := hstops
  have hstops' : StopsAt (w.RefusesWrite id new) is before after := by
    have hcongr := fun i hi => (h₁ i hi).refusesWrite_iff hmem
    refine ⟨k, hsplit, fun j hj => ?_, ?_⟩
    · rw [← hcongr j (by simp [hsplit, hj])]
      exact hbefore j hj
    · rw [← hcongr k (by simp [hsplit])]
      exact hk
  refine Or.inr (Or.inr ⟨hnone, before, after, e, next₃, hstops', rfl, fun i hi => ?_⟩)
  rw [← hrestored]
  exact {
    descriptor_eq := (h₁ i hi).descriptor_eq_of_restored (h₂ i hi) (h₃ i hi)
    mem_iff := (h₁ i hi).mem_of_removed (h₂ i hi) (h₃ i hi)
    rebuilt := fun hrest hrebuild _ =>
      (h₁ i hi).mem_of_rebuilt (h₂ i hi) (h₃ i hi) hext hapart hrest hrebuild
    passed := (h₁ i hi).eq_of_passed (h₂ i hi) (h₃ i hi) }

/-! ### Removals and updates -/

/-- No index is in a consistent view twice. -/
theorem Consistent.nodup (h : v.Consistent) : v.indexes.Nodup := .of_map _ h.distinct

/-- Indexes are told apart by their descriptors. -/
theorem Consistent.eq_of_descriptor_eq (h : v.Consistent) {j : IndexState} (hi : i ∈ v.indexes)
    (hj : j ∈ v.indexes) (hd : j.descriptor = i.descriptor) : j = i :=
  List.inj_on_of_nodup_map h.distinct hj hi (congrArg IndexDescriptor.fields hd)

/-- What has become of an index is found under its descriptor, if every index keeps its own. -/
theorem Consistent.eq_of_mem_map (h : v.Consistent) {next : IndexState → IndexState}
    (hnext : ∀ j ∈ v.indexes, (next j).descriptor = j.descriptor) (hi : i ∈ v.indexes)
    (hi' : i' ∈ v.indexes.map next) (hd : i'.descriptor = i.descriptor) : i' = next i := by
  obtain ⟨j, hj, rfl⟩ := List.mem_map.mp hi'
  rw [h.eq_of_descriptor_eq hi hj ((hnext j hj).symm.trans hd)]

/-- How a removal ends. -/
theorem Consistent.remove_cases (h : v.Consistent) (hplain : v.config.customExtractor = none)
    (hrecord : v.record id = some old) :
    ((∀ i ∈ v.indexes, ¬ (v.eraseRecord id).RefusesRemoval old i) ∧
        (v.remove id old).1 = .ok ()) ∨
      ∃ before after e next,
        StopsAt ((v.eraseRecord id).RefusesRemoval old) v.indexes before after ∧
          v.remove id old = (.error e, v.withIndexes (v.indexes.map next)) ∧
          ∀ i ∈ v.indexes, (v.eraseRecord id).Halted id old (i ∈ before) i (next i) := by
  have hown : ∀ e ∈ (v.eraseRecord id).records, e.2.id = .ok (some e.1) :=
    fun e he => h.own e ((mem_eraseRecord h.sorted).mp he).1
  unfold View.remove
  rcases forgetEach_spec (w := v.eraseRecord id) hplain (h.extends_self hrecord).own hown h.nodup
      fun i hi => (h.keeps i hi).wellFormed with
    ⟨hnone, next, hloop, -⟩ | ⟨before, after, e, next, hstops, hloop, hhalted⟩
  · rw [hloop]
    exact Or.inl ⟨hnone, rfl⟩
  · rw [hloop]
    exact Or.inr ⟨before, after, e, next, hstops, rfl, hhalted⟩

/-- How an update ends. -/
theorem Consistent.update_cases (h : v.Consistent) (hplain : v.config.customExtractor = none)
    (hrecord : v.record id = some old) (hnew : new.id = .ok (some id)) :
    ((∀ i ∈ v.indexes, ¬ (v.setRecord id new).RefusesRemoval old i ∧
        ¬ (v.setRecord id new).RefusesWrite id new i) ∧ (v.update id old new).1 = .ok ()) ∨
      (∃ before after e next,
        StopsAt ((v.setRecord id new).RefusesRemoval old) v.indexes before after ∧
          v.update id old new = (.error e, v.withIndexes (v.indexes.map next)) ∧
          ∀ i ∈ v.indexes, (v.setRecord id new).Halted id old (i ∈ before) i (next i)) ∨
      ((∀ i ∈ v.indexes, ¬ (v.setRecord id new).RefusesRemoval old i) ∧
        ∃ before after e next,
          StopsAt ((v.setRecord id new).RefusesWrite id new) v.indexes before after ∧
            v.update id old new = (.error e, v.withIndexes (v.indexes.map next)) ∧
            ∀ i ∈ v.indexes, (v.setRecord id new).Undone id old new (i ∈ before)
              (∀ j ∈ v.indexes, ¬ (v.setRecord id new).RefusesRestore id old j) i (next i)) := by
  have hext : Extends (v.eraseRecord id) (v.setRecord id new) id new :=
    extends_setRecord h.sorted hnew
  have hown := hext.own_of fun e he => h.own e ((mem_eraseRecord h.sorted).mp he).1
  -- the records are those of the update already when the indexes are gone through
  have hcases := replaceEach_cases (w := v.setRecord id new) hplain (h.extends_self hrecord).own
    hext (apart_eraseRecord h.sorted id) hown h.nodup fun i hi => (h.keeps i hi).wellFormed
  unfold View.update
  rcases hcases with ⟨hnone, hloop⟩ | ⟨before, after, e, next, hstops, hloop, hhalted⟩ |
    ⟨hnone, before, after, e, next, hstops, hloop, hundone⟩
  · refine Or.inl ⟨hnone, ?_⟩
    rcases hrun : (v.setRecord id new).replaceEach old new v.indexes with ⟨_ | _, is⟩
    · rw [hrun] at hloop
      cases hloop
    · rfl
  · rw [hloop]
    exact Or.inr (Or.inl ⟨before, after, e, next, hstops, rfl, hhalted⟩)
  · rw [hloop]
    exact Or.inr (Or.inr ⟨hnone, before, after, e, next, hstops, rfl, hundone⟩)

end View

end DocumentDb
