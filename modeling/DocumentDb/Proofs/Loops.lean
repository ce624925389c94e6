import DocumentDb.Proofs.Index.Exact
import DocumentDb.Proofs.View

/-!
# `DocumentDb.Proofs.Loops`: how far the loops over the indexes come

A loop over the indexes goes on until an index refuses. `View.forgetEach_cases` and
`View.writeEach_cases` split the indexes there: those before have taken the step, the one
that refused stands where its own step left it, and those after it are untouched.

What one step does to one index depends on its flags: an index at rest is rebuilt or passed
by, any other gets the entries added or removed. `View.rebuild_spec` says so in terms of
exactness, `View.forget_removes` to `View.retracted_removes` in terms of the ids at each
place.
-/

set_option autoImplicit false

namespace DocumentDb.View

variable {v : View} {doc : Document} {id : RecordId} {i : IndexState} {is : List IndexState}

/-! ### Where a loop stops -/

/-- An index after the loop that writes has gone back over it. -/
def retracted (v : View) (doc : Document) (i : IndexState) : IndexState :=
  match (v.bringUp doc).perform i with
  | (.ok true, i') => i'.undone v.config doc
  | (_, i') => i'

/-- The loop that forgets either goes through all indexes, or stops at the first one that refuses,
which has changed by then. Those after it are as they were. -/
theorem forgetEach_cases (v : View) (doc : Document) (is : List IndexState) :
    ((∀ i ∈ is, ((v.forget doc).perform i).1 = .ok ()) ∧
        v.forgetEach doc is = (.ok (), is.map fun i => ((v.forget doc).perform i).2)) ∨
      ∃ before i after e, is = before ++ i :: after ∧
        (∀ j ∈ before, ((v.forget doc).perform j).1 = .ok ()) ∧
        ((v.forget doc).perform i).1 = .error e ∧
        v.forgetEach doc is = (.error e,
          (before.map fun j => ((v.forget doc).perform j).2) ++
            ((v.forget doc).perform i).2 :: after) := by
  induction is with
  | nil => exact Or.inl ⟨by simp, rfl⟩
  | cons i rest ih =>
    rw [forgetEach]
    rcases hrun : (v.forget doc).perform i with ⟨e | _, i'⟩
    · exact Or.inr ⟨[], i, rest, e, rfl, by simp, by rw [hrun], by simp [hrun]⟩
    · rcases ih with ⟨hall, hloop⟩ | ⟨before, k, after, e, rfl, hbefore, hk, hloop⟩
      · refine Or.inl ⟨List.forall_mem_cons.mpr ⟨by rw [hrun], hall⟩, ?_⟩
        simp only [hloop, List.map_cons, hrun]
      · refine Or.inr ⟨i :: before, k, after, e, rfl,
          List.forall_mem_cons.mpr ⟨by rw [hrun], hbefore⟩, hk, ?_⟩
        simp only [hloop, List.map_cons, hrun, List.cons_append]

/-- So does the loop that writes, but at a refusal it takes back what it wrote to the indexes
before. -/
theorem writeEach_cases (v : View) (doc : Document) (is : List IndexState) :
    ((∀ i ∈ is, ∃ has, ((v.bringUp doc).perform i).1 = .ok has) ∧
        v.writeEach doc is = (.ok (), is.map fun i => ((v.bringUp doc).perform i).2)) ∨
      ∃ before i after e, is = before ++ i :: after ∧
        (∀ j ∈ before, ∃ has, ((v.bringUp doc).perform j).1 = .ok has) ∧
        ((v.bringUp doc).perform i).1 = .error e ∧
        v.writeEach doc is = (.error e,
          before.map (v.retracted doc) ++ ((v.bringUp doc).perform i).2 :: after) := by
  induction is with
  | nil => exact Or.inl ⟨by simp, rfl⟩
  | cons i rest ih =>
    rw [writeEach]
    rcases hrun : (v.bringUp doc).perform i with ⟨e | has, i'⟩
    · exact Or.inr ⟨[], i, rest, e, rfl, by simp, by rw [hrun], by simp [hrun]⟩
    · rcases ih with ⟨hall, hloop⟩ | ⟨before, k, after, e, rfl, hbefore, hk, hloop⟩
      · refine Or.inl ⟨List.forall_mem_cons.mpr ⟨⟨has, by rw [hrun]⟩, hall⟩, ?_⟩
        simp only [hloop, List.map_cons, hrun]
      · refine Or.inr ⟨i :: before, k, after, e, rfl,
          List.forall_mem_cons.mpr ⟨⟨has, by rw [hrun]⟩, hbefore⟩, hk, ?_⟩
        -- the loop has failed behind `i`, which gives the entries back if it has taken them
        simp only [hloop, List.map_cons, List.cons_append, retracted, hrun]
        cases has <;> rfl

/-- Taking an addition back keeps the descriptor of an index. -/
@[simp] theorem retracted_descriptor (v : View) (doc : Document) (i : IndexState) :
    (v.retracted doc i).descriptor = i.descriptor := by
  rw [retracted, ← bringUp_descriptor v doc i]
  rcases (v.bringUp doc).perform i with ⟨_ | _ | _, i'⟩ <;> simp

/-! ### What holds of all indexes after a loop -/

section related

variable {R : IndexState → IndexState → Prop} {is' : List IndexState}

/-- After a loop that writes has come to its end, every index stands where its step left it. -/
theorem forall₂_writeEach
    (hstep : ∀ i ∈ is, ∀ has i', (v.bringUp doc).perform i = (.ok has, i') → R i i')
    (hrun : v.writeEach doc is = (.ok (), is')) : List.Forall₂ R is is' := by
  rcases v.writeEach_cases doc is with ⟨hall, hloop⟩ | ⟨before, k, after, e, -, -, -, hloop⟩
  · rw [hrun] at hloop
    obtain ⟨-, rfl⟩ := Prod.mk.inj hloop
    refine List.forall₂_map_right_iff.mpr (List.forall₂_same.mpr fun i hi => ?_)
    obtain ⟨has, hok⟩ := hall i hi
    exact hstep i hi has _ (Prod.ext hok rfl)
  · rw [hrun] at hloop
    cases hloop

/-- After one that has been stopped, it has been gone back over, refuses, or is untouched. -/
theorem forall₂_writeEach_refused {e : Error}
    (hretracted : ∀ i ∈ is, R i (v.retracted doc i))
    (hrefused : ∀ i ∈ is, ∀ e i', (v.bringUp doc).perform i = (.error e, i') → R i i')
    (hself : ∀ i ∈ is, R i i) (hrun : v.writeEach doc is = (.error e, is')) :
    List.Forall₂ R is is' := by
  rcases v.writeEach_cases doc is with ⟨-, hloop⟩ | ⟨before, k, after, e', rfl, -, hk, hloop⟩
  · rw [hrun] at hloop
    cases hloop
  · rw [hrun] at hloop
    obtain ⟨-, rfl⟩ := Prod.mk.inj hloop
    refine List.rel_append ?_ (.cons ?_ ?_)
    · exact List.forall₂_map_right_iff.mpr
        (List.forall₂_same.mpr fun i hi => hretracted i (by simp [hi]))
    · exact hrefused k (by simp) e' _ (Prod.ext hk rfl)
    · exact List.forall₂_same.mpr fun i hi => hself i (by simp [hi])

/-- After a loop that removes has come to its end, every index has made its step. -/
theorem forall₂_forgetEach
    (hstep : ∀ i ∈ is, ∀ i', (v.forget doc).perform i = (.ok (), i') → R i i')
    (hrun : v.forgetEach doc is = (.ok (), is')) : List.Forall₂ R is is' := by
  rcases v.forgetEach_cases doc is with ⟨hall, hloop⟩ | ⟨before, k, after, e, -, -, -, hloop⟩
  · rw [hrun] at hloop
    obtain ⟨-, rfl⟩ := Prod.mk.inj hloop
    exact List.forall₂_map_right_iff.mpr
      (List.forall₂_same.mpr fun i hi => hstep i hi _ (Prod.ext (hall i hi) rfl))
  · rw [hrun] at hloop
    cases hloop

end related

section forall_loops

variable {P : IndexState → Prop} {is' : List IndexState}

/-- What holds of every index after a step on each of them. -/
theorem forall_of_forall₂ (h : List.Forall₂ (fun _ i' => P i') is is') : ∀ i ∈ is', P i := by
  induction h with
  | nil => simp
  | cons hi _ ih => exact List.forall_mem_cons.mpr ⟨hi, ih⟩

/-- What every step of a loop that writes to its end establishes holds of all indexes afterwards. -/
theorem forall_writeEach
    (hstep : ∀ i ∈ is, ∀ has i', (v.bringUp doc).perform i = (.ok has, i') → P i')
    (hrun : v.writeEach doc is = (.ok (), is')) : ∀ i ∈ is', P i :=
  forall_of_forall₂ (forall₂_writeEach hstep hrun)

/-- After a loop that was refused, the indexes before the refusal have been retracted, one has
refused, and the others are as they were. -/
theorem forall_writeEach_refused {e : Error} (hretracted : ∀ i ∈ is, P (v.retracted doc i))
    (hrefused : ∀ i ∈ is, ∀ e i', (v.bringUp doc).perform i = (.error e, i') → P i')
    (hself : ∀ i ∈ is, P i) (hrun : v.writeEach doc is = (.error e, is')) : ∀ i ∈ is', P i :=
  forall_of_forall₂ (forall₂_writeEach_refused hretracted hrefused hself hrun)

/-- What every step of a loop that forgets establishes holds of all indexes afterwards. -/
theorem forall_forgetEach
    (hstep : ∀ i ∈ is, ∀ i', (v.forget doc).perform i = (.ok (), i') → P i')
    (hrun : v.forgetEach doc is = (.ok (), is')) : ∀ i ∈ is', P i :=
  forall_of_forall₂ (forall₂_forgetEach hstep hrun)

/-- In any case, every index has made its step or is untouched. -/
theorem forall_forgetEach_any (hstep : ∀ i ∈ is, P ((v.forget doc).perform i).2)
    (hself : ∀ i ∈ is, P i) : ∀ i ∈ (v.forgetEach doc is).2, P i := by
  rcases v.forgetEach_cases doc is with ⟨-, hloop⟩ | ⟨before, k, after, e, rfl, -, -, hloop⟩
  · rw [hloop]
    simpa using hstep
  · rw [hloop]
    intro i' hi'
    simp only [List.mem_append, List.mem_map, List.mem_cons] at hi'
    rcases hi' with ⟨i, hi, rfl⟩ | rfl | hi'
    · exact hstep i (by simp [hi])
    · exact hstep k (by simp)
    · exact hself i' (by simp [hi'])

end forall_loops

/-! ### Indexes that are not at rest -/

/-- A step rebuilds an index only if it is at rest; otherwise the flags stay as they are. -/
theorem forget_dirty (hrest : v.atRest i = false) :
    ((v.forget doc).perform i).2.dirty = i.dirty := by
  rw [perform_forget_remove hrest, IndexState.remove_dirty]

/-- Nor does a step that writes change the flag of an index that is not at rest. -/
theorem bringUp_dirty (doc : Document) (hrest : v.atRest i = false) :
    ((v.bringUp doc).perform i).2.dirty = i.dirty := by
  rw [perform_bringUp_add hrest, IndexState.add_dirty]

/-- Nor does taking such a step back. -/
theorem retracted_dirty (hrest : v.atRest i = false) :
    (v.retracted doc i).dirty = i.dirty := by
  rw [retracted, ← bringUp_dirty doc hrest]
  rcases (v.bringUp doc).perform i with ⟨_ | _ | _, i'⟩ <;>
    simp [IndexState.undone]

/-- An index that is to be relied on is clean, so it is not at rest. -/
theorem atRest_of_trusts (htrusts : v.trusts i = true) : v.atRest i = false := by
  simp only [trusts, Bool.and_eq_true, Bool.not_eq_true'] at htrusts
  simp [atRest, htrusts.1]

/-- An index at rest is dirty, so it is not to be relied on. -/
theorem trusts_of_atRest (hrest : v.atRest i = true) : v.trusts i = false := by
  simp only [atRest, trusts, Bool.and_eq_true] at hrest ⊢
  simp [hrest.1]

/-- A clean index is not at rest. -/
theorem atRest_of_clean (hclean : i.dirty = false) : v.atRest i = false := by
  rw [atRest, hclean]
  rfl

/-- An index at rest is dirty. -/
theorem dirty_of_atRest (hrest : v.atRest i = true) : i.dirty = true := by
  rw [atRest, Bool.and_eq_true] at hrest
  exact hrest.1

/-- Whether an index is at rest depends on its fields and its flag only. -/
theorem atRest_congr {i' : IndexState} (hd : i'.descriptor = i.descriptor)
    (hdirty : i'.dirty = i.dirty) : v.atRest i' = v.atRest i := by
  rw [atRest, atRest, hd, hdirty]

/-- So does whether it is to be relied on. -/
theorem trusts_congr {i' : IndexState} (hd : i'.descriptor = i.descriptor)
    (hdirty : i'.dirty = i.dirty) : v.trusts i' = v.trusts i := by
  rw [trusts, trusts, hd, hdirty]

/-- Indexes that are to be relied on stay so in the loops. -/
theorem trusts_forgetEach (doc : Document) (his : ∀ i ∈ is, v.trusts i = true) :
    ∀ i ∈ (v.forgetEach doc is).2, v.trusts i = true := by
  refine forall_forgetEach_any (fun i hi => ?_) his
  have hdirty : ((v.forget doc).perform i).2.dirty = i.dirty :=
    forget_dirty (atRest_of_trusts (his i hi))
  exact (trusts_congr (forget_descriptor v doc i) hdirty).trans (his i hi)

/-- The loop that writes keeps them so as well, to its end or to a refusal. -/
theorem trusts_writeEach (doc : Document) (his : ∀ i ∈ is, v.trusts i = true) :
    ∀ i ∈ (v.writeEach doc is).2, v.trusts i = true := by
  have hstep : ∀ i ∈ is, v.trusts ((v.bringUp doc).perform i).2 = true := fun i hi =>
    (trusts_congr (bringUp_descriptor v doc i)
      (bringUp_dirty doc (atRest_of_trusts (his i hi)))).trans (his i hi)
  rcases hrun : v.writeEach doc is with ⟨e | _, is'⟩
  · refine forall_writeEach_refused (fun i hi => ?_) (fun i hi e i' hone => ?_) his hrun
    · exact (trusts_congr (retracted_descriptor v doc i)
        (retracted_dirty (atRest_of_trusts (his i hi)))).trans (his i hi)
    · have hi' := hstep i hi
      rwa [hone] at hi'
  · refine forall_writeEach (fun i hi has i' hone => ?_) hrun
    have hi' := hstep i hi
    rwa [hone] at hi'

/-- The records count only where an index is rebuilt. -/
theorem writeEach_congr {w : View} (hconfig : w.config = v.config) (hheld : w.held = v.held)
    (his : ∀ i ∈ is, v.trusts i = true) : w.writeEach doc is = v.writeEach doc is := by
  induction is with
  | nil => rfl
  | cons i rest ih =>
    have hrest : v.atRest i = false := atRest_of_trusts (his i List.mem_cons_self)
    have hrest' : w.atRest i = false := by
      rw [← hrest, atRest, atRest, isBuilding, isBuilding, hheld]
    have hone : (w.bringUp doc).perform i = (v.bringUp doc).perform i := by
      rw [perform_bringUp_add hrest, perform_bringUp_add hrest', hconfig]
    rw [writeEach, writeEach, hone, ih fun j hj => his j (List.mem_cons_of_mem _ hj), hconfig]

/-! ### What one step does -/

section steps

variable (hplain : v.config.customExtractor = none)
  (hown : ∀ e ∈ v.records, e.2.id = .ok (some e.1)) (hi : i.WellFormed)

include hplain hi

include hown in
/-- A rebuild comes to its end exactly when the index can be built from the records. -/
theorem rebuild_spec :
    (i.descriptor.Buildable v.config.tokenizer v.records ∧
        ∃ i', v.rebuild.perform i = (.ok (), i') ∧ i'.dirty = false ∧
          i'.Exact v.config v.records) ∨
      (¬ i.descriptor.Buildable v.config.tokenizer v.records ∧
        ∃ e i', v.rebuild.perform i = (.error e, i') ∧ i'.dirty = true ∧ i'.WellFormed) :=
  hi.fill_spec hplain hown nofun

include hown in
/-- A rebuild leaves a well formed index, whether it comes to its end or not. -/
theorem wellFormed_rebuild : (v.rebuild.perform i).2.WellFormed := by
  rcases rebuild_spec hplain hown hi with ⟨-, i', hrun, -, hexact⟩ | ⟨-, e, i', hrun, -, hwf⟩
  · rw [hrun]
    exact hexact.wellFormed
  · rw [hrun]
    exact hwf

include hown in
/-- Whatever comes of it, a step leaves a well formed index. -/
theorem wellFormed_forget (hid : doc.id = .ok (some id)) :
    ((v.forget doc).perform i).2.WellFormed := by
  cases hrest : v.atRest i with
  | true =>
    cases hrebuild : v.config.rebuildDirtyOnWrite with
    | true =>
      rw [perform_forget_rest hrest hrebuild]
      exact wellFormed_rebuild hplain hown hi
    | false =>
      rw [perform_forget_stay hrest hrebuild]
      exact hi
  | false =>
    obtain ⟨r, i', hrun, -, hwf, -⟩ := hi.remove_spec hplain hid
    rw [perform_forget_remove hrest, hrun]
    exact hwf

include hown in
/-- So does a step that writes. -/
theorem wellFormed_bringUp (hid : doc.id = .ok (some id)) :
    ((v.bringUp doc).perform i).2.WellFormed := by
  cases hrest : v.atRest i with
  | true =>
    cases hrebuild : v.config.rebuildDirtyOnWrite with
    | true =>
      rw [perform_bringUp_rest hrest hrebuild]
      exact wellFormed_rebuild hplain hown hi
    | false =>
      rw [perform_bringUp_stay hrest hrebuild]
      exact hi
  | false =>
    rw [perform_bringUp_add hrest]
    rcases hi.add_spec hplain hid with ⟨-, e, hrun⟩ | ⟨i', -, hrun, hwf, -⟩
    · rw [hrun]
      exact hi
    · rw [hrun]
      exact hwf

include hown in
/-- So does a step that writes and is taken back. -/
theorem wellFormed_retracted (hid : doc.id = .ok (some id)) : (v.retracted doc i).WellFormed := by
  have hwf := wellFormed_bringUp hplain hown hi hid
  unfold retracted
  rcases hrun : (v.bringUp doc).perform i with ⟨e | has, i'⟩ <;> rw [hrun] at hwf
  · exact hwf
  · cases has with
    | true => exact (IndexState.WellFormed.undone_spec hwf hplain hid).1
    | false => exact hwf

variable (hid : doc.id = .ok (some id)) (hrest : v.atRest i = false)

include hid hrest

/-- Making an index forget a document that it takes no places of is an error, and otherwise
removes the entries of the document. -/
theorem forget_removes :
    (((v.forget doc).perform i).1 = .ok () ↔ doc.Indexable v.config.tokenizer i.descriptor) ∧
      IndexState.Rewrites id i ((v.forget doc).perform i).2 fun p =>
        id ∈ i.content.idsAt p ∧ ¬ doc.BelongsAt v.config.tokenizer i.descriptor p := by
  obtain ⟨r, i', hrun, hok, hwf, hmem⟩ := hi.remove_spec hplain hid
  have hd := IndexState.remove_descriptor v.config doc i
  have hdirty := IndexState.remove_dirty v.config doc i
  rw [perform_forget_remove hrest]
  rw [hrun] at hd hdirty ⊢
  refine ⟨hok, hwf, hd, hdirty, fun p x => ?_⟩
  rw [hmem]
  by_cases hx : x = id
  · simp [hx]
  · simp [hx]

/-- An index that does not take a document stays as it is. -/
theorem bringUp_refuses (htakes : ¬ i.Takes v.config id doc) :
    ∃ e, (v.bringUp doc).perform i = (.error e, i) := by
  rw [perform_bringUp_add hrest]
  rcases hi.add_spec hplain hid with ⟨-, e, hrun⟩ | ⟨i', htakes', -⟩
  · rw [hrun]
    exact ⟨e, rfl⟩
  · exact absurd htakes' htakes

/-- An index that takes a document gets its entries. -/
theorem bringUp_adds (htakes : i.Takes v.config id doc) :
    ∃ i', (v.bringUp doc).perform i = (.ok true, i') ∧
      IndexState.Rewrites id i i' fun p =>
        id ∈ i.content.idsAt p ∨ doc.BelongsAt v.config.tokenizer i.descriptor p := by
  rw [perform_bringUp_add hrest]
  rcases hi.add_spec hplain hid with ⟨hnot, -⟩ | ⟨i', -, hrun, hwf, hmem⟩
  · exact absurd htakes hnot
  · have hd := IndexState.add_descriptor v.config doc i
    have hdirty := IndexState.add_dirty v.config doc i
    rw [hrun] at hd hdirty ⊢
    refine ⟨i', rfl, hwf, hd, hdirty, fun p x => ?_⟩
    rw [hmem]
    by_cases hx : x = id
    · simp [hx]
    · simp [hx]

/-- Going back over such an index takes all places of the document away, those that the index
had before as well. -/
theorem retracted_removes (htakes : i.Takes v.config id doc) :
    IndexState.Rewrites id i (v.retracted doc i) fun p =>
      id ∈ i.content.idsAt p ∧ ¬ doc.BelongsAt v.config.tokenizer i.descriptor p := by
  obtain ⟨i', hrun, hadds⟩ := bringUp_adds hplain hi hid hrest htakes
  obtain ⟨hwf, hmem⟩ := hadds.wellFormed.undone_spec hplain hid
  have hd := i'.undone_descriptor v.config doc
  have hdirty : (i'.undone v.config doc).dirty = i'.dirty := IndexState.remove_dirty _ _ _
  rw [retracted, hrun]
  refine hadds.trans ⟨hwf, hd, hdirty, fun p x => ?_⟩
  rw [hmem, hadds.mem_iff, hadds.descriptor_eq]
  by_cases hx : x = id
  · simp only [hx]
    tauto
  · simp [hx]

end steps

end DocumentDb.View
