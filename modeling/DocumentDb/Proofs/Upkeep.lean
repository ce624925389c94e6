import DocumentDb.Index.Upkeep
import DocumentDb.Proofs.Lifecycle

/-!
# `DocumentDb.Proofs.Upkeep`: upkeep of indexes seen from the view

The loops that write, remove and replace the entries of a document walk the list of
descriptors that the catalog gave at the beginning. `does_writeEntries`,
`does_removeEntries` and `does_updateEntries` prove that they do to the view what
`View.writeEach`, `View.forgetEach` and `View.replaceEach` do to its indexes one by one.

The step of each loop concerns one index and is a lemma of its own (`bringUp_spec`,
`does_forget`). The loop that writes goes back to the handles of the indexes it has written
when a later one refuses; `Written` is its invariant on these handles, and `does_rollBack`
describes the walk back.
-/

set_option autoImplicit false

namespace DocumentDb.Session

variable {σ α : Type} {s : Session σ} {i : IndexState}

/-! ### One index -/

/-- An operation on the values of an index's fields. -/
theorem does_valuesOf_bind {doc : Document} {fields : FieldPath}
    {f : FieldValues → SessionM σ α} {r : Result α} {v : View}
    (hf : Does (do
      let vs ← Action.ofResult (s.view.config.extractor doc fields)
      f vs) s r v) :
    Does (Indexing.valuesOf doc fields >>= f) s r v := by
  obtain ⟨s', hs', hreach⟩ := hf
  refine ⟨s', ?_, hreach⟩
  rw [← hs']
  simp only [Indexing.valuesOf, Action.perform_bind, perform_here, Action.perform_ofResult]
  rfl

/-- Settling a dirty index at rest rebuilds it, or passes it by. -/
theorem does_settle (h : s.Sound) (hi : i ∈ s.view.indexes) (hrest : s.view.atRest i = true) :
    Does (Indexing.settle Listener.silent i.descriptor) s
      (if s.view.config.rebuildDirtyOnWrite then (s.view.rebuild.perform i).1.map fun _ => true
        else .ok true)
      (if s.view.config.rebuildDirtyOnWrite then s.view.put (s.view.rebuild.perform i).2
        else s.view) := by
  have hfree : s.view.isBuilding i.descriptor.fields = false := by
    simp only [View.atRest, Bool.and_eq_true, Bool.not_eq_true'] at hrest
    exact hrest.2
  refine does_here_bind ?_
  have hconfig : s.collection.config = s.view.config := rfl
  rw [hconfig]
  cases s.view.config.rebuildDirtyOnWrite with
  | true => exact does_tryBuild h hi hfree true
  | false => exact does_pure h true

/-- Writing a document to an index by its descriptor, which gives the handle. -/
theorem writeEntry_spec (h : s.Sound) (hi : i ∈ s.view.indexes) (doc : Document) :
    ∃ r s', (Indexing.writeEntry doc i.descriptor).perform s = (r, s') ∧
      Reaches s s' (s.view.put ((IndexState.add s.view.config doc).perform i).2) ∧
      (r.map fun _ => ()) = ((IndexState.add s.view.config doc).perform i).1 ∧
      ∀ x, r = .ok x → s'.Serves x i.descriptor := by
  obtain ⟨x, s₁, hs₁, hreach₁, hx⟩ := h.handle hi
  have hi₁ : i ∈ s₁.view.indexes := by rwa [hreach₁.view]
  obtain ⟨s₂, hs₂, hreach₂⟩ := does_valuesOf_bind (does_add hreach₁.sound hi₁ hx doc)
  rw [hreach₁.view] at hs₂ hreach₂
  have hrun : (Indexing.writeEntry doc i.descriptor).perform s
      = (((IndexState.add s.view.config doc).perform i).1.map fun _ => x, s₂) := by
    unfold Indexing.writeEntry
    rw [Action.perform_bind, hs₁]
    dsimp only
    rw [← bind_assoc, Action.perform_bind, hs₂]
    rcases ((IndexState.add s.view.config doc).perform i).1 with _ | _ <;> rfl
  refine ⟨_, s₂, hrun, hreach₁.trans hreach₂, ?_, fun y hy => ?_⟩
  · rcases ((IndexState.add s.view.config doc).perform i).1 with _ | _ <;> rfl
  · obtain ⟨-, -, rfl⟩ := Result.map_eq_ok_iff.mp hy
    exact hreach₂.serves _ _ hx

/-- Bringing an index up to a document gives its handle exactly when the index has the
entries of the document afterwards. -/
theorem bringUp_spec (h : s.Sound) (hi : i ∈ s.view.indexes) (doc : Document) :
    ∃ r s', (Indexing.bringUp Listener.silent doc i.descriptor (s.view.atRest i)).perform s
        = (r, s') ∧
      Reaches s s' (s.view.put ((s.view.bringUp doc).perform i).2) ∧
      r.map Option.isSome = ((s.view.bringUp doc).perform i).1 ∧
      ∀ x, r = .ok (some x) → s'.Serves x i.descriptor := by
  unfold Indexing.bringUp
  cases hrest : s.view.atRest i with
  | false =>
    obtain ⟨r, s', hs', hreach, hr, hserves⟩ := writeEntry_spec h hi doc
    rw [View.perform_bringUp_add hrest, ← hr]
    simp only [Bool.false_eq_true, if_false, Action.perform_bind, hs']
    rcases r with e | x
    · exact ⟨_, s', rfl, hreach, rfl, by simp⟩
    · refine ⟨_, s', rfl, hreach, rfl, fun y hy => ?_⟩
      simp only [Except.ok.injEq, Option.some.injEq] at hy
      exact hserves y (by rw [hy])
  | true =>
    have hsettle := does_settle h hi hrest
    cases hrebuild : s.view.config.rebuildDirtyOnWrite with
    | false =>
      obtain ⟨s₁, hs₁, hreach₁⟩ := hsettle
      simp only [hrebuild, Bool.false_eq_true, if_false] at hs₁ hreach₁
      have hconfig : s₁.collection.config.rebuildDirtyOnWrite = false := by
        have hkept := congrArg (fun v : View => v.config.rebuildDirtyOnWrite) hreach₁.view
        exact hkept.trans hrebuild
      -- passed by, so there is no handle to go back over
      rw [View.perform_bringUp_stay hrest hrebuild, View.put_self h.nodup_fields hi]
      simp only [if_true, Action.perform_bind, hs₁, perform_here, hconfig, Bool.false_eq_true,
        if_false, Action.perform_pure]
      exact ⟨_, s₁, rfl, hreach₁, rfl, by simp⟩
    | true =>
      obtain ⟨s₁, hs₁, hreach₁⟩ := hsettle
      simp only [hrebuild, if_true] at hs₁ hreach₁
      have hconfig : s₁.collection.config.rebuildDirtyOnWrite = true := by
        have hkept := congrArg (fun v : View => v.config.rebuildDirtyOnWrite) hreach₁.view
        exact hkept.trans hrebuild
      -- rebuilt from the records, and the handle is opened again
      rw [View.perform_bringUp_rest hrest hrebuild]
      have hd := View.rebuild_descriptor s.view i
      rcases hrun : s.view.rebuild.perform i with ⟨_ | _, i'⟩
      · rw [hrun] at hs₁ hreach₁
        simp only [if_true, Action.perform_bind, hs₁, Except.map]
        exact ⟨_, s₁, rfl, hreach₁, rfl, by simp⟩
      · rw [hrun] at hs₁ hreach₁ hd
        dsimp only at hd
        have hi₁ : i' ∈ s₁.view.indexes := by
          rw [hreach₁.view]
          exact View.mem_put hi (by rw [hd])
        obtain ⟨x, s₂, hs₂, hreach₂, hx⟩ := hreach₁.sound.handle hi₁
        rw [hd] at hs₂ hx
        rw [hreach₁.view] at hreach₂
        simp only [if_true, Action.perform_bind, hs₁, Except.map, perform_here, hconfig, hs₂,
          Action.perform_pure]
        refine ⟨_, s₂, rfl, hreach₁.trans hreach₂, rfl, fun y hy => ?_⟩
        simp only [Except.ok.injEq, Option.some.injEq] at hy
        exact hy ▸ hx

/-- The step of the loop that removes entries. -/
def forget (doc : Document) (d : IndexDescriptor) (dirty : Bool) : SessionM σ Unit := do
  let settled ← (if dirty then Indexing.settle Listener.silent d else pure false)
  if !settled then
    let vs ← Indexing.valuesOf doc d.fields
    let h ← Indexing.handle d
    onStore (h.erase vs)

/-- The loop that removes entries, one step of it. -/
theorem removeEach_cons (doc : Document) (d : IndexDescriptor) (ds : List IndexDescriptor) :
    (Indexing.removeEach Listener.silent doc (d :: ds) : SessionM σ Unit)
      = Indexing.shouldRebuild d.fields >>= fun dirty =>
          forget doc d dirty >>= fun _ => Indexing.removeEach Listener.silent doc ds := by
  rw [Indexing.removeEach]
  refine bind_congr fun dirty => ?_
  rw [forget, bind_assoc]
  cases dirty <;>
    · refine bind_congr fun settled => ?_
      cases settled <;> simp

/-- Forgetting a document in one index. -/
theorem does_forget (h : s.Sound) (hi : i ∈ s.view.indexes) (doc : Document) :
    Does (forget doc i.descriptor (s.view.atRest i)) s
      ((s.view.forget doc).perform i).1 (s.view.put ((s.view.forget doc).perform i).2) := by
  unfold forget
  cases hrest : s.view.atRest i with
  | true =>
    -- a dirty index at rest is built anew, or left as it is, instead of losing entries
    have hsettle := does_settle h hi hrest
    simp only [if_true]
    cases hrebuild : s.view.config.rebuildDirtyOnWrite with
    | true =>
      rw [View.perform_forget_rest hrest hrebuild]
      simp only [hrebuild, if_true] at hsettle
      rcases hrun : s.view.rebuild.perform i with ⟨_ | _, i'⟩
      · rw [hrun] at hsettle
        exact hsettle.bind_error
      · rw [hrun] at hsettle
        exact hsettle.bind_ok fun _ hs₁ => hs₁.pure ()
    | false =>
      rw [View.perform_forget_stay hrest hrebuild, View.put_self h.nodup_fields hi]
      simp only [hrebuild, Bool.false_eq_true, if_false] at hsettle
      exact hsettle.bind_ok fun _ hs₁ => hs₁.pure ()
  | false =>
    rw [View.perform_forget_remove hrest]
    refine (does_pure h false).bind_ok fun s₁ hs₁ => ?_
    have hi₁ : i ∈ s₁.view.indexes := by rwa [hs₁.view]
    rw [← hs₁.view]
    refine does_valuesOf_bind ?_
    cases hvs : s₁.view.config.extractor doc i.descriptor.fields with
    | error e =>
      rw [IndexState.perform_remove_error hvs, View.put_self hs₁.sound.nodup_fields hi₁]
      exact (does_ofResult hs₁.sound _).bind_error
    | ok vs =>
      rw [IndexState.perform_remove_ok hvs]
      refine (does_ofResult hs₁.sound _).bind_ok fun s₂ hs₂ => ?_
      have hi₂ : i ∈ s₂.view.indexes := by rwa [hs₂.view]
      refine hs₂.sound.handle_bind hi₂ fun x s₃ hs₃ hx => ?_
      rw [hs₂.view] at hs₃
      have hi₃ : i ∈ s₃.view.indexes := by rwa [hs₃.view]
      have herase := does_erase hs₃.sound hi₃ hx vs
      rw [hs₃.view] at herase
      exact herase

/-! ### Taking entries back -/

/-- The handles that the loop keeps in order to go back over them: each serves one of the indexes,
and no two of them the same one. -/
structure Written (s : Session σ) (is : List IndexState)
    (written : List (IndexHandle × FieldPath)) : Prop where
  serves : ∀ p ∈ written, ∃ i ∈ is, i.descriptor.fields = p.2 ∧ s.Serves p.1 i.descriptor
  nodup : (written.map (·.2)).Nodup

namespace Written

variable {s₁ : Session σ} {is before rest : List IndexState}
  {written : List (IndexHandle × FieldPath)}

/-- Before the loop, no handle is kept. -/
theorem nil : s.Written is [] :=
  ⟨nofun, List.nodup_nil⟩

/-- The handles go on serving their indexes. -/
theorem reaches (h : s.Written before written) {v : View} (hreach : Reaches s s₁ v)
    (hsub : ∀ i ∈ before, i ∈ is) : s₁.Written is written := by
  refine ⟨fun p hp => ?_, h.nodup⟩
  obtain ⟨j, hj, hjf, hjx⟩ := h.serves p hp
  exact ⟨j, hsub j hj, hjf, hreach.serves _ _ hjx⟩

/-- The indexes to come are none of those that the handles serve. -/
theorem not_mem (h : s.Written before written)
    (hnodup : ((before ++ rest).map fun i => i.descriptor.fields).Nodup) :
    ∀ j ∈ rest, j.descriptor.fields ∉ written.map (·.2) := by
  intro j hj hmem
  obtain ⟨p, hp, hpf⟩ := List.mem_map.mp hmem
  obtain ⟨k, hk, hkf, -⟩ := h.serves p hp
  rw [List.map_append, List.nodup_append] at hnodup
  exact hnodup.2.2 _ (List.mem_map_of_mem hk) _ (List.mem_map_of_mem hj) (hkf.trans hpf)

/-- One index more, with its handle if it has given one. -/
theorem append (h : s.Written before written) (hnew : i.descriptor.fields ∉ written.map (·.2))
    {x : Option IndexHandle} (hx : ∀ y, x = some y → s.Serves y i.descriptor) :
    s.Written (before ++ [i]) (written ++ x.toList.map fun x => (x, i.descriptor.fields)) where
  serves p hp := by
    rcases List.mem_append.mp hp with hp | hp
    · obtain ⟨j, hj, hjf, hjx⟩ := h.serves p hp
      exact ⟨j, List.mem_append_left _ hj, hjf, hjx⟩
    · obtain ⟨y, hy, rfl⟩ := List.mem_map.mp hp
      exact ⟨i, List.mem_append_right _ List.mem_cons_self, rfl, hx y (Option.mem_toList.mp hy)⟩
  nodup := by
    rw [List.map_append, List.nodup_append]
    refine ⟨h.nodup, ?_, ?_⟩
    · cases x <;> simp
    · rintro f hf g hg rfl
      simp only [List.map_map, List.mem_map, Function.comp_apply] at hg
      obtain ⟨y, hy, rfl⟩ := hg
      exact hnew hf

end Written

/-- Taking a document back from one index and then from others is taking it back from all of
them. -/
theorem withIndexes_takeBack_put {v : View}
    (hdistinct : (v.indexes.map fun i => i.descriptor.fields).Nodup) (hi : i ∈ v.indexes)
    (doc : Document) {fields : List FieldPath} (hnew : i.descriptor.fields ∉ fields) :
    (v.put (i.undone v.config doc)).withIndexes
        (v.takeBack doc fields (v.put (i.undone v.config doc)).indexes)
      = v.withIndexes (v.takeBack doc (i.descriptor.fields :: fields) v.indexes) := by
  have hd := i.undone_descriptor v.config doc
  refine congrArg v.withIndexes ?_
  unfold View.put View.takeBack
  rw [List.map_map]
  refine List.map_congr_left fun j hj => ?_
  dsimp only [Function.comp_apply]
  rw [hd]
  by_cases hjf : j.descriptor.fields = i.descriptor.fields
  · obtain rfl := List.inj_on_of_nodup_map hdistinct hj hi hjf
    rw [if_pos rfl, hd, if_neg hnew, if_pos List.mem_cons_self]
  · rw [if_neg hjf]
    simp only [List.mem_cons, hjf, false_or]

/-- Going back over handles takes the entries of a document back from their indexes. -/
theorem does_rollBack (h : s.Sound) (doc : Document) {written : List (IndexHandle × FieldPath)}
    (hwritten : s.Written s.view.indexes written) :
    Does (Indexing.rollBack doc written) s (.ok ())
      (s.view.withIndexes (s.view.takeBack doc (written.map (·.2)) s.view.indexes)) := by
  induction written generalizing s with
  | nil =>
    refine ⟨s, rfl, h, ?_, fun _ _ hx => hx⟩
    rw [List.map_nil, View.takeBack_nil, View.withIndexes_self]
  | cons p written ih =>
    obtain ⟨x, fields⟩ := p
    obtain ⟨i, hi, hfields, hx⟩ := hwritten.serves _ List.mem_cons_self
    have hnodup := hwritten.nodup
    rw [List.map_cons, List.nodup_cons] at hnodup
    dsimp only at hfields hx hnodup
    subst hfields
    have hremove := (does_valuesOf_bind (does_remove h hi hx doc)).attempt
    refine hremove.bind_ok fun s₁ hs₁ => ?_
    -- the handles that are left serve other indexes, which have stayed as they were
    have hrest : s₁.Written s₁.view.indexes written := by
      refine ⟨fun p hp => ?_, hnodup.2⟩
      obtain ⟨j, hj, hjf, hjx⟩ := hwritten.serves p (List.mem_cons_of_mem _ hp)
      have hne : j.descriptor.fields ≠ i.descriptor.fields := by
        rw [hjf]
        intro heq
        rw [← heq] at hnodup
        exact hnodup.1 (List.mem_map_of_mem hp)
      refine ⟨j, ?_, hjf, hs₁.serves _ _ hjx⟩
      rw [hs₁.view]
      refine (View.mem_put_of_ne ?_).mpr hj
      rwa [IndexState.remove_descriptor]
    have hback := ih hs₁.sound hrest
    rw [hs₁.view] at hback
    rw [List.map_cons, ← withIndexes_takeBack_put h.nodup_fields hi doc hnodup.1]
    exact hback

/-! ### The loops -/

section loops

variable {before rest : List IndexState} {i' : IndexState} {ds : List IndexDescriptor}
  {written : List (IndexHandle × FieldPath)}

/-- One step of the loop: the index refuses the document, and the ones that have it give it
back. -/
theorem does_writeEach_refused (h : s.Sound) (doc : Document)
    (hview : s.view.indexes = before ++ i :: rest) (hwritten : s.Written before written) {e : Error}
    (hrun : (s.view.bringUp doc).perform i = (.error e, i')) :
    Does (Indexing.writeEach Listener.silent doc (i.descriptor :: ds) written) s (.error e)
      (s.view.withIndexes (s.view.takeBack doc (written.map (·.2)) before ++ i' :: rest)) := by
  have hi : i ∈ s.view.indexes := by
    rw [hview]
    exact List.mem_append_right _ List.mem_cons_self
  have hd : i'.descriptor = i.descriptor := by
    have hd := View.bringUp_descriptor s.view doc i
    rwa [hrun] at hd
  have hother := hwritten.not_mem (hview ▸ h.nodup_fields)
  have hv₁ : (s.view.put i').indexes = before ++ i' :: rest :=
    View.put_append i' h.nodup_fields hview (congrArg _ hd)
  obtain ⟨r, s₁, hs₁, hreach, hr, -⟩ := bringUp_spec h hi doc
  rw [hrun] at hreach hr
  rcases r with e' | _
  swap
  · cases hr
  obtain rfl : e' = e := Except.error.inj hr
  have hback := does_rollBack hreach.sound doc (hwritten.reaches hreach fun j hj => by
    rw [hreach.view, hv₁]
    exact List.mem_append_left _ hj)
  -- the walk back leaves the indexes from `i` on as they are
  have htaken : s₁.view.takeBack doc (written.map (·.2)) s₁.view.indexes
      = s.view.takeBack doc (written.map (·.2)) before ++ i' :: rest := by
    rw [hreach.view, hv₁, View.takeBack_append]
    congr 1
    refine View.takeBack_eq_self fun j hj => ?_
    rcases List.mem_cons.mp hj with rfl | hj
    · rw [hd]
      exact hother i List.mem_cons_self
    · exact hother j (List.mem_cons_of_mem _ hj)
  rw [htaken, hreach.view] at hback
  obtain ⟨s₂, hs₂, hreach₂⟩ : Does (do
      Indexing.rollBack doc written
      throw e') s₁ (.error e' : Result Unit) _ := hback.bind_ok fun s₂ hs₂ => hs₂.throw e'
  refine ⟨s₂, ?_, hreach.trans hreach₂⟩
  rw [Indexing.writeEach, Action.perform_bind, h.perform_shouldRebuild hi]
  dsimp only
  rw [Action.perform_bind, Action.perform_attempt, hs₁]
  exact hs₂

/-- One step of the loop: the index has been brought up to the document, and counts among the
indexes before from there on. -/
theorem does_writeEach_next (h : s.Sound) (doc : Document)
    (hview : s.view.indexes = before ++ i :: rest) (hwritten : s.Written before written)
    {has : Bool}
    (hrun : (s.view.bringUp doc).perform i = (.ok has, i')) :
    ∃ s₁ written₁, Reaches s s₁ (s.view.put i') ∧ s₁.Written (before ++ [i']) written₁ ∧
      written₁.map (·.2) = written.map (·.2) ++ (if has then [i'.descriptor.fields] else []) ∧
      ∀ ds r v, Does (Indexing.writeEach Listener.silent doc ds written₁) s₁ r v →
        Does (Indexing.writeEach Listener.silent doc (i.descriptor :: ds) written) s r v := by
  have hi : i ∈ s.view.indexes := by
    rw [hview]
    exact List.mem_append_right _ List.mem_cons_self
  have hd : i'.descriptor = i.descriptor := by
    have hd := View.bringUp_descriptor s.view doc i
    rwa [hrun] at hd
  obtain ⟨r, s₁, hs₁, hreach, hr, hserves⟩ := bringUp_spec h hi doc
  rw [hrun] at hreach hr
  rcases r with _ | x
  · cases hr
  obtain rfl : x.isSome = has := Except.ok.inj hr
  -- the index comes once only, so its handle is not among the others yet
  have hnew : i'.descriptor.fields ∉ written.map (·.2) := by
    rw [hd]
    exact hwritten.not_mem (hview ▸ h.nodup_fields) i List.mem_cons_self
  refine ⟨s₁, written ++ x.toList.map fun x => (x, i'.descriptor.fields), hreach, ?_, ?_, ?_⟩
  · refine (hwritten.reaches hreach fun _ hj => hj).append hnew fun y hy => ?_
    rw [hd]
    exact hserves y (congrArg _ hy)
  · cases x <;> simp
  · rintro ds r v ⟨s₂, hs₂, hreach₂⟩
    refine ⟨s₂, ?_, hreach.trans hreach₂⟩
    rw [hd] at hs₂
    rw [Indexing.writeEach, Action.perform_bind, h.perform_shouldRebuild hi]
    dsimp only
    rw [Action.perform_bind, Action.perform_attempt, hs₁]
    exact hs₂

/-- Writing a document to the last indexes, when it has been written to some of those before.
If an index refuses, these take it back. -/
theorem does_writeEach (h : s.Sound) (doc : Document) (before rest : List IndexState)
    (written : List (IndexHandle × FieldPath)) (hview : s.view.indexes = before ++ rest)
    (hwritten : s.Written before written) :
    Does (Indexing.writeEach Listener.silent doc (rest.map (·.descriptor)) written) s
      (s.view.writeEach doc rest).1
      (s.view.withIndexes
        (s.view.rejoin doc (written.map (·.2)) before (s.view.writeEach doc rest))) := by
  induction rest generalizing s before written with
  | nil =>
    rw [List.append_nil] at hview
    refine ⟨s, rfl, h, ?_, fun _ _ hx => hx⟩
    rw [View.writeEach, View.rejoin, List.append_nil, ← hview, View.withIndexes_self]
  | cons i rest ih =>
    have hd := View.bringUp_descriptor s.view doc i
    rcases hrun : (s.view.bringUp doc).perform i with ⟨e | has, i'⟩ <;> rw [hrun] at hd <;>
      dsimp only at hd
    · rw [View.writeEach, hrun]
      exact does_writeEach_refused h doc hview hwritten hrun
    · obtain ⟨s₁, written₁, hreach, hwritten₁, hkeys, hstep⟩ :=
        does_writeEach_next h doc hview hwritten hrun
      have hv₁ : (s.view.put i').indexes = (before ++ [i']) ++ rest := by
        rw [View.put_append i' h.nodup_fields hview (congrArg _ hd), List.append_assoc,
          List.singleton_append]
      have hnext := ih hreach.sound (before ++ [i']) written₁ (by rw [hreach.view, hv₁]) hwritten₁
      have hbefore : ∀ j ∈ before, j.descriptor.fields ≠ i'.descriptor.fields := by
        have hnodup := h.nodup_fields
        rw [hview, List.map_append, List.map_cons, List.nodup_append] at hnodup
        intro j hj
        rw [hd]
        exact hnodup.2.2 _ (List.mem_map_of_mem hj) _ List.mem_cons_self
      have hnew : i'.descriptor.fields ∉ written.map (·.2) := by
        rw [hd]
        exact hwritten.not_mem (hview ▸ h.nodup_fields) i List.mem_cons_self
      -- what becomes of the later indexes does not depend on this one
      have hsame : (s.view.put i').writeEach doc rest = s.view.writeEach doc rest :=
        View.writeEach_withIndexes _ _ _ _
      have hrejoin : ∀ fields p, (s.view.put i').rejoin doc fields (before ++ [i']) p
          = s.view.rejoin doc fields (before ++ [i']) p := by
        rintro fields ⟨_ | _, _⟩ <;> rfl
      rw [hreach.view, hsame, hkeys, hrejoin, View.rejoin_step rest _ before hbefore hnew hrun]
        at hnext
      have hfirst : (s.view.writeEach doc (i :: rest)).1 = (s.view.writeEach doc rest).1 := by
        rw [View.writeEach, hrun]
        rcases s.view.writeEach doc rest with ⟨_ | _, _⟩ <;> rfl
      rw [hfirst]
      exact hstep _ _ _ hnext

/-- Making the last indexes forget a document. -/
theorem does_removeEach (h : s.Sound) (doc : Document) (before rest : List IndexState)
    (hview : s.view.indexes = before ++ rest) :
    Does (Indexing.removeEach Listener.silent doc (rest.map (·.descriptor))) s
      (s.view.forgetEach doc rest).1
      (s.view.withIndexes (before ++ (s.view.forgetEach doc rest).2)) := by
  induction rest generalizing s before with
  | nil =>
    refine ⟨s, rfl, h, ?_, fun _ _ hx => hx⟩
    rw [View.forgetEach, ← hview, View.withIndexes_self]
  | cons i rest ih =>
    have hi : i ∈ s.view.indexes := by
      rw [hview]
      exact List.mem_append_right _ List.mem_cons_self
    have hforget := does_forget h hi doc
    have hd := View.forget_descriptor s.view doc i
    rcases hrun : (s.view.forget doc).perform i with ⟨r, i'⟩
    rw [hrun] at hforget hd
    dsimp only at hforget hd
    -- the list is split at this index, before and after it has forgotten the document
    have hv₁ : (s.view.put i').indexes = before ++ i' :: rest :=
      View.put_append i' h.nodup_fields hview (congrArg _ hd)
    have hput : s.view.put i' = s.view.withIndexes (before ++ i' :: rest) := by
      rw [← hv₁]
      rfl
    rw [hput] at hforget
    have hloop : ∀ r₂ v₂,
        Does (forget doc i.descriptor (s.view.atRest i) >>= fun _ =>
          Indexing.removeEach Listener.silent doc (rest.map (·.descriptor))) s r₂ v₂ →
        Does (Indexing.removeEach Listener.silent doc ((i :: rest).map (·.descriptor)))
          s r₂ v₂ := by
      rintro r₂ v₂ ⟨s₂, hs₂, hreach₂⟩
      refine ⟨s₂, ?_, hreach₂⟩
      rw [← hs₂, List.map_cons, removeEach_cons, Action.perform_bind, h.perform_shouldRebuild hi]
    apply hloop
    rw [View.forgetEach, hrun]
    -- an index that cannot forget the document ends the loop, and the later ones stay as they are
    rcases r with e | _
    · exact hforget.bind_error
    · refine hforget.bind_ok fun s₁ hs₁ => ?_
      have hnext := ih hs₁.sound (before ++ [i']) (by rw [hs₁.view]; simp)
      rw [hs₁.view, View.forgetEach_withIndexes, List.append_assoc, List.singleton_append]
        at hnext
      exact hnext

end loops

/-! ### All indexes -/

/-- Writing the entries of a document. -/
theorem does_writeEntries (h : s.Sound) (doc : Document) :
    Does (Indexing.writeEntries Listener.silent doc) s
      (s.view.writeEach doc s.view.indexes).1
      (s.view.withIndexes (s.view.writeEach doc s.view.indexes).2) := by
  refine (does_list h).bind_ok fun s₁ hs₁ => ?_
  rw [← hs₁.view]
  have hwrite := does_writeEach hs₁.sound doc [] s₁.view.indexes [] rfl .nil
  rcases hrun : s₁.view.writeEach doc s₁.view.indexes with ⟨_ | _, is⟩ <;>
    · rw [hrun] at hwrite
      exact hwrite

/-- Removing the entries of a document. -/
theorem does_removeEntries (h : s.Sound) (doc : Document) :
    Does (Indexing.removeEntries Listener.silent doc) s
      (s.view.forgetEach doc s.view.indexes).1
      (s.view.withIndexes (s.view.forgetEach doc s.view.indexes).2) := by
  refine (does_list h).bind_ok fun s₁ hs₁ => ?_
  rw [← hs₁.view]
  exact does_removeEach hs₁.sound doc [] _ rfl

/-- Replacing the entries of a document. -/
theorem does_updateEntries (h : s.Sound) (old new : Document) :
    Does (Indexing.updateEntries Listener.silent old new) s
      (s.view.replaceEach old new s.view.indexes).1
      (s.view.withIndexes (s.view.replaceEach old new s.view.indexes).2) := by
  have hremove := does_removeEntries h old
  unfold View.replaceEach
  rcases hforget : s.view.forgetEach old s.view.indexes with ⟨e | _, is⟩
  · rw [hforget] at hremove
    exact hremove.bind_error
  · rw [hforget] at hremove
    refine hremove.bind_ok fun s₁ hs₁ => ?_
    have hwrite := (does_writeEntries hs₁.sound new).attempt
    rw [hs₁.view, View.withIndexes_indexes, View.writeEach_withIndexes] at hwrite
    dsimp only
    rcases hnew : s.view.writeEach new is with ⟨e | _, is'⟩
    · rw [hnew] at hwrite
      refine hwrite.bind_ok fun s₂ hs₂ => ?_
      have hrestore := (does_writeEntries hs₂.sound old).attempt
      rw [hs₂.view, View.withIndexes_withIndexes, View.withIndexes_indexes,
        View.writeEach_withIndexes] at hrestore
      exact hrestore.bind_ok fun s₃ hs₃ => hs₃.throw e
    · rw [hnew] at hwrite
      exact hwrite.bind_ok fun s₂ hs₂ => hs₂.pure ()

end DocumentDb.Session
