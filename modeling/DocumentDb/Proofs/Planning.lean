import DocumentDb.Proofs.Consistent
import DocumentDb.Proofs.Query.Optimizer
import DocumentDb.Proofs.Writing

/-!
# `DocumentDb.Proofs.Planning`: what a query does to the indexes

A query rebuilds the dirty indexes that its plan scans, and changes nothing else
(`View.Refreshes`). `View.Prepares` says which ones, and what becomes of them: each is built
anew, up to the first where that fails. `explain_prepares` is the full account of planning a
query, and `explain_spec` draws from it that the indexes of the plan are to be relied on
afterwards.

No index of a plan is withdrawn here: the candidates are not being built, and without a
listener that does anything no build begins before they are prepared.
-/

set_option autoImplicit false

namespace DocumentDb

namespace View

variable {v w u : View} {i : IndexState}

/-- The second view comes of the first by rebuilding dirty indexes at rest. -/
inductive Refreshes (v : View) : View → Prop
  | refl : Refreshes v v
  | rebuilt {w : View} {i : IndexState} (h : Refreshes v w) (hi : i ∈ w.indexes)
      (hrest : w.atRest i = true) : Refreshes v (w.put (w.rebuild.perform i).2)

namespace Refreshes

/-- Rebuilds after rebuilds are rebuilds. -/
theorem trans (h : v.Refreshes w) (h' : w.Refreshes u) : v.Refreshes u := by
  induction h' with
  | refl => exact h
  | rebuilt _ hi hrest ih => exact ih.rebuilt hi hrest

/-- Nothing but indexes changes. -/
theorem eq_withIndexes (h : v.Refreshes w) : w = v.withIndexes w.indexes := by
  induction h with
  | refl => rfl
  | rebuilt h hi hrest ih =>
    rename_i w i
    have hput : w.put (w.rebuild.perform i).2
        = w.withIndexes (w.put (w.rebuild.perform i).2).indexes := rfl
    rw [hput, ih]
    rfl

/-- Rebuilds do not change which indexes are to be relied on, as they change no guard and no
setting. -/
theorem trusts_eq (h : v.Refreshes w) (i : IndexState) : w.trusts i = v.trusts i := by
  rw [h.eq_withIndexes]
  rfl

/-- The fields of the indexes stay as they are. -/
theorem fields_eq (h : v.Refreshes w) : (w.indexes.map fun i => i.descriptor.fields)
    = v.indexes.map fun i => i.descriptor.fields := by
  induction h with
  | refl => rfl
  | rebuilt h hi hrest ih =>
    rw [← ih, put, List.map_map]
    refine List.map_congr_left fun j hj => ?_
    dsimp only [Function.comp_apply]
    split
    · rename_i heq
      exact heq.symm
    · rfl

/-- Every index is there still. -/
theorem exists_mem (h : v.Refreshes w) (hi : i ∈ v.indexes)
    (hdistinct : (v.indexes.map fun i => i.descriptor.fields).Nodup) :
    ∃ i' ∈ w.indexes, i'.descriptor = i.descriptor := by
  induction h with
  | refl => exact ⟨i, hi, rfl⟩
  | rebuilt h hj hrest ih =>
    rename_i w j
    obtain ⟨k, hk, hd⟩ := ih
    by_cases hfields : k.descriptor.fields = j.descriptor.fields
    · have hnodup := h.fields_eq ▸ hdistinct
      obtain rfl : k = j := List.inj_on_of_nodup_map hnodup hk hj hfields
      exact ⟨_, mem_put hj (by rw [rebuild_descriptor]), (rebuild_descriptor w k).trans hd⟩
    · refine ⟨k, (mem_put_of_ne ?_).mpr hk, hd⟩
      rwa [rebuild_descriptor]

/-- Rebuilds keep indexes and records in agreement. -/
theorem consistent (h : v.Refreshes w) (hplain : v.config.customExtractor = none)
    (hv : v.Consistent) : w.Consistent := by
  induction h with
  | refl => exact hv
  | rebuilt h hi hrest ih =>
    rename_i w i
    have hplain' : w.config.customExtractor = none := by
      rw [h.eq_withIndexes]
      exact hplain
    exact ih.rebuild hplain' hi

end Refreshes

/-! ### Preparing indexes -/

/-- Makes an index fit for a scan: a dirty one is built anew. -/
def prepare (v : View) : Action IndexState Unit := do
  if (← get).dirty then v.rebuild else pure ()

/-- Preparing a dirty index is rebuilding it. -/
theorem perform_prepare_dirty (v : View) (hdirty : i.dirty = true) :
    v.prepare.perform i = v.rebuild.perform i := by
  simp only [prepare, Action.perform_bind, Action.perform_get, hdirty, if_true]

/-- A clean index needs no preparation. -/
theorem perform_prepare_clean (v : View) (hclean : i.dirty = false) :
    v.prepare.perform i = (.ok (), i) := by
  simp only [prepare, Action.perform_bind, Action.perform_get, hclean, Bool.false_eq_true, if_false,
    Action.perform_pure]

/-- Preparing an index keeps its descriptor. -/
@[simp] theorem prepare_descriptor (v : View) (i : IndexState) :
    (v.prepare.perform i).2.descriptor = i.descriptor := by
  cases hdirty : i.dirty with
  | true => rw [perform_prepare_dirty v hdirty, rebuild_descriptor]
  | false => rw [perform_prepare_clean v hdirty]

/-- An index that could be prepared is clean. -/
theorem prepare_dirty (hok : (v.prepare.perform i).1 = .ok ()) :
    (v.prepare.perform i).2.dirty = false := by
  cases hdirty : i.dirty with
  | true =>
    rw [perform_prepare_dirty v hdirty] at hok ⊢
    exact IndexState.fill_dirty (Prod.ext hok rfl)
  | false => rwa [perform_prepare_clean v hdirty]

/-- The view after the indexes with the given descriptors have been prepared. -/
def prepared (v : View) (ds : List IndexDescriptor) : View :=
  v.withIndexes (v.indexes.map fun i =>
    if i.descriptor ∈ ds then (v.prepare.perform i).2 else i)

/-- Preparing no index changes nothing. -/
@[simp] theorem prepared_nil (v : View) : v.prepared [] = v := by
  simp [prepared]

/-- An index that is named is there in its prepared state. -/
theorem mem_prepared (hi : i ∈ v.indexes) {ds : List IndexDescriptor} (hd : i.descriptor ∈ ds) :
    (v.prepare.perform i).2 ∈ (v.prepared ds).indexes :=
  List.mem_map.mpr ⟨i, hi, if_pos hd⟩

/-- Nothing is done to the other indexes. -/
theorem mem_prepared_iff {ds : List IndexDescriptor} (hd : i.descriptor ∉ ds) :
    i ∈ (v.prepared ds).indexes ↔ i ∈ v.indexes := by
  refine List.mem_map.trans ⟨?_, fun hi => ⟨i, hi, if_neg hd⟩⟩
  rintro ⟨j, hj, heq⟩
  split at heq
  · rename_i hmem
    rw [← heq, prepare_descriptor] at hd
    exact absurd hmem hd
  · exact heq ▸ hj

section distinct

variable (hdistinct : (v.indexes.map fun i => i.descriptor.fields).Nodup) (hi : i ∈ v.indexes)

include hdistinct hi

/-- Indexes are told apart by their fields as well as by their descriptors. -/
theorem fields_eq_iff {j : IndexState} (hj : j ∈ v.indexes) :
    j.descriptor.fields = i.descriptor.fields ↔ j.descriptor = i.descriptor :=
  ⟨fun heq => congrArg _ (List.inj_on_of_nodup_map hdistinct hj hi heq), congrArg _⟩

/-- Preparing one index is putting it in its place. -/
theorem put_prepare : v.put (v.prepare.perform i).2 = v.prepared [i.descriptor] := by
  refine congrArg v.withIndexes (List.map_congr_left fun j hj => ?_)
  simp only [prepare_descriptor, List.mem_singleton, fields_eq_iff hdistinct hi hj]
  by_cases heq : j.descriptor = i.descriptor
  · obtain rfl := List.inj_on_of_nodup_map hdistinct hj hi (congrArg _ heq)
    rfl
  · simp only [if_neg heq]

/-- An index that has been prepared is not touched when it comes a second time. -/
theorem prepared_put (hok : (v.prepare.perform i).1 = .ok ()) (ds : List IndexDescriptor) :
    (v.put (v.prepare.perform i).2).prepared ds = v.prepared (i.descriptor :: ds) := by
  refine congrArg v.withIndexes ?_
  rw [put, List.map_map]
  refine List.map_congr_left fun j hj => ?_
  dsimp only [Function.comp_apply]
  simp only [prepare_descriptor, fields_eq_iff hdistinct hi hj, List.mem_cons]
  by_cases heq : j.descriptor = i.descriptor
  · obtain rfl := List.inj_on_of_nodup_map hdistinct hj hi (congrArg _ heq)
    simp only [if_true, true_or, prepare_descriptor]
    split
    · have hkept := congrArg Prod.snd
        (perform_prepare_clean (v.put (v.prepare.perform j).2) (prepare_dirty hok))
      exact hkept
    · rfl
  · simp only [heq, if_false, false_or]
    rfl

end distinct

/-- What preparing indexes in turn comes to. Each is prepared, up to the first where that fails. -/
inductive Prepares (v : View) (ds : List IndexDescriptor) : Result Unit → View → Prop
  | all (h : ∀ i ∈ v.indexes, i.descriptor ∈ ds → (v.prepare.perform i).1 = .ok ()) :
      Prepares v ds (.ok ()) (v.prepared ds)
  | failed {done : List IndexDescriptor} {i : IndexState} {e : Error} (hdone : done ⊆ ds)
      (hi : i ∈ v.indexes) (hd : i.descriptor ∈ done) (h : (v.prepare.perform i).1 = .error e) :
      Prepares v ds (.error e) (v.prepared done)

/-- Preparing an index that can be prepared, and then others. What is done to the view after the
first index is done to the view before it. -/
theorem Prepares.cons {ds : List IndexDescriptor} {r : Result Unit}
    (hdistinct : (v.indexes.map fun i => i.descriptor.fields).Nodup) (hi : i ∈ v.indexes)
    (hok : (v.prepare.perform i).1 = .ok ())
    (h : (v.put (v.prepare.perform i).2).Prepares ds r w) :
    v.Prepares (i.descriptor :: ds) r w := by
  have hprepared := prepared_put hdistinct hi hok
  cases h with
  | all hall =>
    rw [hprepared]
    refine .all fun j hj hd => ?_
    by_cases hsame : j.descriptor = i.descriptor
    · obtain rfl := List.inj_on_of_nodup_map hdistinct hj hi (congrArg _ hsame)
      exact hok
    · refine hall j ((mem_put_of_ne ?_).mpr hj) ((List.mem_cons.mp hd).resolve_left hsame)
      rwa [prepare_descriptor, ne_eq, fields_eq_iff hdistinct hi hj]
  | failed hdone hj hd hfails =>
    rw [hprepared]
    obtain ⟨k, hk, rfl⟩ := List.mem_map.mp hj
    split at hfails
    · -- the first index is clean by now, so it does not fail
      rw [perform_prepare_clean _ (prepare_dirty hok)] at hfails
      cases hfails
    · rename_i hother
      rw [if_neg hother] at hd
      exact .failed (List.cons_subset_cons _ hdone) hk (List.mem_cons_of_mem _ hd) hfails

/-- The indexes that a query may use: those that are not being built. -/
def offered (v : View) : List IndexDescriptor :=
  (v.indexes.map (·.descriptor)).filter fun d => !v.isBuilding d.fields

/-- A query may use the descriptors of the indexes that are not being built. -/
theorem mem_offered {d : IndexDescriptor} :
    d ∈ v.offered ↔ v.isBuilding d.fields = false ∧ ∃ i ∈ v.indexes, i.descriptor = d := by
  rw [offered, List.mem_filter, Bool.not_eq_true', and_comm, List.mem_map]

end View

namespace Session

variable {σ α : Type} {s : Session σ} {i : IndexState} {d : IndexDescriptor}

/-! ### Preparing indexes -/

/-- Preparing an index that is not being built. -/
theorem does_prepare (h : s.Sound) (hi : i ∈ s.view.indexes)
    (hfree : s.view.isBuilding i.descriptor.fields = false) :
    Does (Indexing.prepare Listener.silent i.descriptor) s
      ((s.view.prepare.perform i).1.map fun _ => true)
      (s.view.put (s.view.prepare.perform i).2) := by
  have hbegin : ∀ r v, Does (if i.dirty then Indexing.tryBuild Listener.silent i.descriptor true
        else pure true) s r v →
      Does (Indexing.prepare Listener.silent i.descriptor) s r v := by
    rintro r v ⟨s', hs', hreach⟩
    refine ⟨s', ?_, hreach⟩
    rw [Indexing.prepare, Action.perform_bind, perform_isBuilding, hfree]
    simp only [Bool.false_eq_true, if_false, Action.perform_bind, h.perform_isDirty_index hi, hs']
  refine hbegin _ _ ?_
  cases hdirty : i.dirty with
  | false =>
    rw [View.perform_prepare_clean _ hdirty, View.put_self h.nodup_fields hi]
    exact does_pure h true
  | true =>
    rw [View.perform_prepare_dirty _ hdirty]
    exact does_tryBuild h hi hfree true

/-- Preparing one index is a rebuild or nothing. -/
theorem refreshes_put_prepare {v : View} (hi : i ∈ v.indexes)
    (hdistinct : (v.indexes.map fun i => i.descriptor.fields).Nodup)
    (hfree : v.isBuilding i.descriptor.fields = false) :
    v.Refreshes (v.put (v.prepare.perform i).2) := by
  cases hdirty : i.dirty with
  | false =>
    rw [View.perform_prepare_clean _ hdirty, View.put_self hdistinct hi]
    exact .refl
  | true =>
    rw [View.perform_prepare_dirty _ hdirty]
    refine View.Refreshes.refl.rebuilt hi ?_
    rw [View.atRest, hdirty, hfree]
    rfl

/-- Preparing all indexes of a plan, none of which is being built. -/
theorem prepareAll_spec (h : s.Sound) (ds : List IndexDescriptor)
    (hds : ∀ d ∈ ds, s.view.isBuilding d.fields = false ∧
      ∃ i ∈ s.view.indexes, i.descriptor = d) :
    ∃ r v, s.view.Prepares ds r v ∧ s.view.Refreshes v ∧
      Does (Indexing.prepareAll Listener.silent ds) s (r.map fun _ => []) v := by
  induction ds generalizing s with
  | nil =>
    have hall : s.view.Prepares [] (.ok ()) (s.view.prepared []) := .all (by simp)
    rw [View.prepared_nil] at hall
    exact ⟨_, _, hall, .refl, does_pure h []⟩
  | cons d ds ih =>
    obtain ⟨hfree, i, hi, rfl⟩ := hds _ List.mem_cons_self
    have hone := does_prepare h hi hfree
    have hrefreshes := refreshes_put_prepare hi h.nodup_fields hfree
    cases hrun : (s.view.prepare.perform i).1 with
    | error e =>
      rw [hrun] at hone
      rw [View.put_prepare h.nodup_fields hi] at hone hrefreshes
      exact ⟨_, _, .failed (by simp) hi List.mem_cons_self hrun, hrefreshes, hone.bind_error⟩
    | ok _ =>
      rw [hrun] at hone
      obtain ⟨s₁, hs₁, hreach₁⟩ := hone
      -- the others are prepared from there on, with the first one clean
      obtain ⟨r, v, hprepares, hrefreshes', hrest⟩ := ih hreach₁.sound (by
        intro d hd
        obtain ⟨hfree', j, hj, rfl⟩ := hds d (List.mem_cons_of_mem _ hd)
        rw [hreach₁.view]
        exact ⟨hfree', hrefreshes.exists_mem hj h.nodup_fields⟩)
      rw [hreach₁.view] at hprepares hrefreshes'
      refine ⟨r, v, .cons h.nodup_fields hi hrun hprepares, hrefreshes.trans hrefreshes', ?_⟩
      rw [Indexing.prepareAll]
      refine Does.bind_from hs₁ hreach₁ ?_
      have hlast := hrest.then_map fun unfit =>
        if true then unfit else i.descriptor.fields :: unfit
      cases r <;> exact hlast

/-- An index that is to be relied on needs no preparation. -/
theorem does_prepare_of_trusts (h : s.Sound) (hi : i ∈ s.view.indexes)
    (htrusts : s.view.trusts i = true) :
    Does (Indexing.prepare Listener.silent i.descriptor) s (.ok true) s.view := by
  rw [View.trusts, Bool.and_eq_true, Bool.not_eq_true', Bool.not_eq_true'] at htrusts
  refine ⟨s, ?_, Reaches.refl h⟩
  rw [Indexing.prepare, Action.perform_bind, perform_isBuilding, htrusts.2]
  simp only [Bool.false_eq_true, if_false, Action.perform_bind, h.perform_isDirty_index hi,
    htrusts.1]
  rfl

/-- Indexes that are to be relied on need no preparation, however many they are. -/
theorem does_prepareAll_of_fit (h : s.Sound) {ds : List IndexDescriptor}
    (hfit : ∀ d ∈ ds, ∃ i ∈ s.view.indexes, i.descriptor = d ∧ s.view.trusts i = true) :
    Does (Indexing.prepareAll Listener.silent ds) s (.ok []) s.view := by
  induction ds generalizing s with
  | nil => exact does_pure h []
  | cons d ds ih =>
    rw [List.forall_mem_cons] at hfit
    obtain ⟨⟨i, hi, rfl, htrusts⟩, hrest⟩ := hfit
    rw [Indexing.prepareAll]
    refine (does_prepare_of_trusts h hi htrusts).bind_ok fun s₁ hs₁ => ?_
    rw [← hs₁.view] at hrest ⊢
    exact (ih hs₁.sound hrest).bind_ok fun s₂ hs₂ => hs₂.pure []

/-! ### Plans -/

/-- If nothing is unfit, nothing is withdrawn. -/
theorem withdraw_nil (ds : List IndexDescriptor) : Indexing.withdraw [] ds = ds :=
  List.filter_eq_self.mpr fun _ _ => rfl

/-- Planning over indexes that are not being built. It fails with the optimizer, or the indexes of
the plan are prepared. -/
theorem planOver_spec (h : s.Sound) (optimize : List IndexDescriptor → Result Plan)
    (hoffered : ∀ ds p, optimize ds = .ok p → ∀ d ∈ p.indexes, d ∈ ds)
    (ds : List IndexDescriptor)
    (hds : ∀ d ∈ ds, s.view.isBuilding d.fields = false ∧
      ∃ i ∈ s.view.indexes, i.descriptor = d) :
    (∃ e, optimize ds = .error e ∧
        Does (Indexing.planOver Listener.silent (fun ds => Action.ofResult (optimize ds)) ds) s
          (.error e) s.view) ∨
      ∃ p r v, optimize ds = .ok p ∧ s.view.Prepares p.indexes r v ∧ s.view.Refreshes v ∧
        Does (Indexing.planOver Listener.silent (fun ds => Action.ofResult (optimize ds)) ds) s
          (r.map fun _ => p) v := by
  rw [Indexing.planOver]
  cases hopt : optimize ds with
  | error e => exact Or.inl ⟨e, rfl, (does_ofResult h _).bind_error⟩
  | ok p =>
    obtain ⟨r, v, hprepares, hrefreshes, hall⟩ := prepareAll_spec h p.indexes
      fun d hd => hds d (hoffered ds p hopt d hd)
    refine Or.inr ⟨p, r, v, rfl, hprepares, hrefreshes, does_ofResult_bind ?_⟩
    cases r with
    | error e => exact hall.bind_error
    | ok _ =>
      refine hall.bind_ok fun s₁ hs₁ => ?_
      rw [withdraw_nil]
      simp only [lt_irrefl, if_false]
      exact hs₁.pure p

/-- Planning over indexes of which those of the plan are to be relied on already. -/
theorem does_planOver_of_fit (h : s.Sound) {optimize : List IndexDescriptor → Result Plan}
    {ds : List IndexDescriptor} {p : Plan} (hp : optimize ds = .ok p)
    (hfit : ∀ d ∈ p.indexes, ∃ i ∈ s.view.indexes, i.descriptor = d ∧ s.view.trusts i = true) :
    Does (Indexing.planOver Listener.silent (fun ds => Action.ofResult (optimize ds)) ds) s (.ok p)
      s.view := by
  rw [Indexing.planOver, hp]
  refine does_ofResult_bind ((does_prepareAll_of_fit h hfit).bind_ok fun s₁ hs₁ => ?_)
  rw [withdraw_nil]
  simp only [lt_irrefl, if_false]
  exact hs₁.pure p

/-- Planning a query is planning over the indexes that are not being built. -/
theorem explain_begins (h : s.Sound) (f : Filter) (options : FindOptions) :
    ∃ s₁, Reaches s s₁ s.view ∧ ∀ r v,
      Does (Indexing.planOver Listener.silent
        (fun ds => Action.ofResult (Plan.optimize s.view.config.collation f options ds))
        s.view.offered) s₁ r v →
      Does (Collection.explain Listener.silent f options) s r v := by
  obtain ⟨s₁, hs₁, hreach₁⟩ := does_list h
  refine ⟨s₁, hreach₁, ?_⟩
  rintro r v ⟨s₂, hs₂, hreach₂⟩
  refine ⟨s₂, ?_, hreach₁.trans hreach₂⟩
  have hheld : s₁.collection.builds.held = s.view.held := by
    rw [← hreach₁.view]
    rfl
  have hbuilds : ∀ d : IndexDescriptor, s₁.collection.builds.isBuilding d.fields
      = s.view.isBuilding d.fields := by
    intro d
    rw [View.isBuilding, ← hheld]
    rfl
  rw [← hs₂]
  simp only [Collection.explain, Indexing.plan, Action.perform_bind, perform_checkOpen h,
    perform_here, hs₁, hbuilds]
  rfl

/-- Planning a query. It fails with the optimizer, or the indexes of the plan are prepared. -/
theorem explain_prepares (h : s.Sound) (f : Filter) (options : FindOptions) :
    (∃ e, Plan.optimize s.view.config.collation f options s.view.offered = .error e ∧
        Does (Collection.explain Listener.silent f options) s (.error e) s.view) ∨
      ∃ p r v, Plan.optimize s.view.config.collation f options s.view.offered = .ok p ∧
        s.view.Prepares p.indexes r v ∧ s.view.Refreshes v ∧
        Does (Collection.explain Listener.silent f options) s (r.map fun _ => p) v := by
  obtain ⟨s₁, hreach₁, hbegin⟩ := explain_begins h f options
  have hplan := planOver_spec hreach₁.sound
    (Plan.optimize s.view.config.collation f options)
    (fun ds p hp d hd => Plan.mem_of_mem_indexes hp hd) s.view.offered
    (fun d hd => hreach₁.view ▸ View.mem_offered.mp hd)
  rw [hreach₁.view] at hplan
  rcases hplan with ⟨e, he, hdoes⟩ | ⟨p, r, v, hp, hprepares, hrefreshes, hdoes⟩
  · exact Or.inl ⟨e, he, hbegin _ _ hdoes⟩
  · exact Or.inr ⟨p, r, v, hp, hprepares, hrefreshes, hbegin _ _ hdoes⟩

/-- The plan of a query scans indexes that are to be relied on, once it is there. -/
theorem explain_spec (h : s.Sound) (f : Filter) (options : FindOptions) :
    ∃ v, s.view.Refreshes v ∧
      ((∃ e, Does (Collection.explain Listener.silent f options) s (.error e) v) ∨
        ∃ p, Plan.optimize s.view.config.collation f options s.view.offered = .ok p ∧
          Does (Collection.explain Listener.silent f options) s (.ok p) v ∧
          ∀ d ∈ p.indexes, ∃ i ∈ v.indexes, i.descriptor = d ∧ v.trusts i = true) := by
  rcases explain_prepares h f options with
    ⟨e, -, hfails⟩ | ⟨p, r, v, hp, hprepares, hrefreshes, hdoes⟩
  · exact ⟨_, .refl, Or.inl ⟨e, hfails⟩⟩
  · refine ⟨v, hrefreshes, ?_⟩
    cases hprepares with
    | failed => exact Or.inl ⟨_, hdoes⟩
    | all hall =>
      refine Or.inr ⟨p, hp, hdoes, fun d hd => ?_⟩
      obtain ⟨hfree, i, hi, rfl⟩ := View.mem_offered.mp (Plan.mem_of_mem_indexes hp hd)
      refine ⟨_, View.mem_prepared hi hd, View.prepare_descriptor _ _, ?_⟩
      rw [hrefreshes.trusts_eq, View.trusts, View.prepare_descriptor,
        View.prepare_dirty (hall i hi hd), hfree]
      rfl

/-- A query whose plan scans nothing but indexes to be relied on is planned at once. -/
theorem does_explain_of_fit (h : s.Sound) {f : Filter} {options : FindOptions} {p : Plan}
    (hp : Plan.optimize s.view.config.collation f options s.view.offered = .ok p)
    (hfit : ∀ d ∈ p.indexes, ∃ i ∈ s.view.indexes, i.descriptor = d ∧ s.view.trusts i = true) :
    Does (Collection.explain Listener.silent f options) s (.ok p) s.view := by
  obtain ⟨s₁, hreach₁, hbegin⟩ := explain_begins h f options
  refine hbegin _ _ ?_
  rw [← hreach₁.view] at hfit ⊢
  exact does_planOver_of_fit hreach₁.sound (by rw [hreach₁.view]; exact hp) hfit

end Session

end DocumentDb
