import DocumentDb.Proofs.FailedWrites

/-!
# `DocumentDb.Proofs.Query.Explaining`: what a plan scans, and what planning leaves alone

`Session.explain_finishes` is about collections in any state: their indexes may be dirty, and
flags may be held. A plan that is handed out scans nothing but indexes that are clean and not
being built by then, after those of them that were dirty have been built anew. All other
indexes are as they were. When there is no plan, the optimizer has none to offer, or a dirty
index of its plan could not be built and is dirty still.

Planning is a loop, as an index can fall to another build before it is prepared. A round that
is not the last one withdraws an index that the optimizer has chosen, and the optimizer
chooses among the candidates only. So there are fewer candidates in every round, whatever the
listener does (`Indexing.planWithin_eq`).
-/

set_option autoImplicit false

namespace DocumentDb

namespace Indexing

open Session

variable {σ : Type}

/-! ### Rounds -/

/-- The planning loop for a number of rounds. It ends with the first plan whose indexes are all
fit for a scan, and gives nothing if there is none before the rounds are over. -/
def planWithin (listener : Listener σ) (optimize : List IndexDescriptor → Result Plan) :
    (rounds : Nat) → (candidates : List IndexDescriptor) → SessionM σ (Option Plan)
  | 0, _ => return none
  | rounds + 1, candidates => do
    let plan ← Action.ofResult (optimize candidates)
    let unfit ← prepareAll listener plan.indexes
    if unfit.isEmpty then return some plan
    else planWithin listener optimize rounds (withdraw unfit candidates)

variable {listener : Listener σ} {s s' : Session σ}

/-- Whatever the listener does, an index that cannot be scanned is one of those to prepare. -/
theorem mem_of_mem_unfit {ds : List IndexDescriptor} {unfit : List FieldPath}
    (hrun : (prepareAll listener ds).perform s = (.ok unfit, s')) {fields : FieldPath}
    (hmem : fields ∈ unfit) : ∃ d ∈ ds, d.fields = fields := by
  induction ds generalizing s s' unfit with
  | nil =>
    obtain ⟨hunfit, -⟩ := Prod.mk.inj hrun
    cases hunfit
    cases hmem
  | cons d ds ih =>
    obtain ⟨fit, s₁, -, hrun⟩ := Action.perform_bind_eq_ok_iff.mp hrun
    obtain ⟨rest, s₂, hrest, hrun⟩ := Action.perform_bind_eq_ok_iff.mp hrun
    obtain ⟨hunfit, -⟩ := Prod.mk.inj hrun
    cases hunfit
    -- the fields are those of the first index, or of one of the rest
    have hcases : fields = d.fields ∨ fields ∈ rest := by
      cases fit with
      | true => exact Or.inr hmem
      | false => exact List.mem_cons.mp hmem
    rcases hcases with rfl | hmem
    · exact ⟨d, List.mem_cons_self, rfl⟩
    · obtain ⟨d', hd', hfields⟩ := ih hrest hmem
      exact ⟨d', List.mem_cons_of_mem _ hd', hfields⟩

/-- Withdrawing a candidate leaves fewer of them. -/
theorem length_withdraw_lt {unfit : List FieldPath} {candidates : List IndexDescriptor}
    {d : IndexDescriptor} (hd : d ∈ candidates) (hunfit : d.fields ∈ unfit) :
    (withdraw unfit candidates).length < candidates.length := by
  refine List.length_filter_lt_length_iff_exists.mpr ⟨d, hd, ?_⟩
  simpa using hunfit

/-- The loop comes to its end within one round more than there are candidates. -/
theorem planWithin_eq (listener : Listener σ) (optimize : List IndexDescriptor → Result Plan)
    (hoffered : ∀ ds p, optimize ds = .ok p → ∀ d ∈ p.indexes, d ∈ ds) {rounds : Nat}
    {candidates : List IndexDescriptor} (hrounds : candidates.length < rounds) (s : Session σ) :
    (planWithin listener optimize rounds candidates).perform s
      = (planOver listener (fun ds => Action.ofResult (optimize ds)) candidates >>= fun p =>
          pure (some p)).perform s := by
  -- induction on the rounds: what a round leaves for the rest is one candidate less
  induction rounds generalizing candidates s with
  | zero => cases hrounds
  | succ rounds ih =>
    rw [planWithin, planOver]
    cases hopt : optimize candidates with
    | error e => rfl
    | ok p =>
      simp only [Action.perform_bind, Action.perform_ofResult]
      rcases hprepare : (prepareAll listener p.indexes).perform s with ⟨e | unfit, s₁⟩
      · rfl
      · cases unfit with
        | nil =>
          simp only [List.isEmpty_nil, if_true, withdraw_nil, lt_irrefl, if_false,
            Action.perform_pure]
        | cons fields unfit =>
          obtain ⟨d, hd, rfl⟩ := mem_of_mem_unfit hprepare List.mem_cons_self
          have hless : (withdraw (d.fields :: unfit) candidates).length < candidates.length :=
            length_withdraw_lt (hoffered _ _ hopt d hd) List.mem_cons_self
          simp only [List.isEmpty_cons, Bool.false_eq_true, if_false, hless, if_true]
          rw [ih (by omega), Action.perform_bind]

end Indexing

/-- The plan of a query, if the loop ends within a number of rounds. -/
def Collection.explainWithin {σ : Type} (listener : Listener σ) (rounds : Nat) (f : Filter)
    (options : FindOptions) : SessionM σ (Option Plan) := do
  checkOpen
  let collation := (← Session.here).config.collation
  let all ← Indexing.list
  let builds := (← Session.here).builds
  Indexing.planWithin listener (Plan.optimize collation f options) rounds
    (all.filter fun d => !builds.isBuilding d.fields)

/-! ### Plans and failures -/

namespace View

variable {v w : View} {p : Plan} {e : Error} {r : Result Unit}

/-- What a plan that is handed out leaves behind: its indexes are finished, and the others are as
they were. -/
structure Finishes (v w : View) (p : Plan) : Prop where
  /-- An index of the plan is in the catalog, clean, and not being built. It is as it was if it was
  clean before, and the outcome of a rebuild if it was dirty. -/
  scanned : ∀ d ∈ p.indexes, ∃ i ∈ v.indexes, ∃ i' ∈ w.indexes,
    i.descriptor = d ∧ i'.descriptor = d ∧ i'.dirty = false ∧ w.isBuilding d.fields = false ∧
      (i.dirty = false → i' = i) ∧ (i.dirty = true → v.rebuild.perform i = (.ok (), i'))
  unscanned : ∀ i, i.descriptor ∉ p.indexes → (i ∈ w.indexes ↔ i ∈ v.indexes)

/-- What a plan leaves behind one of whose indexes could not be built. -/
structure GivesUp (v w : View) (p : Plan) (e : Error) : Prop where
  /-- The index was dirty and at rest, and it is dirty still. -/
  failed : ∃ i ∈ v.indexes, ∃ i' ∈ w.indexes, i.descriptor ∈ p.indexes ∧ v.atRest i = true ∧
    v.rebuild.perform i = (.error e, i') ∧ i'.descriptor = i.descriptor ∧ i'.dirty = true
  unscanned : ∀ i, i.descriptor ∉ p.indexes → (i ∈ w.indexes ↔ i ∈ v.indexes)

/-- Indexes that could be prepared are finished. -/
theorem Prepares.finishes (h : v.Prepares p.indexes (.ok ()) w) (hoffered : p.indexes ⊆ v.offered) :
    v.Finishes w p := by
  obtain ⟨hall⟩ := h
  refine ⟨fun d hd => ?_, fun i hd => mem_prepared_iff hd⟩
  obtain ⟨hfree, i, hi, rfl⟩ := mem_offered.mp (hoffered hd)
  have hok := hall i hi hd
  refine ⟨i, hi, _, mem_prepared hi hd, rfl, prepare_descriptor v i, prepare_dirty hok, hfree,
    fun hclean => ?_, fun hdirty => ?_⟩
  · rw [perform_prepare_clean v hclean]
  · rw [← perform_prepare_dirty v hdirty]
    exact Prod.ext hok rfl

/-- When not all indexes can be prepared, a rebuild has failed. -/
theorem Prepares.givesUp (h : v.Prepares p.indexes (.error e) w)
    (hoffered : p.indexes ⊆ v.offered) : v.GivesUp w p e := by
  cases h with
  | failed hdone hi hd hfails =>
    rename_i done i
    refine ⟨⟨i, hi, _, mem_prepared hi hd, hdone hd, ?_⟩,
      fun j hj => mem_prepared_iff fun hmem => hj (hdone hmem)⟩
    cases hdirty : i.dirty with
    | false =>
      rw [perform_prepare_clean v hdirty] at hfails
      cases hfails
    | true =>
      rw [perform_prepare_dirty v hdirty] at hfails ⊢
      have hrun : v.rebuild.perform i = (.error e, (v.rebuild.perform i).2) := Prod.ext hfails rfl
      obtain ⟨hfree, -⟩ := mem_offered.mp (hoffered (hdone hd))
      refine ⟨?_, hrun, rebuild_descriptor v i, IndexState.dirty_of_fill_error hrun⟩
      rw [atRest, hdirty, hfree]
      rfl

end View

namespace Session

variable {σ : Type} {s s' : Session σ}

/-- Whatever the listener does, a query is planned within one round more than there are indexes
that are not being built. -/
theorem perform_explainWithin (h : s.Sound) (listener : Listener σ) (f : Filter)
    (options : FindOptions) {rounds : Nat} (hrounds : s.view.offered.length < rounds) :
    (Collection.explainWithin listener rounds f options).perform s
      = (Collection.explain listener f options >>= fun p => pure (some p)).perform s := by
  obtain ⟨s₁, hs₁, hreach₁⟩ := does_list h
  -- the candidates are the descriptors of the view whose flags are free in the session reached
  have hcandidates : ((s.view.indexes.map (·.descriptor)).filter fun d =>
      !s₁.collection.builds.isBuilding d.fields) = s.view.offered := by
    rw [View.offered, ← hreach₁.view]
    rfl
  have hplan := Indexing.planWithin_eq listener
    (Plan.optimize s.collection.config.collation f options)
    (fun ds p hp d hd => Plan.mem_of_mem_indexes hp hd) hrounds s₁
  unfold Collection.explainWithin Collection.explain Indexing.plan
  simp only [bind_assoc, Action.perform_bind, perform_checkOpen h, perform_here, hs₁, hcandidates]
  rw [hplan, Action.perform_bind]

/-- Planning a query in any state of the collection. A plan scans finished indexes only, and those
that it does not scan stay as they are. Without a plan, either the optimizer has refused the
filter over the indexes that are not being built, or a dirty index of its plan could not be
built and is dirty still. Nothing changes beside the indexes, and the loop ends within one
round more than there are candidates. -/
theorem explain_finishes (h : s.Sound) (f : Filter) (options : FindOptions) {r : Result Plan}
    (hrun : (Collection.explain Listener.silent f options).perform s = (r, s')) :
    s'.Sound ∧ s'.view = s.view.withIndexes s'.view.indexes ∧
      (∀ p, r = .ok p →
        Plan.optimize s.view.config.collation f options s.view.offered = .ok p ∧
          s.view.Finishes s'.view p) ∧
      (∀ e, r = .error e →
        (Plan.optimize s.view.config.collation f options s.view.offered = .error e ∧
            s'.view = s.view) ∨
          ∃ p, Plan.optimize s.view.config.collation f options s.view.offered = .ok p ∧
            s.view.GivesUp s'.view p e) ∧
      ∀ (listener : Listener σ) (rounds : Nat), s.view.offered.length < rounds →
        (Collection.explainWithin listener rounds f options).perform s
          = (Collection.explain listener f options >>= fun p => pure (some p)).perform s := by
  have hrounds := fun (listener : Listener σ) (rounds : Nat)
    (hmore : s.view.offered.length < rounds) => perform_explainWithin h listener f options hmore
  rcases explain_prepares h f options with
    ⟨e, hrejects, hdoes⟩ | ⟨p, r', v, hp, hprepares, hrefreshes, hdoes⟩
  · obtain ⟨rfl, hreach⟩ := hdoes.elim hrun
    rw [hreach.view]
    -- the optimizer refuses the filter before any index is prepared
    refine ⟨hreach.sound, rfl, nofun, ?_, hrounds⟩
    rintro e' ⟨⟩
    exact Or.inl ⟨hrejects, rfl⟩
  · obtain ⟨rfl, hreach⟩ := hdoes.elim hrun
    rw [hreach.view]
    -- no index of the plan is being built, so none of them is withdrawn
    have hoffered : p.indexes ⊆ s.view.offered := fun d hd => Plan.mem_of_mem_indexes hp hd
    refine ⟨hreach.sound, hrefreshes.eq_withIndexes, ?_, ?_, hrounds⟩
    · intro p' hp'
      obtain ⟨⟨⟩, rfl, rfl⟩ := Result.map_eq_ok_iff.mp hp'
      exact ⟨hp, hprepares.finishes hoffered⟩
    · intro e he
      cases r' with
      | ok _ => cases he
      | error e' =>
        cases he
        exact Or.inr ⟨p, hp, hprepares.givesUp hoffered⟩

/-- Of two indexes that have never been built a query scans the first. It is built, and the second
one is left as it is. -/
theorem explain_finishes_first_of_two :
    ∃ (s s' : Session Unit) (p : Plan) (i j : IndexState), s.Sound ∧
      (Collection.explain Listener.silent (.compare ⟨"a", .eq (.bool false)⟩) {}).perform s
          = (.ok p, s') ∧
        s.view.indexes.map (·.dirty) = [true, true] ∧ i ∈ s'.view.indexes ∧
        i.descriptor ∈ p.indexes ∧ i.dirty = false ∧ j ∈ s'.view.indexes ∧
        j.descriptor ∉ p.indexes ∧ j.dirty = true := by
  let a : IndexDescriptor := ⟨.unique, ⟨["a"]⟩, "c"⟩
  let b : IndexDescriptor := ⟨.unique, ⟨["b"]⟩, "c"⟩
  let f : Filter := .compare ⟨"a", .eq (.bool false)⟩
  let v : View := ⟨"c", {}, [], ⟨0⟩, [], rivalRecords, [⟨a, true, .empty a⟩, ⟨b, true, .empty b⟩]⟩
  obtain ⟨s, h, hview⟩ : ∃ s : Session Unit, s.Sound ∧ s.view = v :=
    exists_unbuilt "c" {} [a, b] (by decide) rfl (by decide) (by decide)
  have hplan : ((Plan.optimize v.config.collation f {} v.offered).map Plan.indexes).toOption
      = some [a] := by decide +kernel
  -- the index of the plan can be built from the records
  have hbuilds : ∀ i ∈ v.indexes, i.descriptor ∈ [a] →
      (v.prepare.perform i).1.toOption = some () := by decide +kernel
  rcases explain_prepares h f {} with ⟨e, hrejects, -⟩ | ⟨p, r, w, hp, hprepares, -, hdoes⟩
  · rw [hview] at hrejects
    rw [hrejects] at hplan
    cases hplan
  · rw [hview] at hp hprepares
    rw [hp] at hplan
    have hscans : p.indexes = [a] := Option.some.inj hplan
    rw [hscans] at hprepares
    cases hprepares with
    | failed hdone hi hd hfails =>
      have hbuilt := hbuilds _ hi (hdone hd)
      rw [hfails] at hbuilt
      cases hbuilt
    | all =>
      obtain ⟨s', hs', -⟩ := hdoes
      obtain ⟨-, -, hfinishes, -⟩ := explain_finishes h f {} hs'
      obtain ⟨-, hscanned, hunscanned⟩ := hfinishes p rfl
      have hmem : a ∈ p.indexes := by
        rw [hscans]
        exact List.mem_singleton_self a
      obtain ⟨-, -, i, hi, -, hd, hclean, -⟩ := hscanned a hmem
      have hother : (⟨b, true, .empty b⟩ : IndexState).descriptor ∉ p.indexes := by
        rw [hscans]
        decide
      refine ⟨s, s', p, i, ⟨b, true, .empty b⟩, h, hs', ?_, hi, hd ▸ hmem, hclean,
        (hunscanned _ hother).mpr ?_, hother, rfl⟩
      · rw [hview]
        rfl
      · rw [hview]
        exact List.mem_cons_of_mem _ (List.mem_singleton_self _)

end Session

end DocumentDb
