import DocumentDb.Proofs.Query.Independence
import DocumentDb.Proofs.Query.Sorting

/-!
# `DocumentDb.Proofs.Query.Pulling`: what a cursor hands out while records change

A cursor reads records when it is pulled, and between two pulls they may be replaced or removed.
An index, though, is scanned once, when the cursor is opened. So the terms that a scan answers are
not looked at again: they were true of the version of the record that was stored then.

`RecordStream.Draws` is the invariant that carries this over. A stream draws records with some
property from a map if, whatever the map holds when it is pulled, every record that it hands out is
one of the map at that moment and has the property. The step lemma is `Draws.run`: one pull hands
out such a record and leaves a stream that draws the same. `View.streamOf_draws` says what the
stream of a plan draws, and `Session.pulled_meets` is the run lemma, for every way in which
operations and pulls can follow one another.
-/

set_option autoImplicit false

namespace DocumentDb

open SortedEntries (Sorted)

namespace RecordStream

/-- Whatever a map holds when it is pulled, a stream hands out records of the map that have a
property. -/
inductive Draws (m : MapRef RecordId) : (Entry → Prop) → RecordStream → Prop
  | ended (P : Entry → Prop) : Draws m P RecordStream.ended
  | walk {w : Walk RecordId} (hmap : w.map = m) : Draws m (fun _ => True) (.walk w)
  | lookup {Q : RecordId → Prop} {left : List RecordId} (hleft : ∀ id ∈ left, Q id) :
      Draws m (fun e => Q e.1) (.lookup m left)
  | union {P : Entry → Prop} {branches : List RecordStream}
      (h : ∀ branch ∈ branches, Draws m P branch) : Draws m P (.union branches)
  | distinct {P : Entry → Prop} {seen : List RecordId} {inner : RecordStream}
      (h : Draws m P inner) :
      Draws m P (.distinct seen inner)
  | filtered {P : Entry → Prop} {inner : RecordStream} {f : Filter} (h : Draws m P inner) :
      Draws m (fun e => P e ∧ f.apply e.2 = .ok true) (.filtered inner f)
  | bounded {P : Entry → Prop} {skip : Nat} {limit : Option Nat} {inner : RecordStream}
      (h : Draws m P inner) : Draws m P (.bounded skip limit inner)
  | mono {P P' : Entry → Prop} {stream : RecordStream} (h : Draws m P stream)
      (himp : ∀ e, P e → P' e) : Draws m P' stream

/-- Every item of a run that is a record has a property, and so has every stream after an item. -/
def Each (P : Entry → Prop) (D : RecordStream → Prop) (r : Run) : Prop :=
  ∀ step ∈ r, (∀ e, step.1 = .ok e → P e) ∧ D step.2

variable {s : Store} {m : MapRef RecordId} {records : List Entry} {P : Entry → Prop}
  {D D' : RecordStream → Prop} {r : Run}

/-- An empty run has no steps. -/
theorem each_nil : Each P D [] := List.forall_mem_nil _

/-- A run has the properties if its first step has and the rest has. -/
theorem each_cons {step : Result Entry × RecordStream} :
    Each P D (step :: r) ↔ ((∀ e, step.1 = .ok e → P e) ∧ D step.2) ∧ Each P D r :=
  List.forall_mem_cons

/-- The properties of a run may be weakened. -/
theorem Each.mono {P' : Entry → Prop} (h : Each P D r) (hP : ∀ e, P e → P' e)
    (hD : ∀ stream, D stream → D' stream) : Each P' D' r := by
  intro step hstep
  obtain ⟨hitem, hnext⟩ := h step hstep
  exact ⟨fun e he => hP e (hitem e he), hD _ hnext⟩

/-! ### Sources and stages -/

/-- A walk hands out records of the map, and goes on as a walk of the same map. -/
theorem each_runWalk (hread : (s.map m).read = .ok records) {w : Walk RecordId} (hmap : w.map = m) :
    Each (· ∈ records) (Draws m fun _ => True) (runWalk w s) := by
  intro step hstep
  obtain ⟨err, rfl⟩ | ⟨es, e, hes, he, rfl⟩ := mem_runWalk hstep
  · exact ⟨nofun, .walk hmap⟩
  · rw [hmap, hread] at hes
    cases hes
    refine ⟨fun e' heq => ?_, .walk hmap⟩
    cases heq
    rw [Walk.ahead] at he
    split at he
    · exact SortedEntries.mem_walk.mp he
    · exact (List.mem_filter.mp (SortedEntries.mem_walk.mp he)).1

/-- A lookup hands out records with ids that were looked up. -/
theorem each_runLookup (hread : (s.map m).read = .ok records) (hsorted : Sorted records)
    {Q : RecordId → Prop} {left : List RecordId} (hleft : ∀ id ∈ left, Q id) :
    Each (fun e => e ∈ records ∧ Q e.1) (Draws m fun e => Q e.1) (runLookup m s left) := by
  intro step hstep
  obtain ⟨err, rfl⟩ | ⟨es, id, d, rest, hes, hsuffix, hget, rfl⟩ := mem_runLookup hstep
  · exact ⟨nofun, .mono (.ended _) fun _ => id⟩
  · rw [hread] at hes
    cases hes
    have hrest : ∀ id' ∈ id :: rest, Q id' := fun id' hid' => hleft id' (hsuffix.subset hid')
    rw [List.forall_mem_cons] at hrest
    refine ⟨fun e he => ?_, .lookup hrest.2⟩
    cases he
    exact ⟨hsorted.get?_eq_some_iff_mem.mp hget, hrest.1⟩

/-- A branch and the branches after it hand out what each of them does. -/
theorem each_runBranch {later : List RecordStream} {next : Run} (hended : D ended)
    (hunion : ∀ branch, D' branch → D (.union (branch :: later))) (hr : Each P D' r)
    (hnext : Each P D next) : Each P D (runBranch later next r) := by
  intro step hstep
  obtain ⟨err, rfl⟩ | ⟨e, branch, hmem, rfl⟩ | hlater := mem_runBranch hstep
  · exact ⟨nofun, hended⟩
  · exact (hr _ hmem).imp_right (hunion branch)
  · exact hnext step hlater

/-- Leaving out repeated ids keeps the property of the rest. -/
theorem each_runDistinct {seen : List RecordId}
    (hdistinct : ∀ seen inner, D' inner → D (.distinct seen inner)) (hr : Each P D' r) :
    Each P D (runDistinct seen r) := by
  rintro ⟨item, next⟩ hstep
  obtain ⟨seen', inner, hmem, rfl⟩ := mem_runDistinct hstep
  exact (hr _ hmem).imp_right (hdistinct seen' inner)

/-- A filter adds to the property that the record passes it. -/
theorem each_runFiltered {f : Filter} (hended : D ended)
    (hfiltered : ∀ inner, D' inner → D (.filtered inner f)) (hr : Each P D' r) :
    Each (fun e => P e ∧ f.apply e.2 = .ok true) D (runFiltered f r) := by
  intro step hstep
  obtain ⟨err, rfl⟩ | ⟨e, inner, hmem, hpass, rfl⟩ := mem_runFiltered hstep
  · exact ⟨nofun, hended⟩
  · refine (hr _ hmem).imp (fun hitem e' he' => ?_) (hfiltered inner)
    cases he'
    exact ⟨hitem e rfl, hpass⟩

/-- Skipping records and stopping early keeps the property of the rest. -/
theorem each_runBounded {skip : Nat} {limit : Option Nat}
    (hbounded : ∀ skip limit inner, D' inner → D (.bounded skip limit inner)) (hr : Each P D' r) :
    Each P D (runBounded skip limit r) := by
  rintro ⟨item, next⟩ hstep
  obtain ⟨skip', limit', inner, hmem, rfl⟩ := mem_runBounded hstep
  exact (hr _ hmem).imp_right (hbounded skip' limit' inner)

/-- One pull hands out a record of the map with the property, and leaves a stream that draws the
same. -/
theorem Draws.run {stream : RecordStream} (h : Draws m P stream)
    (hread : (s.map m).read = .ok records) (hsorted : Sorted records) :
    Each (fun e => e ∈ records ∧ P e) (Draws m P) (stream.run s) := by
  induction h with
  | ended P =>
    rw [RecordStream.ended, RecordStream.run]
    exact each_nil
  | walk hmap =>
    rw [RecordStream.run]
    exact (each_runWalk hread hmap).mono (fun e he => ⟨he, trivial⟩) fun _ hnext => hnext
  | lookup hleft =>
    rw [RecordStream.run]
    exact each_runLookup hread hsorted hleft
  | @union P branches h ih =>
    rw [RecordStream.run]
    induction branches with
    | nil =>
      rw [runAll]
      exact each_nil
    | cons branch later ihLater =>
      rw [List.forall_mem_cons] at h ih
      rw [runAll]
      -- what is left of a branch goes on with the later branches
      refine each_runBranch (.ended P) (fun next hnext => ?_) ih.1 (ihLater h.2 ih.2)
      exact .union (List.forall_mem_cons.mpr ⟨hnext, h.2⟩)
  | distinct h ih =>
    rw [RecordStream.run]
    exact each_runDistinct (fun _ _ => .distinct) ih
  | filtered h ih =>
    rw [RecordStream.run]
    refine (each_runFiltered (.ended _) (fun _ => .filtered) ih).mono (fun e he => ?_) fun _ => id
    exact ⟨he.1.1, he.1.2, he.2⟩
  | bounded h ih =>
    rw [RecordStream.run]
    exact each_runBounded (fun _ _ _ => .bounded) ih
  | mono h himp ih =>
    exact ih.mono (fun e he => ⟨he.1, himp e he.2⟩) fun _ hnext => .mono hnext himp

end RecordStream

/-! ### Plans -/

namespace Plan

variable {f : Filter} {ds : List IndexDescriptor} {p : Plan} {records : List Entry} {e : Entry}

/-- What the plan of a conjunction says of a record when it hands it out: the terms that it keeps
are true of the document. If it does not read all records, the terms that it answers were true of
the document that was stored under the id when the indexes were scanned. -/
def Assures (records : List Entry) (p : Plan) (e : Entry) : Prop :=
  (∀ g ∈ p.kept, g.apply e.2 = .ok true) ∧
    (p.isCollectionScan = false →
      ∃ old, (e.1, old) ∈ records ∧ ∀ g ∈ p.answered, g.apply old = .ok true)

/-- All terms are true of a document that has been handed out from a walk through all records. -/
theorem Assures.passes_of_collection (h : p.Assures records e) (hdivides : p.Divides f.conjuncts)
    (hscan : p.isCollectionScan = true) : f.apply e.2 = .ok true := by
  obtain ⟨consumed, hdealt, -, hsame⟩ := hdivides
  have hnone : p.answered = [] := by
    unfold isCollectionScan at hscan
    unfold answered
    split at hscan
    · rename_i hsource
      rw [hsource]
    · cases hscan
  rw [Filter.apply_eq_true_iff, hdealt.forall_mem_iff]
  refine ⟨fun g hg => ?_, h.1⟩
  rw [hsame, hnone] at hg
  cases hg

/-- All terms are true of a document that is still as it was. -/
theorem Assures.passes_of_mem (h : p.Assures records e) (hdivides : p.Divides f.conjuncts)
    (hkeys : (records.map (·.1)).Nodup) (hmem : e ∈ records) : f.apply e.2 = .ok true := by
  cases hscan : p.isCollectionScan with
  | true => exact h.passes_of_collection hdivides hscan
  | false =>
    obtain ⟨old, hold, hanswered⟩ := h.2 hscan
    have hsame : (e.1, old) = e := List.inj_on_of_nodup_map hkeys hold hmem rfl
    obtain rfl : old = e.2 := congrArg Prod.snd hsame
    obtain ⟨consumed, hdealt, -, hsame⟩ := hdivides
    rw [Filter.apply_eq_true_iff, hdealt.forall_mem_iff]
    exact ⟨fun g hg => hanswered g ((hsame g).mp hg), h.1⟩

/-- Without a term that fixes the record id, the plan of a conjunction is no lookup. -/
theorem source_ne_byId_of_not_fixesId (hlookup : ¬ f.FixesId) (h : ofConjunction f ds = .ok p)
    (v : Value) : p.source ≠ .byId v := by
  cases hpick : pick? fixedId? f.conjuncts with
  | none => exact source_ne_byId hpick h v
  | some found =>
    obtain ⟨before, g, after, hterms, hg, -⟩ := pick?_eq_some hpick
    obtain rfl := fixedId?_eq_some.mp hg
    exact absurd ⟨found.1, by simp [hterms]⟩ hlookup

/-- A disjunction is a single term, so as a conjunction it is one filter on all records. -/
theorem ofConjunction_or (branches : List Filter) (ds : List IndexDescriptor) :
    ofConjunction (.or branches) ds
      = .ok { source := .collection, residual := some (.or branches) } := by
  have hcovered : ∀ d, covered [] d = 0 := by
    intro d
    rw [covered]
    cases d.fields.fields <;> rfl
  have hbest : bestIndex? [] ds = none := by
    simp [bestIndex?, hcovered]
  have hordered : orderedPlan? [.or branches] ds = none := by
    show (bestIndex? [] ds).map _ = none
    rw [hbest]
    rfl
  show (Except.ok ((orderedPlan? [.or branches] ds).getD _) : Result Plan) = _
  rw [hordered]
  rfl

end Plan

namespace View

open RecordStream

variable {v : View} {s : Store} {source stream : RecordStream} {P : Entry → Prop}

/-- The stages of a plan that sorts nothing draw what passes the residual filter. -/
theorem staged_draws {m : MapRef RecordId} {residual : Option Filter}
    {collation : Option Text.Collation} {skip limit : Option Int} (h : Draws m P source)
    (hstaged : staged residual [] collation skip limit source = .ok stream) :
    Draws m (fun e => P e ∧ Plan.Passes e.2 residual) stream := by
  have hsifted : Draws m (fun e => P e ∧ Plan.Passes e.2 residual) (sifted residual source) := by
    cases residual with
    | none => exact .mono h fun e he => ⟨he, nofun⟩
    | some f =>
      refine .mono (.filtered h) fun e he => ⟨he.1, fun g hg => ?_⟩
      cases hg
      exact he.2
  rw [staged] at hstaged
  split at hstaged
  · obtain ⟨skip, -, hstaged⟩ := Result.bind_eq_ok_iff.mp hstaged
    obtain ⟨limit, -, rfl⟩ := Result.map_eq_ok_iff.mp hstaged
    exact .bounded hsifted
  · cases hstaged
    exact hsifted

/-- The source of a plan without branches and lookups draws records of which the answered terms
were true. -/
theorem source_draws (hv : v.Consistent) {p : Plan} (hanswers : v.Answers p.source)
    (hlookup : ∀ x, p.source ≠ .byId x) {order : ScanOrder}
    (hsource : v.streamOfSource order p.source = .ok source) :
    Draws v.recordMap (fun e => p.isCollectionScan = false →
      ∃ old, (e.1, old) ∈ v.records ∧ ∀ g ∈ p.answered, g.apply old = .ok true) source := by
  rw [Plan.isCollectionScan, Plan.answered]
  cases hp : p.source with
  | collection =>
    rw [hp, streamOfSource] at hsource
    cases hsource
    refine .mono (.walk rfl) fun e _ hscan => ?_
    cases hscan
  | byId x => exact absurd hp (hlookup x)
  | index d conditions =>
    rw [hp] at hsource hanswers
    rw [streamOfSource] at hsource
    obtain ⟨ids, hids, rfl⟩ := Result.map_eq_ok_iff.mp hsource
    -- what is looked up later was found for the versions of the time of the scan
    obtain ⟨-, hmem⟩ := scan_spec hv hanswers hids
    refine .mono (.lookup fun id hid => (hmem id).mp hid) fun e he _ => ?_
    obtain ⟨old, hold, hid, hmeets⟩ := he
    refine ⟨old.2, hid ▸ hold, fun g hg => ?_⟩
    obtain ⟨c, hc, rfl⟩ := List.mem_map.mp hg
    exact hmeets c hc
  | union branches =>
    rw [hp] at hanswers
    exact hanswers.elim

/-- The stages on the source of the plan of a conjunction draw what the plan assures. -/
theorem draws_of_conjunction (hv : v.Consistent) {f : Filter} {ds : List IndexDescriptor}
    {p : Plan} (htext : f.hasText = false) (hlookup : ¬ f.FixesId)
    (h : Plan.ofConjunction f ds = .ok p) (hbacks : v.Backs p) {order : ScanOrder}
    {collation : Option Text.Collation} {skip limit : Option Int}
    (hstream : (v.streamOfSource order p.source).bind
      (staged p.residual [] collation skip limit) = .ok stream) :
    Draws v.recordMap (p.Assures v.records) stream := by
  obtain ⟨source, hsource, hstaged⟩ := Result.bind_eq_ok_iff.mp hstream
  have hnone := Plan.source_ne_byId_of_not_fixesId hlookup h
  have hdraws := source_draws hv (answers_ofConjunction htext h hbacks) hnone hsource
  refine .mono (staged_draws hdraws hstaged) fun e he => ⟨?_, he.1⟩
  exact (Plan.passes_iff p).mp he.2

/-- If each of some plans makes a stream with the property, so do all of them. -/
theorem streamsOf_draws {m : MapRef RecordId} {ps : List Plan} {streams : List RecordStream}
    (hone : ∀ p ∈ ps, ∀ stream, v.streamOf p = .ok stream → Draws m P stream)
    (h : v.streamsOf ps = .ok streams) : ∀ stream ∈ streams, Draws m P stream := by
  induction ps generalizing streams with
  | nil =>
    rw [streamsOf] at h
    cases h
    exact List.forall_mem_nil _
  | cons p ps ih =>
    rw [streamsOf] at h
    rw [List.forall_mem_cons] at hone
    obtain ⟨stream, hstream, h⟩ := Result.bind_eq_ok_iff.mp h
    obtain ⟨rest, hrest, rfl⟩ := Result.map_eq_ok_iff.mp h
    exact List.forall_mem_cons.mpr ⟨hone.1 stream hstream, ih hone.2 hrest⟩

/-- What a query assures of a record that it hands out: what the plan of its filter assures, or, if
the filter is a disjunction that has been taken apart, the plan of one of its branches. -/
def Assures (v : View) (ds : List IndexDescriptor) (f : Filter) (e : Entry) : Prop :=
  ∃ g p, (g = f ∨ ∃ branches, f = .or branches ∧ g ∈ branches) ∧ Plan.ofConjunction g ds = .ok p ∧
    (p.isCollectionScan = true → g = f) ∧ p.Assures v.records e

/-- The stream of a plan that sorts nothing draws what the query assures. -/
theorem streamOf_draws (hv : v.Consistent) {collation : Text.Collation} {f : Filter}
    {options : FindOptions} {ds : List IndexDescriptor} {p : Plan} (htext : f.hasText = false)
    (hlookups : f.LooksNothingUp) (hne : f ≠ .or []) (hsort : options.sort = [])
    (h : Plan.optimize collation f options ds = .ok p) (hbacks : v.Backs p)
    (hstream : v.streamOf p = .ok stream) : Draws v.recordMap (v.Assures ds f) stream := by
  obtain ⟨q, hq, hsource, hresidual⟩ := Plan.optimize_eq_ok h
  have hnone : p.sort = [] := by
    obtain ⟨q', hq', rfl⟩ := Result.map_eq_ok_iff.mp h
    rw [hsort]
    show q'.sort = []
    exact Plan.sort_ofFilter hq'
  have hbacks' : v.Backs q := hbacks.of_source hsource
  rw [streamOf_eq, hsource, hresidual, hnone] at hstream
  rcases Plan.ofFilter_cases hq with
    ⟨branches, ps, rfl, hps, rfl⟩ | ⟨branches, rfl, -, rfl⟩ | ⟨-, hconj⟩
  · -- every branch draws what its own plan assures
    have hbranches := Plan.ofBranches_eq_some hps
    -- there is a branch, as the query is no disjunction of nothing
    have hunite : ps.isEmpty = false := by
      cases hbranches with
      | nil => exact absurd rfl hne
      | cons _ _ => rfl
    have hunion : Plan.unite ps = { source := .union ps } := by
      rw [Plan.unite, hunite]
      rfl
    rw [hunion] at hstream hbacks'
    obtain ⟨source, hof, hstaged⟩ := Result.bind_eq_ok_iff.mp hstream
    rw [streamOfSource] at hof
    obtain ⟨streams, hstreams, rfl⟩ := Result.map_eq_ok_iff.mp hof
    have hdraws : ∀ stream ∈ streams, Draws v.recordMap (v.Assures ds (.or branches)) stream := by
      refine streamsOf_draws (fun q hq stream hstream => ?_) hstreams
      obtain ⟨g, hg, hplan, hscan⟩ := Plan.exists_branch hbranches hq
      have htext' : g.hasText = false := Filter.anyHasText_eq_false_iff.mp htext g hg
      rw [streamOf_eq, Plan.sort_ofConjunction hplan] at hstream
      have hone := draws_of_conjunction hv htext' (hlookups.2 branches rfl g hg) hplan
        (hbacks'.branch rfl hq) hstream
      refine .mono hone fun e he => ⟨g, q, Or.inr ⟨branches, rfl, hg⟩, hplan, fun hall => ?_, he⟩
      rw [hscan] at hall
      cases hall
    exact .mono (staged_draws (.distinct (.union hdraws)) hstaged) fun e he => he.1
  · have hplan := Plan.ofConjunction_or branches ds
    have hdraws := draws_of_conjunction hv htext hlookups.1 hplan hbacks' hstream
    exact .mono hdraws fun e he => ⟨_, _, Or.inl rfl, hplan, fun _ => rfl, he⟩
  · have hdraws := draws_of_conjunction hv htext hlookups.1 hconj hbacks' hstream
    exact .mono hdraws fun e he => ⟨_, _, Or.inl rfl, hconj, fun _ => rfl, he⟩

end View

/-! ### Cursors -/

namespace Cursor

open RecordStream

variable {m : MapRef RecordId} {P : Entry → Prop} {c c' : Cursor} {s : Store}
  {records : List Entry}

/-- Whether a cursor without processors reads from a stream that draws records with a property. -/
structure Draws (m : MapRef RecordId) (P : Entry → Prop) (c : Cursor) : Prop where
  processors : c.processors = []
  stream : RecordStream.Draws m P c.stream

/-- One pull hands out the document of a record with the property, and leaves a cursor that draws
the same. -/
theorem Draws.pull (h : c.Draws m P) (hread : (s.map m).read = .ok records)
    (hsorted : Sorted records)
    {item : Option (Result Document)} (hpull : c.pull s = (item, c')) :
    c'.Draws m P ∧ ∀ d, item = some (.ok d) → ∃ e ∈ records, e.2 = d ∧ P e := by
  have heach := h.stream.run hread hsorted
  have hended : Cursor.ended.Draws m P := ⟨rfl, .ended P⟩
  rw [Cursor.pull, Cursor.run, h.processors] at hpull
  cases hrun : c.stream.run s with
  | nil =>
    rw [hrun] at hpull
    cases hpull
    refine ⟨hended, fun d hd => ?_⟩
    cases hd
  | cons step rest =>
    obtain ⟨item', next⟩ := step
    rw [hrun] at hpull heach
    obtain ⟨⟨hitem, hnext⟩, -⟩ := each_cons.mp heach
    cases item' with
    | error err =>
      cases hpull
      refine ⟨hended, fun d hd => ?_⟩
      cases hd
    | ok e =>
      cases hpull
      refine ⟨⟨rfl, hnext⟩, fun d hd => ?_⟩
      cases hd
      obtain ⟨hstored, hP⟩ := hitem e rfl
      exact ⟨e, hstored, rfl, hP⟩

end Cursor

namespace Session

variable {σ : Type} {s s₀ s₁ : Session σ} {c₀ c₁ c₂ : Cursor} {f : Filter} {options : FindOptions}

/-- A collection and an open cursor after any number of successful operations and of pulls, in any
order. -/
inductive Interleaves (s : Session σ) (c : Cursor) : Session σ → Cursor → Prop
  | refl : Interleaves s c s c
  | operation {s₁ s₂ : Session σ} {c₁ : Cursor} (h : Interleaves s c s₁ c₁) (op : Operation)
      (hrun : op.run.perform s₁ = (.ok (), s₂)) : Interleaves s c s₂ c₁
  | pull {s₁ : Session σ} {c₁ c₂ : Cursor} {item : Option (Result Document)}
      (h : Interleaves s c s₁ c₁) (hpull : c₁.pull s₁.store = (item, c₂)) : Interleaves s c s₁ c₂

/-- One pull hands out the document of a stored record. -/
theorem Invariant.pull {P : Entry → Prop} (h : s₁.Invariant)
    (hsetting : s₁.view.setting = s₀.view.setting) (hdraws : c₁.Draws s₀.view.recordMap P)
    {item : Option (Result Document)} (hpull : c₁.pull s₁.store = (item, c₂)) :
    c₂.Draws s₀.view.recordMap P ∧
      ∀ d, item = some (.ok d) → ∃ e ∈ s₁.view.records, e.2 = d ∧ P e := by
  have hmap := View.recordMap_eq_of_setting_eq hsetting
  have hread := h.sound.read_records
  rw [hmap] at hread
  exact hdraws.pull hread h.consistent.sorted hpull

/-- Operations and pulls keep the collection in order, and the cursor draws what it drew. -/
theorem Interleaves.keeps {P : Entry → Prop} (hrun : Interleaves s₀ c₀ s₁ c₁) (h : s₀.Invariant)
    (hp : s₀.view.Plain) (hdraws : c₀.Draws s₀.view.recordMap P) :
    s₁.Invariant ∧ s₁.view.setting = s₀.view.setting ∧ c₁.Draws s₀.view.recordMap P := by
  induction hrun with
  | refl => exact ⟨h, rfl, hdraws⟩
  | operation _ op hop ih =>
    obtain ⟨hinv, hsetting, hcursor⟩ := ih
    have hplain := hp.of_setting hsetting
    exact ⟨hinv.step hplain hop (Or.inl rfl), (hinv.setting_eq hplain hop).trans hsetting, hcursor⟩
  | pull _ hpull ih =>
    obtain ⟨hinv, hsetting, hcursor⟩ := ih
    exact ⟨hinv, hsetting, (hinv.pull hsetting hcursor hpull).1⟩

/-- The cursor of a query draws what the query assures. -/
theorem draws_of_find (h : s.Sound) (hp : s.view.Plain) (hc : s.view.Consistent)
    (htext : f.hasText = false) (hlookups : f.LooksNothingUp) (hne : f ≠ .or [])
    (hsort : options.sort = [])
    (hopen : (Collection.find Listener.silent f options).perform s = (.ok c₀, s₀)) :
    s₀.Invariant ∧ s₀.view.Plain ∧ s₀.view.records = s.view.records ∧
      c₀.Draws s₀.view.recordMap (s₀.view.Assures s.view.offered f) := by
  obtain ⟨hsound, hv, hconsistent, hprocessors, p, hplan, hbacks, hstream⟩ := find_ok h hp hc hopen
  have hdraws := View.streamOf_draws hconsistent htext hlookups hne hsort hplan hbacks hstream
  refine ⟨.of_consistent hsound hconsistent, hp.of_setting hv.setting_eq, ?_, hprocessors, hdraws⟩
  rw [hv.eq_withIndexes]
  rfl

/-- A query without text conditions, lookups by id and sort keys is opened, and then pulled between
other operations. Every document that a pull hands out is stored under its id at that moment.

What is true of it is settled by the filter, or by one branch of it if the filter is a disjunction,
and by the plan of that conjunction. The terms that the plan keeps are true of the document, and the
terms that its scan has answered were true of the version of the record that was stored when the
cursor was opened; every term is one or the other. So the document passes the filter if the plan
reads all records, and it passes the filter or the branch if its record is as it was. -/
theorem pulled_meets (h : s.Sound) (hp : s.view.Plain) (hc : s.view.Consistent)
    (htext : f.hasText = false) (hlookups : f.LooksNothingUp) (hne : f ≠ .or [])
    (hsort : options.sort = [])
    (hopen : (Collection.find Listener.silent f options).perform s = (.ok c₀, s₀))
    (hrun : Interleaves s₀ c₀ s₁ c₁) {d : Document}
    (hpull : c₁.pull s₁.store = (some (.ok d), c₂)) :
    ∃ e ∈ s₁.view.records, e.2 = d ∧ ∃ g p,
      (g = f ∨ ∃ branches, f = .or branches ∧ g ∈ branches) ∧
      Plan.ofConjunction g s.view.offered = .ok p ∧ p.Divides g.conjuncts ∧
      (∀ t ∈ p.kept, t.apply d = .ok true) ∧
      (p.isCollectionScan = true → f.apply d = .ok true) ∧
      (p.isCollectionScan = false →
        ∃ old, (e.1, old) ∈ s.view.records ∧ ∀ t ∈ p.answered, t.apply old = .ok true) ∧
      (e ∈ s.view.records → g.apply d = .ok true) := by
  obtain ⟨hinv₀, hplain₀, hrecords, hdraws₀⟩ :=
    draws_of_find h hp hc htext hlookups hne hsort hopen
  -- what the stream draws is kept by pulls, and by operations as it speaks of the first view
  obtain ⟨hinv, hsetting, hdraws⟩ := hrun.keeps hinv₀ hplain₀ hdraws₀
  obtain ⟨e, he, rfl, g, p, hpart, hplan, hwhole, hassures⟩ :=
    (hinv.pull hsetting hdraws hpull).2 d rfl
  rw [hrecords] at hassures
  have htext' : g.hasText = false := by
    rcases hpart with rfl | ⟨branches, rfl, hg⟩
    · exact htext
    · exact Filter.anyHasText_eq_false_iff.mp htext g hg
  have hdivides := Plan.divides_ofConjunction htext' hplan
  refine ⟨e, he, rfl, g, p, hpart, hplan, hdivides, hassures.1, fun hscan => ?_, hassures.2, ?_⟩
  · rw [← hwhole hscan]
    exact hassures.passes_of_collection hdivides hscan
  · exact hassures.passes_of_mem hdivides hc.sorted.nodup_keys

/-- A query for the records whose `a` is true. -/
def wantsTrue : Filter := .compare ⟨"a", .eq (.bool true)⟩

/-- The query does not look for an id. -/
theorem wantsTrue_looksNothingUp : wantsTrue.LooksNothingUp := by
  constructor
  · rintro ⟨v, hmem⟩
    have hfield : "_id" = "a" :=
      congrArg Comparison.field (Filter.compare.inj (List.mem_singleton.mp hmem))
    exact absurd hfield (by decide)
  · intro branches hor
    cases hor

/-- The query is no disjunction. -/
theorem wantsTrue_ne_or (branches : List Filter) : wantsTrue ≠ .or branches := by
  intro hor
  cases hor

/-- A cursor on the second of two records, found by the index on `a`, is pulled after the record
has been updated: it hands out the new version. -/
theorem exists_late_pull :
    ∃ (s s₀ s₁ : Session Unit) (c₀ c₁ : Cursor), s.Sound ∧ s.view.Plain ∧ s.view.Consistent ∧
      (∀ i ∈ s.view.indexes, s.view.trusts i = true) ∧ s.view.records = rivalRecords ∧
      s.view.offered = [⟨.nonUnique, ⟨["a"]⟩, "c"⟩] ∧
      (Collection.find Listener.silent wantsTrue {}).perform s = (.ok c₀, s₀) ∧
      (Operation.update ⟨2⟩ ⟨[("a", .bool false)]⟩).run.perform s₀ = (.ok (), s₁) ∧
      c₀.pull s₁.store =
        (some (.ok ⟨[("_id", .string "2"), ("a", .bool false)]⟩), c₁) := by
  let d : IndexDescriptor := ⟨.nonUnique, ⟨["a"]⟩, "c"⟩
  let v : View := .firstBuilt rivalRecords d []
  let old : Document := ⟨[("_id", .string "2"), ("a", .bool true)]⟩
  let new : Document := ⟨[("a", .bool false)]⟩
  let p : Plan := { source := .index d [⟨"a", .eq (.bool true)⟩], collation := some .binary }
  obtain ⟨s, h, hp, hc, hview⟩ : ∃ s : Session Unit, s.Sound ∧ s.view.Plain ∧ s.view.Consistent ∧
      s.view = v :=
    exists_first_built (by decide) rivalRecords_own (by decide)
  have htrusts : ∀ i ∈ v.indexes, v.trusts i = true := by decide +kernel
  have hfit : ∃ i ∈ v.indexes, i.descriptor = d ∧ v.trusts i = true := by decide +kernel
  have hoffered : v.offered = [d] := by decide +kernel
  have hplan : Plan.optimize v.config.collation wantsTrue {} v.offered = .ok p := by
    rw [hoffered]
    rfl
  have hstream : v.streamOf p = .ok (.lookup ⟨0⟩ [⟨2⟩]) := by rfl
  rw [← hview] at hplan hfit
  -- the scan has found the second record
  obtain ⟨s₀, hs₀, hreach₀⟩ := does_find_of_fit h hplan fun d' hd' => by
    rw [List.mem_singleton.mp hd']
    exact hfit
  rw [hview, hstream] at hs₀
  have hview₀ : s₀.view = v := hreach₀.view.trans hview
  have hold : s₀.view.record ⟨2⟩ = some old := by
    rw [hview₀]
    rfl
  -- the record changes before the cursor is pulled
  obtain ⟨s₁, hs₁, hreach₁⟩ := does_update hreach₀.sound (by rw [hview₀]; rfl) hold new
  rw [hview₀] at hs₁ hreach₁
  have hdone : (v.update ⟨2⟩ old (new.setId ⟨2⟩)).1 = .ok () := by rfl
  have hrecords : (v.update ⟨2⟩ old (new.setId ⟨2⟩)).2.records
      = [(⟨1⟩, ⟨[("_id", .string "1"), ("a", .bool false)]⟩),
        (⟨2⟩, ⟨[("_id", .string "2"), ("a", .bool false)]⟩)] := by
    rw [View.update_records hdone]
    rfl
  have hmap : (v.update ⟨2⟩ old (new.setId ⟨2⟩)).2.recordMap = v.recordMap :=
    View.recordMap_eq_of_setting_eq (View.update_setting _ _ _ _)
  have hstart : v.recordMap = ⟨0⟩ := rfl
  have hread := hreach₁.sound.read_records
  rw [hreach₁.view, hrecords, hmap, hstart] at hread
  rw [hdone] at hs₁
  refine ⟨s, s₀, s₁, ⟨.lookup ⟨0⟩ [⟨2⟩], []⟩, ⟨.lookup ⟨0⟩ [], []⟩, h, hp, hc, ?_, ?_, ?_, hs₀,
    hs₁, ?_⟩
  · rw [hview]
    exact htrusts
  · rw [hview]
    rfl
  · rw [hview]
    exact hoffered
  · simp only [Cursor.pull, Cursor.run, RecordStream.run, RecordStream.runLookup, hread]
    rfl

/-- The document that a late pull hands out is stored, and the scan has answered the query on the
version before it. -/
theorem pulled_meets_old_version :
    ∃ (s s₀ s₁ : Session Unit) (c₀ c₁ : Cursor) (d : Document),
      s.Sound ∧ s.view.Plain ∧ s.view.Consistent ∧ wantsTrue.hasText = false ∧
      wantsTrue.LooksNothingUp ∧ wantsTrue ≠ .or [] ∧
      (Collection.find Listener.silent wantsTrue {}).perform s = (.ok c₀, s₀) ∧
      Interleaves s₀ c₀ s₁ c₀ ∧ c₀.pull s₁.store = (some (.ok d), c₁) ∧
      ∃ e ∈ s₁.view.records, e.2 = d ∧
        ∃ old, (e.1, old) ∈ s.view.records ∧ wantsTrue.apply old = .ok true := by
  obtain ⟨s, s₀, s₁, c₀, c₁, h, hp, hc, -, -, hoffered, hfind, hupdate, hpull⟩ := exists_late_pull
  have hrun : Interleaves s₀ c₀ s₁ c₀ := .operation .refl _ hupdate
  obtain ⟨e, he, hd, g, p, hpart, hplan, -, -, -, hanswered, -⟩ :=
    pulled_meets h hp hc rfl wantsTrue_looksNothingUp (wantsTrue_ne_or []) rfl hfind hrun hpull
  have hwhole : g = wantsTrue := by
    rcases hpart with hg | ⟨branches, hor, -⟩
    · exact hg
    · cases hor
  rw [hwhole, hoffered] at hplan
  cases hplan
  obtain ⟨old, hold, hterms⟩ := hanswered rfl
  exact ⟨s, s₀, s₁, c₀, c₁, _, h, hp, hc, rfl, wantsTrue_looksNothingUp, wantsTrue_ne_or [], hfind,
    hrun, hpull, e, he, hd, old, hold, hterms _ List.mem_cons_self⟩

/-- A document that is handed out need not pass the filter: after an update it is another one
than the scan has found. -/
theorem not_always_passing_when_pulled :
    ∃ (s s₀ s₁ : Session Unit) (f : Filter) (c₀ c₁ : Cursor) (id : RecordId) (new d : Document),
      s.Sound ∧ s.view.Plain ∧ s.view.Consistent ∧ (∀ i ∈ s.view.indexes, s.view.trusts i = true) ∧
      f.hasText = false ∧ f.LooksNothingUp ∧ f ≠ .or [] ∧
      (Collection.find Listener.silent f {}).perform s = (.ok c₀, s₀) ∧
      (Operation.update id new).run.perform s₀ = (.ok (), s₁) ∧
      Interleaves s₀ c₀ s₁ c₀ ∧ c₀.pull s₁.store = (some (.ok d), c₁) ∧ f.apply d = .ok false := by
  obtain ⟨s, s₀, s₁, c₀, c₁, h, hp, hc, htrusts, -, -, hfind, hupdate, hpull⟩ := exists_late_pull
  have hfails : wantsTrue.apply ⟨[("_id", .string "2"), ("a", .bool false)]⟩ = .ok false := by cbv
  exact ⟨s, s₀, s₁, wantsTrue, c₀, c₁, _, _, _, h, hp, hc, htrusts, rfl, wantsTrue_looksNothingUp,
    wantsTrue_ne_or [], hfind, hupdate, .operation .refl _ hupdate, hpull, hfails⟩

end Session

end DocumentDb
