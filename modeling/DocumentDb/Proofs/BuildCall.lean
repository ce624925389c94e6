import DocumentDb.Proofs.BuildWindow
import DocumentDb.Proofs.FailedWrites

/-!
# `DocumentDb.Proofs.BuildCall`: nothing is lost while an index is being built

`BuildCall` is a call that builds an index: one that creates it or one that builds it anew. It
is refused before a build starts, or it starts one in a certain session (`BuildCall.StartsIn`)
and hands that to the listener. `BuildCall.Start` is what is known of the session then, and
`Start.run_spec` what comes of it when the listener performs operations on documents.

`BuildCall.built_exactly` is the main result. The two kinds of calls differ in one point: a
rebuild empties the index before the walk, while a creation walks over an index that has the
entries of the operations already. They must not be stale then, which is the part of the
invariant that depends on the call (`BuildCall.first`).
-/

set_option autoImplicit false

namespace DocumentDb

open Session

/-- A call that builds an index. -/
inductive BuildCall
  | create (fields : FieldPath) (kind : IndexKind)
  | rebuild (fields : FieldPath)

namespace BuildCall

variable {σ : Type} {s s₁ : Session σ} {call : BuildCall} {guard : Guard} {d : IndexDescriptor}
  {ops : List Operation}

/-- The fields of the index. -/
def fields : BuildCall → FieldPath
  | create fields _ | rebuild fields => fields

/-- Whether the build empties the index before it walks the records. -/
def empties : BuildCall → Bool
  | create .. => false
  | rebuild _ => true

/-- The fields whose build does not empty the index. -/
def first (call : BuildCall) : List FieldPath := if call.empties then [] else [call.fields]

/-- Makes the call, and leaves its value out. -/
def run (listener : Listener σ) : BuildCall → SessionM σ Unit
  | create fields kind => do let _ ← Collection.createIndex listener fields kind
  | rebuild fields => Collection.rebuildIndex listener fields

/-- Whether a call comes to build: the flag is free, and there can be a new index on the fields, or
there is one. -/
def Allowed (v : View) : BuildCall → Prop
  | create fields kind => v.isBuilding fields = false ∧ v.Registrable fields kind
  | rebuild fields => v.isBuilding fields = false ∧ ∃ i ∈ v.indexes, i.descriptor.fields = fields

/-- The session in which a call starts its build. Whatever the listener is, the call comes to what
the build comes to from there, and the build begins with the announcement. -/
def StartsIn (call : BuildCall) (s s₁ : Session σ) : Prop :=
  ∃ guard d, d.fields = call.fields ∧ ∀ listener, (call.run listener).perform s
    = (Indexing.buildHolding listener guard d call.empties).perform s₁

/-- What is known of the session in which a call starts its build. -/
structure Start (call : BuildCall) (s s₁ : Session σ) (guard : Guard) (d : IndexDescriptor) :
    Prop where
  fields_eq : d.fields = call.fields
  run_eq : ∀ listener, (call.run listener).perform s
    = (Indexing.buildHolding listener guard d call.empties).perform s₁
  sound : s₁.Sound
  plain : s₁.view.Plain
  window : View.Window s₁.view call.first d s₁.view
  held_eq : s₁.view.held = s.view.held ++ [(call.fields, guard)]
  free : s.view.isBuilding call.fields = false
  new : ∀ p ∈ s.view.held, p.2 ≠ guard

/-! ### Starts -/

/-- A call for a new index registers it and builds it. -/
theorem perform_run_create (h : s.Sound) (listener : Listener σ) (fields : FieldPath)
    (kind : IndexKind) :
    ((create fields kind).run listener).perform s
      = (register fields kind >>= fun p =>
          Indexing.buildHolding listener p.1 p.2 false).perform s := by
  unfold run Collection.createIndex
  simp only [Action.perform_bind, perform_checkOpen h, create_eq]
  rcases (register fields kind).perform s with ⟨e | p, s₁⟩
  · rfl
  · dsimp only
    rcases (Indexing.buildHolding listener p.1 p.2 false).perform s₁ with ⟨e | _, s₂⟩ <;> rfl

/-- A call for a rebuild claims the index and builds it. -/
theorem perform_run_rebuild (h : s.Sound) (listener : Listener σ) (fields : FieldPath) :
    ((rebuild fields).run listener).perform s
      = (claim fields >>= fun p =>
          Indexing.buildHolding listener p.1 p.2 true).perform s := by
  unfold run Collection.rebuildIndex
  rw [Action.perform_bind, perform_checkOpen h, ← rebuild_eq]

/-- A creation is refused, or it starts the build of a new index that is empty. -/
theorem start_create (h : s.Sound) (hp : s.view.Plain) (hc : s.view.Consistent)
    (fields : FieldPath) (kind : IndexKind) :
    (¬ (create fields kind).Allowed s.view ∧
        ∃ e s', ∀ listener, ((create fields kind).run listener).perform s = (.error e, s')) ∨
      ∃ guard d before after s₁, d = ⟨kind, fields, s.view.name⟩ ∧
        s.view.indexes = before ++ after ∧
        s₁.view = { s.view with
          held := s.view.held ++ [(fields, guard)]
          indexes := before ++ ⟨d, true, .empty d⟩ :: after } ∧
        (create fields kind).Start s s₁ guard d := by
  simp only [perform_run_create h, Action.perform_bind]
  rcases does_register h fields kind with ⟨hnot, e, s', hrefused, -⟩ |
    ⟨guard, d, before, after, hd, hindexes, hfree, hnew, s₁, hregister, hreach⟩
  · exact Or.inl ⟨hnot, e, s', fun listener => by rw [hrefused]⟩
  · have hfields : d.fields = fields := by rw [hd]
    have hheld : s₁.view.held = s.view.held ++ [(fields, guard)] := by rw [hreach.view]
    have hthere : ⟨d, true, .empty d⟩ ∈ s₁.view.indexes := by
      rw [hreach.view]
      exact List.mem_append_right _ List.mem_cons_self
    -- the index that is being built is the new one, which is empty
    have hunderway : s₁.view.Underway [fields] := by
      have hdistinct := hreach.sound.nodup_fields
      have hbuilding := View.isBuilding_of_held_eq hheld
      rw [hreach.view] at hdistinct hbuilding ⊢
      rw [← hfields] at hbuilding ⊢
      exact hc.underway_created hindexes hdistinct hbuilding
    refine Or.inr ⟨guard, d, before, after, s₁, hd, hindexes, hreach.view, ?_⟩
    exact {
      fields_eq := hfields
      run_eq := fun listener => by rw [perform_run_create h, Action.perform_bind, hregister]; rfl
      sound := hreach.sound
      plain := by
        rw [hreach.view]
        exact ⟨hp.extractor, hp.processors⟩
      window := {
        setting_eq := rfl
        indexed := List.mem_map.mpr ⟨_, hthere, rfl⟩
        underway := hunderway }
      held_eq := hheld
      free := hfree
      new := hnew }

/-- A rebuild is refused, or it starts the build of an index that is there. -/
theorem start_rebuild (h : s.Sound) (hp : s.view.Plain) (hc : s.view.Consistent)
    (fields : FieldPath) :
    (¬ (rebuild fields).Allowed s.view ∧
        ∃ e s', ∀ listener, ((rebuild fields).run listener).perform s = (.error e, s')) ∨
      ∃ guard i s₁, i ∈ s.view.indexes ∧
        s₁.view = { s.view with held := s.view.held ++ [(fields, guard)] } ∧
        (rebuild fields).Start s s₁ guard i.descriptor := by
  simp only [perform_run_rebuild h, Action.perform_bind]
  rcases does_claim h fields with ⟨hnot, e, hrefused⟩ |
    ⟨guard, i, hi, hfields, hfree, hnew, s₁, hclaim, hreach⟩
  · exact Or.inl ⟨hnot, e, s, fun listener => by rw [hrefused]⟩
  · refine Or.inr ⟨guard, i, s₁, hi, hreach.view, ?_⟩
    have hindexes : s₁.view.indexes = s.view.indexes := by rw [hreach.view]
    have hrecords : s₁.view.records = s.view.records := by rw [hreach.view]
    exact {
      fields_eq := hfields
      run_eq := fun listener => by rw [perform_run_rebuild h, Action.perform_bind, hclaim]; rfl
      sound := hreach.sound
      plain := by
        rw [hreach.view]
        exact ⟨hp.extractor, hp.processors⟩
      window := {
        setting_eq := rfl
        indexed := List.mem_map.mpr ⟨i, hindexes ▸ hi, rfl⟩
        -- the build empties its index, so nothing is asked of what is in it
        underway := {
          sorted := hrecords ▸ hc.sorted
          own := hrecords ▸ hc.own
          building := nofun
          fillable := fun j hj => ⟨(hc.keeps j (hindexes ▸ hj)).wellFormed, nofun⟩ } }
      held_eq := by rw [hreach.view]; rfl
      free := hfree
      new := hnew }

/-- A call that is not allowed fails without a build, and any other one starts a build. -/
theorem start (h : s.Sound) (hp : s.view.Plain) (hc : s.view.Consistent) (call : BuildCall) :
    (¬ call.Allowed s.view ∧
        ∃ e s', ∀ listener, (call.run listener).perform s = (.error e, s')) ∨
      ∃ guard d s₁, call.Start s s₁ guard d := by
  cases call with
  | create fields kind =>
    refine (start_create h hp hc fields kind).imp_right ?_
    rintro ⟨guard, d, before, after, s₁, -, -, -, hstart⟩
    exact ⟨guard, d, s₁, hstart⟩
  | rebuild fields =>
    refine (start_rebuild h hp hc fields).imp_right ?_
    rintro ⟨guard, i, s₁, -, -, hstart⟩
    exact ⟨guard, i.descriptor, s₁, hstart⟩

/-! ### The window and the walk -/

namespace Start

variable (hstart : call.Start s s₁ guard d) (hops : ∀ op ∈ ops, op.onDocuments = true)

include hstart hops

/-- The session after operations in the window. -/
theorem performAll_window : (Operation.performAll ops s₁).Sound ∧
    View.Window s₁.view call.first d (Operation.performAll ops s₁).view :=
  Operation.performAll_window hstart.plain hops hstart.sound hstart.window

/-- The flag is held all along. -/
theorem protects : (Operation.performAll ops s₁).Protects call.fields := by
  obtain ⟨hsound, hwindow⟩ := hstart.performAll_window hops
  have hheld := (View.held_eq_of_setting_eq hwindow.setting_eq).trans hstart.held_eq
  exact hsound.protects (View.isBuilding_of_held_eq hheld)

/-- The build comes to its end exactly when the index can be built from the documents that the
operations in the window have left. Then it is clean and exact, and its flag is free. -/
theorem run_spec :
    (d.Buildable (Operation.performAll ops s₁).view.config.tokenizer
          (Operation.performAll ops s₁).view.records ∧
        ∃ s', (call.run (.during call.fields ops)).perform s = (.ok (), s') ∧
          s'.view.records = (Operation.performAll ops s₁).view.records ∧
          s'.view.isBuilding call.fields = false ∧
          ∃ i ∈ s'.view.indexes, i.descriptor.fields = call.fields ∧ i.dirty = false ∧
            i.Exact s'.view.config s'.view.records) ∨
      (¬ d.Buildable (Operation.performAll ops s₁).view.config.tokenizer
          (Operation.performAll ops s₁).view.records ∧
        ∃ e s', (call.run (.during call.fields ops)).perform s = (.error e, s')) := by
  obtain ⟨hsound, hwindow⟩ := hstart.performAll_window hops
  obtain ⟨t, ht⟩ : ∃ t, t = Operation.performAll ops s₁ := ⟨_, rfl⟩
  rw [← ht] at hsound hwindow ⊢
  obtain ⟨i, hi, rfl⟩ := List.mem_map.mp hwindow.indexed
  have hfields := hstart.fields_eq
  have hfillable := hwindow.underway.fillable i hi
  -- a creation keeps what the window has left in the index, which must not be stale
  have hsourced : call.empties = false → i.Sourced t.view.config.tokenizer t.view.records := by
    intro hempties
    refine hfillable.sourced ?_
    rw [first, hempties, hfields]
    exact List.mem_singleton_self _
  have hheard : Listener.during call.fields ops (.buildStart i.descriptor.fields) s₁ = t := by
    rw [Listener.during, if_pos hfields, ht]
  obtain ⟨s', hs', hreach⟩ := buildHolding_spec (.during call.fields ops) guard call.empties hheard
    (fun _ => rfl) hsound hi
  have hplain := (hstart.plain.of_setting hwindow.setting_eq).extractor
  rw [hstart.run_eq, hs']
  rcases hfillable.wellFormed.fill_spec hplain hwindow.underway.own hsourced with
    ⟨hbuild, i', hrun, hclean, hexact⟩ | ⟨hnot, e, i', hrun, -⟩
  · have hd := IndexState.fill_descriptor t.view.config t.view.documents call.empties i
    rw [View.documents] at hd hreach ⊢
    rw [hrun] at hd hreach ⊢
    refine Or.inl ⟨hbuild, s', rfl, ?_, ?_, i', ?_, ?_, hclean, ?_⟩
    · rw [hreach.view]
      rfl
    · -- the guard of the build takes its own flag away and no other
      rw [View.isBuilding, hreach.view]
      have hheld := (View.held_eq_of_setting_eq hwindow.setting_eq).trans hstart.held_eq
      dsimp only
      rw [hheld, filter_held _ _ hstart.new]
      exact hstart.free
    · rw [hreach.view]
      exact View.mem_put hi (by rw [hd])
    · rw [hd, hfields]
    · rw [hreach.view]
      exact hexact
  · rw [View.documents, hrun]
    exact Or.inr ⟨hnot, e, s', rfl⟩

end Start

/-- Whatever operations on documents a listener performs when a build starts, none is lost. The
call is refused before that. Or it starts its build in a session from which the listener goes
on. After each of the operations the index is out of all plans, and it can neither be built anew
nor dropped. And if the call succeeds, the documents are those that the operations have left,
the flag is free, and the index is clean and has the entries of these documents and no others. -/
theorem built_exactly (h : s.Sound) (hp : s.view.Plain) (hc : s.view.Consistent)
    (call : BuildCall) (hops : ∀ op ∈ ops, op.onDocuments = true) :
    (¬ call.Allowed s.view ∧
        ∃ e s', ∀ listener, (call.run listener).perform s = (.error e, s')) ∨
      ∃ s₁, call.StartsIn s s₁ ∧
        (∀ done, done <+: ops → (Operation.performAll done s₁).Protects call.fields) ∧
        ∀ s', (call.run (.during call.fields ops)).perform s = (.ok (), s') →
          s'.view.records = (Operation.performAll ops s₁).view.records ∧
          s'.view.isBuilding call.fields = false ∧
          ∃ i ∈ s'.view.indexes, i.descriptor.fields = call.fields ∧ i.dirty = false ∧
            i.Exact s'.view.config s'.view.records := by
  refine (call.start h hp hc).imp_right ?_
  rintro ⟨guard, d, s₁, hstart⟩
  refine ⟨s₁, ⟨guard, d, hstart.fields_eq, hstart.run_eq⟩, ?_, ?_⟩
  · intro done hdone
    exact hstart.protects fun op hop => hops op (hdone.subset hop)
  · intro s' hok
    rcases hstart.run_spec hops with ⟨-, s'', hs'', hbuilt⟩ | ⟨-, e, s'', hs''⟩ <;>
      rw [hok] at hs''
    · obtain ⟨-, rfl⟩ := Prod.mk.inj hs''
      exact hbuilt
    · cases hs''

/-- A unique index is created over two records. Before the walk the first of them is removed and
a new one with its value is inserted. The index is exact for the second and the new one. -/
theorem built_exactly_successor :
    ∃ (s s' : Session Unit) (call : BuildCall) (ops : List Operation) (i : IndexState),
      s.Sound ∧ s.view.Plain ∧ s.view.Consistent ∧ s.view.records = rivalRecords ∧
        (∀ op ∈ ops, op.onDocuments = true) ∧
        (call.run (.during call.fields ops)).perform s = (.ok (), s') ∧
        s'.view.records.map (·.1) = [⟨2⟩, ⟨3⟩] ∧
        i ∈ s'.view.indexes ∧ i.descriptor.fields = ⟨["a"]⟩ ∧ i.dirty = false ∧
        i.Exact s'.view.config s'.view.records := by
  let a : IndexDescriptor := ⟨.unique, ⟨["a"]⟩, "c"⟩
  let old : Document := ⟨[("_id", .string "1"), ("a", .bool false)]⟩
  let new : Document := ⟨[("_id", .string "3"), ("a", .bool false)]⟩
  let left : List (RecordId × Document) :=
    [(⟨2⟩, ⟨[("_id", .string "2"), ("a", .bool true)]⟩), (⟨3⟩, new)]
  let call : BuildCall := .create ⟨["a"]⟩ .unique
  let ops : List Operation := [.remove ⟨1⟩, .insert new]
  have hops : ∀ op ∈ ops, op.onDocuments = true := by decide
  obtain ⟨s, h, hview⟩ : ∃ s : Session Unit, s.Sound ∧
      s.view = ⟨"c", {}, [], ⟨0⟩, [], rivalRecords, []⟩ :=
    exists_unbuilt "c" {} [] (by decide) rfl (by decide) .nil
  have hp : s.view.Plain := by
    rw [hview]
    exact ⟨rfl, rfl⟩
  have hc : s.view.Consistent := by
    rw [hview]
    exact {
      sorted := by decide
      distinct := .nil
      own := rivalRecords_own
      keeps := nofun }
  rcases start_create h hp hc ⟨["a"]⟩ .unique with ⟨hnot, -⟩ |
    ⟨guard, d, before, after, s₁, rfl, hindexes, hview₁, hstart⟩
  · rw [hview] at hnot
    exact absurd ⟨rfl, rfl, nofun⟩ hnot
  have hname : s.view.name = "c" := by rw [hview]
  rw [hname] at hview₁ hstart
  rw [hview] at hindexes hview₁
  obtain ⟨rfl, rfl⟩ := List.append_eq_nil_iff.mp hindexes.symm
  -- the window, operation by operation
  have hthere : s₁.view.record ⟨1⟩ = some old := by
    rw [hview₁]
    rfl
  obtain ⟨s₂, hremove, hreach₂⟩ :=
    (does_remove_there hstart.sound hstart.plain.processors hthere).then_map fun _ => ()
  have hp₂ : s₂.view.processors = [] := by
    rw [hreach₂.view, View.processors_eq_of_setting_eq (View.remove_setting _ _ _)]
    exact hstart.plain.processors
  obtain ⟨s₃, hinsert, hreach₃⟩ : ∃ s₃, ((Operation.insert new).run.perform s₂).2 = s₃ ∧
      Reaches s₂ s₃ (s₂.view.insert ⟨3⟩ new).2 := by
    have hnew : s₂.view.record ⟨3⟩ = none := by
      rw [hreach₂.view, hview₁]
      rfl
    obtain ⟨s₃, hs₃, hreach₃⟩ :=
      (does_insert_named hreach₂.sound hp₂ (d := new) rfl hnew).then_map fun _ => ()
    exact ⟨s₃, congrArg Prod.snd hs₃, hreach₃⟩
  have hwindow : Operation.performAll ops s₁ = s₃ := by
    show ((Operation.insert new).run.perform ((Operation.remove ⟨1⟩).run.perform s₁).2).2 = s₃
    rw [show ((Operation.remove ⟨1⟩).run.perform s₁).2 = s₂ from congrArg Prod.snd hremove]
    exact hinsert
  have hleft : s₃.view.records = left := by
    rw [hreach₃.view, hreach₂.view, hview₁]
    rfl
  have hconfig : s₃.view.config = {} := by
    rw [hreach₃.view, hreach₂.view, hview₁]
    rfl
  have hbuild : a.Buildable (Config.tokenizer {}) left := by
    have hends : ((IndexState.fill {} (left.map (·.2)) false).perform
        ⟨a, true, .empty a⟩).1.toOption.isSome = true := by decide +kernel
    have hplain : ({} : Config).customExtractor = none := rfl
    have hwf : IndexState.WellFormed ⟨a, true, .empty a⟩ := Content.wellFormed_empty a
    have hown : ∀ e ∈ left, e.2.id = .ok (some e.1) := by
      simp only [left, List.forall_mem_cons]
      exact ⟨rfl, rfl, List.forall_mem_nil _⟩
    rcases hwf.fill_spec hplain hown fun _ => IndexState.sourced_empty rfl _ _ with
      ⟨hbuild, -⟩ | ⟨-, e, i', hrun, -⟩
    · exact hbuild
    · rw [hrun] at hends
      cases hends
  rcases hstart.run_spec hops with ⟨-, s', hok, hrecords, -⟩ | ⟨hnot, -⟩
  · rcases built_exactly h hp hc call hops with ⟨-, e, s'', hrefused⟩ | ⟨s₀, -, -, hbuilt⟩
    · cases (hrefused _).symm.trans hok
    · obtain ⟨-, -, i, hi, hfields, hclean, hexact⟩ := hbuilt s' hok
      refine ⟨s, s', call, ops, i, h, hp, hc, ?_, hops, hok, ?_, hi, hfields, hclean, hexact⟩
      · rw [hview]
      · rw [hrecords, hwindow, hleft]
        rfl
  · rw [hwindow, hleft, hconfig] at hnot
    exact absurd hbuild hnot

end BuildCall

end DocumentDb
