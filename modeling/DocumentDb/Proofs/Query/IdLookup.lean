import DocumentDb.Proofs.Opening
import DocumentDb.Proofs.Query.Answers
import DocumentDb.Proofs.RecordId

/-!
# `DocumentDb.Proofs.Query.IdLookup`: ids as texts and in queries

A query whose conjuncts fix the record id looks the record up and evaluates the other conjuncts on
it. `Session.does_find_of_fixed` gives the stream of such a query, and `Cursor.drain_lookup` what it
hands out: one record at most, or the error of the other conjuncts. `id_texts_and_lookups_agree`
puts this together with what is known of the texts of ids.

The plan of such a query scans no index, so nothing is rebuilt for it and listeners hear nothing
(`Session.perform_find_of_no_indexes`).
-/

set_option autoImplicit false

namespace DocumentDb

namespace Plan

variable {f : Filter} {v : Value} {rest : List Filter}

/-- The first element that is accepted is taken out of its place. -/
theorem pick?_append_cons {α β : Type} {g : α → Option β} {before after : List α} {x : α} {b : β}
    (hbefore : ∀ y ∈ before, g y = none) (hx : g x = some b) :
    pick? g (before ++ x :: after) = some (b, before ++ after) := by
  induction before with
  | nil => simp only [List.nil_append, pick?, hx]
  | cons y before ih =>
    rw [List.forall_mem_cons] at hbefore
    simp only [List.cons_append, pick?, hbefore.1, ih hbefore.2, Option.map_some]

/-- The conjunct that fixes the id is found wherever it stands, if no other one does. -/
theorem pick?_fixedId? {before after : List Filter} {others : Filter}
    (hothers : others.conjuncts = before ++ after) (hfixes : ¬ others.FixesId) :
    pick? fixedId? (before ++ .compare ⟨idField, .eq v⟩ :: after) = some (v, before ++ after) := by
  refine pick?_append_cons (fun g hg => ?_) (fixedId?_eq_some.mpr rfl)
  rw [Option.eq_none_iff_forall_ne_some]
  intro w hw
  refine hfixes ⟨w, ?_⟩
  rw [hothers, ← fixedId?_eq_some.mp hw]
  exact List.mem_append_left after hg

/-- The plan of a query that fixes the record id, whatever indexes there are. -/
theorem optimize_of_fixed (hpick : pick? fixedId? f.conjuncts = some (v, rest))
    (collation : Text.Collation) (ds : List IndexDescriptor) :
    optimize collation f {} ds
      = .ok { source := .byId v, residual := residualOf rest, collation := some collation } := by
  have hfilter : ofFilter f ds = ofConjunction f ds := by
    cases f with
    | or branches => cases hpick
    | _ => rfl
  rw [optimize, hfilter, ofConjunction_of_fixed hpick]
  rfl

end Plan

/-- What a cursor hands out that looks one record up and sifts it. -/
theorem Cursor.drain_lookup {store : Store} {m : MapRef RecordId} {records : List Entry}
    (hread : (store.map m).read = .ok records) (id : RecordId) (terms : List Filter) :
    Cursor.drain store ⟨RecordStream.sifted (Plan.residualOf terms) (.lookup m [id]), []⟩
      = match SortedEntries.get? id records with
        | none => []
        | some d => match Filter.applyAll d terms with
          | .ok true => [.ok d]
          | .ok false => []
          | .error e => [.error e] := by
  rw [Cursor.drain, Cursor.run]
  cases hthere : SortedEntries.get? id records with
  | none =>
    -- an id without a record is passed over
    have hlookup : RecordStream.runLookup m store [id] = [] := by
      simp only [RecordStream.runLookup, hread, hthere]
    cases Plan.residualOf terms with
    | none => simp only [RecordStream.sifted, RecordStream.run, hlookup, readRun, List.map_nil]
    | some f =>
      simp only [RecordStream.sifted, RecordStream.run, hlookup, RecordStream.runFiltered, readRun,
        List.map_nil]
  | some d =>
    have hlookup : RecordStream.runLookup m store [id] = [(.ok (id, d), .lookup m [])] := by
      simp only [RecordStream.runLookup, hread, hthere]
    dsimp only
    -- the residual filter decides as the terms do, one after the other
    rw [← Plan.apply_residualOf d terms]
    cases Plan.residualOf terms with
    | none =>
      simp only [RecordStream.sifted, RecordStream.run, hlookup]
      rfl
    | some f =>
      simp only [RecordStream.sifted, RecordStream.run, hlookup, RecordStream.runFiltered,
        Option.elim_some]
      rcases f.apply d with e | _ | _ <;> rfl

namespace Session

variable {σ : Type} {s : Session σ} {f rest : Filter} {before after : List Filter}
  {listener : Listener σ} {id : RecordId}

/-- A query whose plan scans no index, whatever indexes there are, does not depend on listeners. -/
theorem perform_find_of_no_indexes {options : FindOptions} {plan : Text.Collation → Plan}
    (hplan : ∀ collation ds, Plan.optimize collation f options ds = .ok (plan collation))
    (hnone : ∀ collation, (plan collation).indexes = []) (s : Session σ) :
    (Collection.find listener f options).perform s
      = (Collection.find Listener.silent f options).perform s := by
  have hplanned : ∀ (l : Listener σ) (collation : Text.Collation) (ds : List IndexDescriptor)
      (s : Session σ),
      (Indexing.planOver l
          (fun ds => Action.ofResult (Plan.optimize collation f options ds)) ds).perform s
        = (.ok (plan collation), s) := by
    intro l collation ds s
    rw [Indexing.planOver, hplan]
    simp only [Action.perform_bind, Action.perform_ofResult, hnone, Indexing.prepareAll,
      Action.perform_pure, withdraw_nil, lt_irrefl, if_false]
  simp only [Collection.find, Collection.explain, Indexing.plan, Action.perform_bind, hplanned]

/-- A query that fixes the record id. -/
theorem does_find_of_fixed (h : s.Sound)
    (hf : f.conjuncts = before ++ .compare ⟨idField, .eq (.string id.render)⟩ :: after)
    (hrest : rest.conjuncts = before ++ after) (hfixes : ¬ rest.FixesId) :
    Does (Collection.find listener f {}) s
      (.ok ⟨RecordStream.sifted (Plan.residualOf rest.conjuncts) (.lookup s.view.recordMap [id]),
        s.view.processors⟩) s.view := by
  have hpick := Plan.pick?_fixedId? (v := .string id.render) hrest hfixes
  rw [← hf, ← hrest] at hpick
  have hplan := Plan.optimize_of_fixed hpick
  obtain ⟨s', hs', hreach⟩ := does_find_of_fit h (hplan _ _) (by intro d hd; cases hd)
  refine ⟨s', ?_, hreach⟩
  rw [perform_find_of_no_indexes hplan fun _ => rfl, hs', View.streamOf, View.streamOfSource,
    RecordId.ofValue?, RecordId.read?_render]
  rfl

end Session

/-- **Texts of ids and lookups.** The text of an id reads back as the id, in a document too, and
what is read are numerals. A query that fixes the id by its text, in any place among the conjuncts,
finds the record if the other conjuncts let it pass, and nothing but their error otherwise. -/
theorem id_texts_and_lookups_agree :
    (∀ id : RecordId, RecordId.parse id.render = .ok id) ∧
    (∀ text : String,
      (∀ id, RecordId.parse text = .ok id ↔ IsNumeral text id.toUInt64.toNat) ∧
        (RecordId.parse text = .error (.badIdText text) ↔ ∀ n, IsNumeral text n → UInt64.size ≤ n) ∧
        (Error.badIdText text).kind = .invalidId) ∧
    (∀ (d : Document) (id : RecordId), (d.setId id).id = .ok (some id)) ∧
    ∀ (σ : Type) (s : Session σ), s.Sound → s.view.processors = [] →
      ∀ (listener : Listener σ) (id : RecordId) (f rest : Filter) (before after : List Filter),
        f.conjuncts = before ++ .compare ⟨idField, .eq (.string id.render)⟩ :: after →
        rest.conjuncts = before ++ after → ¬ rest.FixesId →
        ∃ cursor s', (Collection.find listener f {}).perform s = (.ok cursor, s') ∧
          s'.view = s.view ∧
          cursor.drain s'.store = match s.view.record id with
            | none => []
            | some d => match rest.apply d with
              | .ok true => [.ok d]
              | .ok false => []
              | .error e => [.error e] := by
  refine ⟨fun id => RecordId.parse_eq_ok_iff.mpr (isNumeral_toString _),
    fun text => ⟨fun id => RecordId.parse_eq_ok_iff, RecordId.parse_eq_error_iff, rfl⟩,
    Document.id_setId, ?_⟩
  intro σ s h hprocessors listener id f rest before after hf hrest hfixes
  -- the plan is a lookup with the other conjuncts as its residual filter
  obtain ⟨s', hs', hreach⟩ := Session.does_find_of_fixed h hf hrest hfixes
  have hread := hreach.sound.read_records
  rw [hreach.view] at hread
  refine ⟨_, s', hs', hreach.view, ?_⟩
  rw [hprocessors, Cursor.drain_lookup hread]
  simp only [Filter.applyAll_conjuncts]
  rfl

/-- A record of its own id with a number and a list that nothing is greater or less than. -/
def measuredRecord : Entry :=
  (⟨7⟩, ⟨[("_id", .string "7"), ("a", .int 5), ("b", .array [.array []])]⟩)

/-- The condition on the id stands in an inner conjunction. The record is handed out if the other
condition is met, and the error of the other condition if it is about the list. -/
theorem id_texts_and_lookups_agree_measured_record :
    let fixed : Filter := .compare ⟨idField, .eq (.string (RecordId.render ⟨7⟩))⟩
    let above (field : String) : Filter := .compare ⟨field, .range .gt (.int 3)⟩
    ∃ (s : Session Unit), s.Sound ∧ s.view.records = [measuredRecord] ∧
      (∃ cursor s',
        (Collection.find Listener.silent (.and [above "a", .and [.everything, fixed]]) {}).perform s
          = (.ok cursor, s') ∧ cursor.drain s'.store = [.ok measuredRecord.2]) ∧
      ∃ cursor s', (Collection.find Listener.silent (.and [fixed, above "b"]) {}).perform s
          = (.ok cursor, s') ∧ cursor.drain s'.store = [.error (.incomparable "array" "b")] := by
  intro fixed above
  obtain ⟨s, h, hview⟩ := Session.exists_unbuilt "c" {} [] (by decide) rfl
    (List.pairwise_singleton _ measuredRecord) List.Pairwise.nil
  have hrecords : s.view.records = [measuredRecord] := by
    rw [hview]
  have hprocessors : s.view.processors = [] := by
    rw [hview]
  have hthere : s.view.record ⟨7⟩ = some measuredRecord.2 := by
    rw [View.record, hrecords]
    rfl
  have habove : ∀ field, ¬ (above field).FixesId := by
    rintro field ⟨v, hv⟩
    cases List.mem_singleton.mp hv
  obtain ⟨-, -, -, hfind⟩ := id_texts_and_lookups_agree
  refine ⟨s, h, hrecords, ?_, ?_⟩
  · -- the id is fixed in any place among the conjuncts; what decides is the rest of them
    obtain ⟨cursor, s', hs', -, hdrain⟩ := hfind Unit s h hprocessors Listener.silent ⟨7⟩
      (.and [above "a", .and [.everything, fixed]]) (above "a") [above "a"] [] rfl rfl (habove "a")
    have hpass : (above "a").apply measuredRecord.2 = .ok true := rfl
    refine ⟨cursor, s', hs', ?_⟩
    rw [hdrain, hthere]
    simp only [hpass]
  · obtain ⟨cursor, s', hs', -, hdrain⟩ := hfind Unit s h hprocessors Listener.silent ⟨7⟩
      (.and [fixed, above "b"]) (above "b") [] [above "b"] rfl rfl (habove "b")
    have hfails : (above "b").apply measuredRecord.2 = .error (.incomparable "array" "b") := rfl
    refine ⟨cursor, s', hs', ?_⟩
    rw [hdrain, hthere]
    simp only [hfails]

end DocumentDb
