import DocumentDb.Proofs.Opening
import DocumentDb.Proofs.Query.Draining
import DocumentDb.Proofs.Querying
import DocumentDb.Stream.Join
import DocumentDb.Stream.Projection

/-!
# `DocumentDb.Proofs.Query.Ending`: an error ends a query for good

A query is pulled on a store that may be another one at every pull: maps are changed and dropped in
between. It should come to one error at most, and to nothing more after an error or after its end.

`Pullable` is what streams and cursors have in common. `RecordStream.pull` leaves an empty stream
after the end, so it is clear there that nothing follows. Stages that are kept have to see to it
themselves. `RecordStream.Spent` is what may be left of them, each with whatever it remembers, and
`Pullable.Answers` are the answers if any such stream is pulled after the end.

`Pullable.Ends` is the step lemma that a stage needs: an error leaves something silent. Most streams
are silent after an error by themselves, and `RecordStream.Fused` are those that are or rely on a
stream below that is. `Pullable.Ends.final` is the run lemma for all of them.
-/

set_option autoImplicit false

namespace DocumentDb

/-! ### Answers to pulls -/

/-- What can be pulled: the answer to a pull with what is left after it, and what else may be left
after a pull that has come to nothing. -/
structure Pullable (C α : Type) where
  pull : Store → C → Option (Result α) × C
  Spent : C → C → Prop
  spent_pull : ∀ s c, (pull s c).1 = none → Spent c (pull s c).2

/-- Whether an answer is an error. -/
def failed {α : Type} : Option (Result α) → Bool
  | some (.error _) => true
  | _ => false

/-- Answers to pulls in turn, one of them an error at most, and nothing after an error or after an
end. -/
structure Final {α : Type} (answers : List (Option (Result α))) : Prop where
  once : answers.countP failed ≤ 1
  lasting : answers.Pairwise fun answer later => (∀ a, answer ≠ some (.ok a)) → later = none

/-- If nothing follows an error, there is one error at most. -/
theorem Final.of_lasting {α : Type} {answers : List (Option (Result α))}
    (h : answers.Pairwise fun answer later => (∀ a, answer ≠ some (.ok a)) → later = none) :
    Final answers := by
  refine ⟨?_, h⟩
  induction answers with
  | nil => exact Nat.zero_le 1
  | cons answer rest ih =>
    obtain ⟨hlater, hrest⟩ := List.pairwise_cons.mp h
    cases hfailed : failed answer with
    | false =>
      rw [List.countP_cons_of_neg (by simp [hfailed])]
      exact ih hrest
    | true =>
      -- what follows an error is no error
      have hnone : rest.countP failed = 0 := by
        rw [List.countP_eq_zero]
        intro later hmem
        rw [hlater later hmem]
        · exact Bool.false_ne_true
        · rintro a rfl
          cases hfailed
      rw [List.countP_cons_of_pos hfailed, hnone]

namespace Pullable

variable {C α : Type} {P : Pullable C α} {c c' : C} {stores : List Store}
  {answers : List (Option (Result α))}

/-- The answers to pulls on stores in turn. -/
def each (P : Pullable C α) : C → List Store → List (Option (Result α))
  | _, [] => []
  | c, s :: stores => (P.pull s c).1 :: P.each (P.pull s c).2 stores

/-- Answers to pulls on stores in turn, where anything that is spent may be left after the end. -/
inductive Answers (P : Pullable C α) : C → List Store → List (Option (Result α)) → Prop
  | nothing {c : C} : Answers P c [] []
  | item {c c' : C} {s : Store} {a : Result α} {stores : List Store}
      {answers : List (Option (Result α))} (hpull : P.pull s c = (some a, c'))
      (hrest : Answers P c' stores answers) : Answers P c (s :: stores) (some a :: answers)
  | spent {c c' : C} {s : Store} {stores : List Store} {answers : List (Option (Result α))}
      (hpull : (P.pull s c).1 = none) (hspent : P.Spent c c')
      (hrest : Answers P c' stores answers) : Answers P c (s :: stores) (none :: answers)

/-- The answers to pulls in turn are answers in which what is left after the end is left as it
is. -/
theorem answers_each (P : Pullable C α) (c : C) (stores : List Store) :
    P.Answers c stores (P.each c stores) := by
  induction stores generalizing c with
  | nil => exact .nothing
  | cons s stores ih =>
    rw [each]
    cases hpull : (P.pull s c).1 with
    | none => exact .spent hpull (P.spent_pull s c hpull) (ih _)
    | some a => exact .item (Prod.ext hpull rfl) (ih _)

/-- Whether nothing comes of any pull. -/
def Silent (P : Pullable C α) (c : C) : Prop := ∀ s, (P.pull s c).1 = none

/-- What keeps a property while it hands out items, is silent after an error, and silent when it is
spent. -/
structure Ends (P : Pullable C α) (I : C → Prop) : Prop where
  keeps : ∀ {s c a c'}, I c → P.pull s c = (some (.ok a), c') → I c'
  error : ∀ {s c e c'}, I c → P.pull s c = (some (.error e), c') → P.Silent c'
  spent : ∀ {c c'}, P.Spent c c' → P.Silent c'

variable {I : C → Prop}

/-- Nothing comes of pulls on what is silent. -/
theorem Ends.eq_none (h : P.Ends I) (hc : P.Silent c) (hanswers : P.Answers c stores answers) :
    ∀ answer ∈ answers, answer = none := by
  induction hanswers with
  | nothing => exact List.forall_mem_nil _
  | @item c c' s a stores answers hpull _ _ =>
    have hnone := hc s
    rw [hpull] at hnone
    cases hnone
  | spent _ hspent _ ih => exact List.forall_mem_cons.mpr ⟨rfl, ih (h.spent hspent)⟩

/-- Pulls come to nothing more after an error and after the end. -/
theorem Ends.final (h : P.Ends I) (hc : I c) (hanswers : P.Answers c stores answers) :
    Final answers := by
  refine .of_lasting ?_
  induction hanswers with
  | nothing => exact List.Pairwise.nil
  | @item c c' s a stores answers hpull hrest ih =>
    rw [List.pairwise_cons]
    cases a with
    | ok a => exact ⟨fun _ _ hnone => absurd rfl (hnone a), ih (h.keeps hc hpull)⟩
    | error e =>
      have hnone := h.eq_none (h.error hc hpull) hrest
      exact ⟨fun later hmem _ => hnone later hmem,
        List.pairwise_of_forall_mem_list fun _ _ later hmem _ => hnone later hmem⟩
  | spent _ hspent hrest _ =>
    have hnone := h.eq_none (h.spent hspent) hrest
    exact List.pairwise_cons.mpr ⟨fun later hmem _ => hnone later hmem,
      List.pairwise_of_forall_mem_list fun _ _ later hmem _ => hnone later hmem⟩

/-- Whether an error ends all pulls for good, as the end does, whatever the store is then. -/
def EndsForGood (P : Pullable C α) (c : C) : Prop :=
  ∀ stores, Final (P.each c stores) ∧ ∀ answers, P.Answers c stores answers → Final answers

/-- What is kept until the first error or the end makes both of them last. -/
theorem Ends.endsForGood (h : P.Ends I) (hc : I c) : P.EndsForGood c := fun stores =>
  ⟨h.final hc (P.answers_each c stores), fun _ hanswers => h.final hc hanswers⟩

end Pullable

/-! ### Streams -/

namespace RecordStream

variable {s : Store} {stream stream' : RecordStream} {step : Result Entry × RecordStream}

/-- What may be left of a stream that has come to its end: walks are finished, lookups and unions
have nothing left, and the stages on top keep whatever they remember. A bound whose limit is used up
does not care about the stream below. -/
inductive Spent : RecordStream → RecordStream → Prop
  | ended {stream : RecordStream} : Spent stream ended
  | walk {w w' : Walk RecordId} (hfinished : w'.finished = true) : Spent (.walk w) (.walk w')
  | lookup {m : MapRef RecordId} {left : List RecordId} : Spent (.lookup m left) (.lookup m [])
  | union {branches : List RecordStream} : Spent (.union branches) (.union [])
  | distinct {seen seen' : List RecordId} {inner inner' : RecordStream} (h : Spent inner inner') :
      Spent (.distinct seen inner) (.distinct seen' inner')
  | filtered {inner inner' : RecordStream} {f : Filter} (h : Spent inner inner') :
      Spent (.filtered inner f) (.filtered inner' f)
  | bounded {skip skip' : Nat} {limit limit' : Option Nat} {inner inner' : RecordStream}
      (h : Spent inner inner') : Spent (.bounded skip limit inner) (.bounded skip' limit' inner')
  | limited {skip skip' : Nat} {limit : Option Nat} {inner inner' : RecordStream} :
      Spent (.bounded skip limit inner) (.bounded skip' (some 0) inner')

/-- Streams that are silent after their first error. Most stages see to it themselves; leaving out
copies and bounds rely on the stream below. Items given in advance hold no errors. -/
inductive Fused : RecordStream → Prop
  | items {left : List (Result Entry)} (h : ∀ item ∈ left, ∃ e, item = .ok e) : Fused (.items left)
  | walk {w : Walk RecordId} : Fused (.walk w)
  | lookup {m : MapRef RecordId} {left : List RecordId} : Fused (.lookup m left)
  | union {branches : List RecordStream} : Fused (.union branches)
  | distinct {seen : List RecordId} {inner : RecordStream} (h : Fused inner) :
      Fused (.distinct seen inner)
  | filtered {inner : RecordStream} {f : Filter} : Fused (.filtered inner f)
  | sorted {inner : RecordStream} {keys : SortKeys} {collation : Text.Collation} :
      Fused (.sorted inner keys collation)
  | bounded {skip : Nat} {limit : Option Nat} {inner : RecordStream} (h : Fused inner) :
      Fused (.bounded skip limit inner)

/-- Whether a stream yields nothing on any store. -/
def Dry (stream : RecordStream) : Prop := ∀ s, stream.run s = []

/-- A stream that has ended is dry. -/
theorem dry_ended : Dry ended := fun _ => by
  rw [ended, run]
  rfl

/-- Leaving copies out of a dry stream leaves it dry. -/
theorem Dry.distinct (h : Dry stream) (seen : List RecordId) :
    Dry (.distinct seen stream) := fun s => by
  rw [run, h s, runDistinct]

/-- So does filtering it. -/
theorem Dry.filtered (h : Dry stream) (f : Filter) : Dry (.filtered stream f) := fun s => by
  rw [run, h s, runFiltered]

/-- So does bounding it. -/
theorem Dry.bounded (h : Dry stream) (skip : Nat) (limit : Option Nat) :
    Dry (.bounded skip limit stream) := fun s => by
  rw [run, h s]
  rcases limit with _ | _ | limit <;> cases skip <;> rfl

/-- A walk that is finished is dry. -/
theorem dry_walk {w : Walk RecordId} (hfinished : w.finished = true) : Dry (.walk w) := fun s => by
  rw [run, runWalk, Walk.run, if_pos hfinished, List.map_nil]

/-- Nothing is left of a stream that is spent. -/
theorem Spent.dry (h : Spent stream stream') : Dry stream' := by
  induction h with
  | ended => exact dry_ended
  | walk hfinished => exact dry_walk hfinished
  | lookup =>
    intro s
    rw [run, runLookup]
  | union =>
    intro s
    rw [run, runAll]
  | distinct _ ih => exact ih.distinct _
  | filtered _ ih => exact ih.filtered _
  | bounded _ ih => exact ih.bounded _ _
  | limited =>
    intro s
    rw [run, runBounded]

/-- What one pull on a union can give. -/
theorem mem_runAll {branches : List RecordStream} (h : step ∈ runAll s branches) :
    (∃ err, step = (.error err, ended)) ∨ ∃ e branches', step = (.ok e, .union branches') := by
  induction branches with
  | nil =>
    rw [runAll] at h
    cases h
  | cons branch later ih =>
    rw [runAll] at h
    obtain herror | ⟨e, branch', -, hstep⟩ | hlater := mem_runBranch h
    · exact Or.inl herror
    · exact Or.inr ⟨e, _, hstep⟩
    · exact ih hlater

/-- The items of a stream of items are handed out in turn, and what is left of it is a part of
them. -/
theorem mem_runItems {left : List (Result Entry)} (h : step ∈ runItems left) :
    step.1 ∈ left ∧ ∃ rest, rest ⊆ left ∧ step.2 = .items rest := by
  induction left with
  | nil => cases h
  | cons item left ih =>
    rcases List.mem_cons.mp h with rfl | h
    · exact ⟨List.mem_cons_self, left, List.subset_cons_self item left, rfl⟩
    · obtain ⟨hmem, rest, hrest, hstep⟩ := ih h
      exact ⟨List.mem_cons_of_mem _ hmem, rest, List.subset_cons_of_subset _ hrest, hstep⟩

/-- How such a stream goes on after an item: one like it follows a record, and a dry one an
error. -/
inductive Follows : Result Entry × RecordStream → Prop
  | record {e : Entry} {next : RecordStream} (h : Fused next) : Follows (.ok e, next)
  | error {err : Error} {next : RecordStream} (h : Dry next) : Follows (.error err, next)

/-- A stream of records goes on as such a stream. -/
theorem follows_runItems {left : List (Result Entry)} (hleft : ∀ item ∈ left, ∃ e, item = .ok e)
    (h : step ∈ runItems left) : Follows step := by
  obtain ⟨item, next⟩ := step
  obtain ⟨hmem, rest, hrest, rfl⟩ := mem_runItems h
  obtain ⟨e, rfl⟩ := hleft item hmem
  exact .record (.items fun item hitem => hleft item (hrest hitem))

/-- The step lemma. A stage that leaves out copies, or bounds, may pass an item on that is not the
first one of the stream below, so it is proved of all items of a run. -/
theorem Fused.run (h : Fused stream) (hstep : step ∈ stream.run s) : Follows step := by
  induction h generalizing step with
  | items hleft =>
    rw [RecordStream.run] at hstep
    exact follows_runItems hleft hstep
  | walk =>
    rw [RecordStream.run] at hstep
    obtain ⟨err, rfl⟩ | ⟨es, e, -, -, rfl⟩ := mem_runWalk hstep
    · -- the walk is kept, but it is finished
      exact .error (dry_walk rfl)
    · exact .record .walk
  | lookup =>
    rw [RecordStream.run] at hstep
    obtain ⟨err, rfl⟩ | ⟨es, id, d, rest, -, -, -, rfl⟩ := mem_runLookup hstep
    · exact .error dry_ended
    · exact .record .lookup
  | union =>
    rw [RecordStream.run] at hstep
    obtain ⟨err, rfl⟩ | ⟨e, branches', rfl⟩ := mem_runAll hstep
    · exact .error dry_ended
    · exact .record .union
  | filtered =>
    rw [RecordStream.run] at hstep
    obtain ⟨err, rfl⟩ | ⟨e, inner, -, -, rfl⟩ := mem_runFiltered hstep
    · exact .error dry_ended
    · exact .record .filtered
  | sorted =>
    rw [RecordStream.run, runSorted] at hstep
    split at hstep
    · obtain rfl := List.mem_singleton.mp hstep
      exact .error dry_ended
    · refine follows_runItems (fun item hitem => ?_) hstep
      obtain ⟨e, -, rfl⟩ := List.mem_map.mp hitem
      exact ⟨e, rfl⟩
  | distinct _ ih =>
    rw [RecordStream.run] at hstep
    obtain ⟨item, next⟩ := step
    obtain ⟨seen', inner, hmem, rfl⟩ := mem_runDistinct hstep
    -- nothing is done about an error here: the stream below has to be dry after it
    cases ih hmem with
    | record h => exact .record h.distinct
    | error h => exact .error (h.distinct seen')
  | bounded _ ih =>
    rw [RecordStream.run] at hstep
    obtain ⟨item, next⟩ := step
    obtain ⟨skip', limit', inner, hmem, rfl⟩ := mem_runBounded hstep
    cases ih hmem with
    | record h => exact .record h.bounded
    | error h => exact .error (h.bounded skip' limit')

/-- Streams as what can be pulled. -/
def pullable : Pullable RecordStream Entry where
  pull := pull
  Spent := Spent
  spent_pull s stream h := by
    rw [pull] at h ⊢
    split at h
    · exact .ended
    · cases h

/-- Nothing can be pulled from a dry stream. -/
theorem Dry.silent (h : Dry stream) : pullable.Silent stream := by
  intro s
  show (pull s stream).1 = none
  rw [pull, h s]

/-- What a pull takes from a run. -/
theorem mem_run_of_pull {item : Result Entry} (h : pullable.pull s stream = (some item, stream')) :
    (item, stream') ∈ stream.run s := by
  have hpull : pull s stream = (some item, stream') := h
  rw [pull] at hpull
  split at hpull
  · cases hpull
  · rename_i hrun
    cases hpull
    rw [hrun]
    exact List.mem_cons_self

/-- Fused streams end for good: they stay fused, and an error or the end leaves them dry. -/
theorem ends_pullable : pullable.Ends Fused where
  keeps h hpull := by
    cases h.run (mem_run_of_pull hpull) with
    | record h => exact h
  error h hpull := by
    cases h.run (mem_run_of_pull hpull) with
    | error h => exact h.silent
  spent h := h.dry.silent

/-! ### Plans -/

variable {σ : Type} {t t' : Session σ}

/-- The stream of a source is fused, whatever the source is. -/
theorem fused_ofSource {scanOrder : ScanOrder} {source : Source Plan}
    (h : (ofSource scanOrder source).perform t = (.ok stream, t')) : Fused stream := by
  cases source with
  | collection =>
    rw [ofSource] at h
    obtain ⟨c, t₁, -, h⟩ := Action.perform_bind_eq_ok_iff.mp h
    cases h
    exact .walk
  | byId x =>
    rw [ofSource] at h
    obtain ⟨c, t₁, -, h⟩ := Action.perform_bind_eq_ok_iff.mp h
    cases h
    exact .lookup
  | index d conditions =>
    rw [ofSource] at h
    obtain ⟨ids, t₁, -, h⟩ := Action.perform_bind_eq_ok_iff.mp h
    obtain ⟨c, t₂, -, h⟩ := Action.perform_bind_eq_ok_iff.mp h
    cases h
    exact .lookup
  | union branches =>
    rw [ofSource] at h
    obtain ⟨streams, t₁, -, h⟩ := Action.perform_bind_eq_ok_iff.mp h
    cases h
    exact .distinct .union

/-- The stream of a plan, whatever its branches are. -/
theorem fused_ofPlan {p : Plan} (h : (ofPlan p).perform t = (.ok stream, t')) : Fused stream := by
  obtain ⟨source, scanOrder, residual, sort, collation, skip, limit⟩ := p
  rw [ofPlan] at h
  obtain ⟨inner, t₁, hsource, h⟩ := Action.perform_bind_eq_ok_iff.mp h
  exact staged_keeps (fused_ofSource hsource) (fun _ _ _ => .filtered) (fun _ _ _ _ => .sorted)
    (fun _ _ _ => .bounded) (Prod.ext_iff.mp h).1

end RecordStream

/-! ### Cursors -/

namespace Cursor

variable {s : Store} {c c' : Cursor}

/-- What one pull does: it goes on after a document, and nothing is left after an error or the
end. -/
theorem pull_cases (s : Store) (c : Cursor) :
    c.stream.run s = [] ∧ c.pull s = (none, ended) ∨ (∃ e, c.pull s = (some (.error e), ended)) ∨
      ∃ d stream, c.pull s = (some (.ok d), ⟨stream, c.processors⟩) := by
  rw [pull, run]
  cases c.stream.run s with
  | nil => exact Or.inl ⟨rfl, rfl⟩
  | cons step rest =>
    obtain ⟨e | entry, stream⟩ := step
    · exact Or.inr (Or.inl ⟨e, rfl⟩)
    · rw [readRun]
      cases Processor.readAll c.processors entry.2 with
      | error e => exact Or.inr (Or.inl ⟨e, rfl⟩)
      | ok d => exact Or.inr (Or.inr ⟨d, stream, rfl⟩)

/-- Cursors as what can be pulled. A cursor that has come to its end may keep a stream that is
spent. -/
def pullable : Pullable Cursor Document where
  pull := pull
  Spent c c' := c.stream.Spent c'.stream
  spent_pull s c h := by
    obtain ⟨-, hpull⟩ | ⟨e, hpull⟩ | ⟨d, stream, hpull⟩ := pull_cases s c
    · rw [hpull]
      exact .ended
    · rw [hpull] at h
      cases h
    · rw [hpull] at h
      cases h

/-- A cursor over a dry stream gives nothing. -/
theorem silent_of_dry (h : c.stream.Dry) : pullable.Silent c := by
  intro s
  show (c.pull s).1 = none
  rw [pull, run, h s, readRun]

/-- A cursor looks after its errors itself, those of its stream and those of its processors. -/
theorem ends_pullable : pullable.Ends fun _ => True where
  keeps _ _ := trivial
  error {s c e c'} _ hpull := by
    have hcase : c.pull s = (some (.error e), c') := hpull
    obtain ⟨-, hnone⟩ | ⟨e', herror⟩ | ⟨d, stream, hok⟩ := pull_cases s c
    · cases hnone.symm.trans hcase
    · cases herror.symm.trans hcase
      exact silent_of_dry RecordStream.dry_ended
    · cases hok.symm.trans hcase
  spent h := silent_of_dry h.dry

end Cursor

namespace ProjectedCursor

variable {s : Store} {c : ProjectedCursor}

/-- A pull is one of the inner cursor. -/
theorem pull_eq (s : Store) (c : ProjectedCursor) : c.pull s = match c.inner.pull s with
    | (none, _) => (none, ⟨.ended, c.projection⟩)
    | (some item, inner) =>
      (some (item.map (Projection.project c.projection)), ⟨inner, c.projection⟩) := by
  rw [pull, run, Cursor.pull]
  cases c.inner.run s <;> rfl

/-- Projections of cursors as what can be pulled. -/
def pullable : Pullable ProjectedCursor Document where
  pull := pull
  Spent c c' := Cursor.pullable.Spent c.inner c'.inner
  spent_pull s c h := by
    rw [pull_eq] at h ⊢
    split at h
    · exact .ended
    · cases h

/-- A projection of a cursor that gives nothing gives nothing. -/
theorem silent_of_inner (h : Cursor.pullable.Silent c.inner) : pullable.Silent c := by
  intro s
  have hinner : c.inner.pull s = (none, (c.inner.pull s).2) := Prod.ext (h s) rfl
  show (c.pull s).1 = none
  rw [pull_eq, hinner]

/-- A projection has nothing to look after errors, but its cursor has. -/
theorem ends_pullable : pullable.Ends fun _ => True where
  keeps _ _ := trivial
  error {s c e c'} _ hpull := by
    have hcase : c.pull s = (some (.error e), c') := hpull
    rw [pull_eq] at hcase
    split at hcase
    · cases hcase
    · rename_i item inner hinner
      cases item with
      | ok d => cases hcase
      | error e' =>
        cases hcase
        exact silent_of_inner (Cursor.ends_pullable.error trivial hinner)
  spent h := silent_of_inner (Cursor.ends_pullable.spent h)

end ProjectedCursor

namespace JoinedCursor

variable {s : Store} {c : JoinedCursor} {ds : List Document}

/-- A pull is one of the inner cursor, once the foreign documents have been read. -/
theorem pull_eq (s : Store) (c : JoinedCursor) : c.pull s = match c.foreignDocuments s with
    | .error e => (some (.error e), c.finish)
    | .ok ds => match c.inner.pull s with
      | (none, _) => (none, c.finish)
      | (some item, inner) =>
        (some (item.map (c.lookup.join ds)), ⟨inner, .read ds, c.lookup⟩) := by
  rw [pull, run, Cursor.pull]
  cases c.foreignDocuments s with
  | error e => rfl
  | ok ds => cases c.inner.run s <;> rfl

/-- Joins as what can be pulled. The foreign documents have been read by the time a join comes to
its end. -/
def pullable : Pullable JoinedCursor Document where
  pull := pull
  Spent c c' := Cursor.pullable.Spent c.inner c'.inner ∧ ∃ ds, c'.foreign = .read ds
  spent_pull s c h := by
    rw [pull_eq] at h ⊢
    split at h
    · cases h
    · split at h
      · exact ⟨.ended, [], rfl⟩
      · cases h

/-- A join gives nothing when its cursor does and the foreign documents have been read. -/
theorem silent_of_inner (h : Cursor.pullable.Silent c.inner) (hread : c.foreign = .read ds) :
    pullable.Silent c := by
  intro s
  have hinner : c.inner.pull s = (none, (c.inner.pull s).2) := Prod.ext (h s) rfl
  have hforeign : c.foreignDocuments s = .ok ds := by
    rw [foreignDocuments, hread]
  show (c.pull s).1 = none
  rw [pull_eq, hforeign, hinner]

/-- A join ends with the error of its foreign documents, and otherwise its cursor looks after
errors. -/
theorem ends_pullable : pullable.Ends fun _ => True where
  keeps _ _ := trivial
  error {s c e c'} _ hpull := by
    have hcase : c.pull s = (some (.error e), c') := hpull
    rw [pull_eq] at hcase
    split at hcase
    · cases hcase
      exact silent_of_inner (Cursor.silent_of_dry RecordStream.dry_ended) rfl
    · split at hcase
      · cases hcase
      · rename_i item inner hinner
        cases item with
        | ok d => cases hcase
        | error e' =>
          cases hcase
          exact silent_of_inner (Cursor.ends_pullable.error trivial hinner) rfl
  spent h := by
    obtain ⟨hspent, ds, hread⟩ := h
    exact silent_of_inner (Cursor.ends_pullable.spent hspent) hread

end JoinedCursor

/-- **An error ends a query for good**, and so does its end: the stream of any plan, and any cursor,
projection and join on top of it, on whatever store each pull takes place. -/
theorem error_ends_query {σ : Type} {t t' : Session σ} {p : Plan} {stream : RecordStream}
    (h : (RecordStream.ofPlan p).perform t = (.ok stream, t')) :
    RecordStream.pullable.EndsForGood stream ∧ ∀ processors : List Processor,
      Cursor.pullable.EndsForGood ⟨stream, processors⟩ ∧
      (∀ projection, ProjectedCursor.pullable.EndsForGood ⟨⟨stream, processors⟩, projection⟩) ∧
      ∀ foreign lookup,
        JoinedCursor.pullable.EndsForGood (.make ⟨stream, processors⟩ foreign lookup) :=
  ⟨RecordStream.ends_pullable.endsForGood (RecordStream.fused_ofPlan h), fun _ =>
    ⟨Cursor.ends_pullable.endsForGood trivial,
      fun _ => ProjectedCursor.ends_pullable.endsForGood trivial,
      fun _ _ => JoinedCursor.ends_pullable.endsForGood trivial⟩⟩

/-- Two lookups in turn. The map is dropped before the second one, and is there again later. -/
theorem error_ends_query_dropped_map :
    let p : Plan :=
      { source := .union [{ source := .byId (.int 1) }, { source := .byId (.int 2) }] }
    let first : Entry := (⟨1⟩, ⟨[("_id", .string "1")]⟩)
    let second : Entry := (⟨2⟩, ⟨[("_id", .string "2")]⟩)
    let store : Store := { records := [⟨"c", [first, second], false⟩] }
    ∃ (t t' : Session Unit) (stream : RecordStream),
      (RecordStream.ofPlan p).perform t = (.ok stream, t') ∧
        RecordStream.pullable.each stream [store, store.dropMap "c", store, store]
          = [some (.ok first), some (.error (.mapDropped "c")), none, none] ∧
        RecordStream.pullable.EndsForGood stream := by
  intro p first second store
  obtain ⟨t, ht, hview⟩ := Session.exists_unbuilt "c" {} [] (by decide) rfl
    SortedEntries.sorted_nil List.Pairwise.nil
  obtain ⟨t', ht', -⟩ := Session.does_ofPlan ht p
  have hstream : t.view.streamOf p
      = .ok (.distinct [] (.union [.lookup ⟨0⟩ [⟨1⟩], .lookup ⟨0⟩ [⟨2⟩]])) := by
    rw [hview]
    rfl
  rw [hstream] at ht'
  refine ⟨t, t', _, ht', ?_, (error_ends_query ht').1⟩
  rfl

end DocumentDb
