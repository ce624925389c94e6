import DocumentDb.Proofs.FailedWrites
import DocumentDb.Proofs.Query.Answers
import DocumentDb.Proofs.Query.StreamSteps

/-!
# `DocumentDb.Proofs.Query.Paging`: bounds cut a piece out of the whole result

A query with a `skip` and a `limit` has the plan of the query without them, and its stream is
that of the other one with one more stage on top (`View.query_bounded`). So what it hands out
is a piece of what the other one hands out, provided that no error comes before the piece
(`Cursor.drain_bounded`), and pages that follow one another make up the whole
(`Session.readPages_spec`).

All this is about collections whose indexes are clean. Queries do not change them then, so it
makes no difference in which order two queries are made.
-/

set_option autoImplicit false

namespace DocumentDb

open RecordStream

/-! ### The stage -/

namespace Cursor

/-- What a cursor without processors hands out of a run. -/
def handedOut (r : Run) : List (Result Document) := (readRun [] r).map (·.1)

variable {r : Run} {s : Store} {stream : RecordStream} {docs : List Document}

/-- Nothing is handed out of an empty run. -/
@[simp] theorem handedOut_nil : handedOut [] = [] := rfl

/-- Nothing is handed out after an error. -/
@[simp] theorem handedOut_cons_error (e : Error) (next : RecordStream) (r : Run) :
    handedOut ((.error e, next) :: r) = [.error e] := rfl

/-- A record is handed out as its document. -/
@[simp] theorem handedOut_cons_ok (entry : Entry) (next : RecordStream) (r : Run) :
    handedOut ((.ok entry, next) :: r) = .ok entry.2 :: handedOut r := rfl

/-- Bounds cut a piece out of what is handed out, unless an error comes before it. -/
theorem handedOut_runBounded {skip : Nat} (limit : Nat)
    (hskipped : ∀ item ∈ (handedOut r).take skip, ∃ d, item = .ok d) :
    handedOut (runBounded skip (some limit) r) = ((handedOut r).drop skip).take limit := by
  induction r generalizing skip limit with
  | nil => cases skip <;> cases limit <;> rfl
  | cons step r ih =>
    obtain ⟨item, next⟩ := step
    cases limit with
    | zero => cases skip <;> cases item <;> rfl
    | succ limit =>
      cases skip with
      | zero =>
        have hstep : runBounded 0 (some (limit + 1)) ((item, next) :: r)
            = (item, .bounded 0 (some limit) next) :: runBounded 0 (some limit) r := by
          cases item <;> rfl
        rw [hstep]
        cases item with
        | error e => simp
        | ok entry => simpa using @ih 0 limit (by simp)
      | succ skip =>
        cases item with
        | error e =>
          -- an error is not skipped, and there is none to skip
          obtain ⟨d, hd⟩ := hskipped (.error e) (by simp)
          cases hd
        | ok entry =>
          have hstep : runBounded (skip + 1) (some (limit + 1)) ((.ok entry, next) :: r)
              = runBounded skip (some (limit + 1)) r := rfl
          rw [hstep, ih]
          · simp
          · intro item hitem
            exact hskipped item (by simp [hitem])

/-- A cursor on a bounded stream hands out a piece of what the one on the stream hands out. -/
theorem drain_bounded {skip : Nat} (limit : Nat)
    (hskipped : ∀ item ∈ (drain s ⟨stream, []⟩).take skip, ∃ d, item = .ok d) :
    drain s ⟨.bounded skip (some limit) stream, []⟩
      = ((drain s ⟨stream, []⟩).drop skip).take limit := by
  have hrun : RecordStream.run s (.bounded skip (some limit) stream)
      = runBounded skip (some limit) (stream.run s) := by
    rw [RecordStream.run]
  rw [drain, run, hrun]
  exact handedOut_runBounded limit hskipped

/-- What a cursor hands out depends on the records alone. -/
theorem drain_congr {s' : Store} {m : MapRef RecordId} (h : Over m stream)
    (hread : (s.map m).read = (s'.map m).read) (processors : List Processor) :
    drain s ⟨stream, processors⟩ = drain s' ⟨stream, processors⟩ := by
  rw [drain, drain, run, run, h.run_congr hread]

/-- All documents, where no item is an error. -/
theorem toList_of_drain {c : Cursor} (h : c.drain s = docs.map .ok) : c.toList s = .ok docs :=
  Result.mapM_id_eq_ok_iff.mpr h

end Cursor

namespace RecordStream

variable {skip limit : Option Int}

/-- Bounds that are not negative are taken as they are. -/
theorem between_ofNat (skip limit : Nat) (inner : RecordStream) :
    between (some skip) (some limit) inner = .ok (.bounded skip (some limit) inner) := by
  have hbound : ∀ (name : String) (n : Nat), bound name (some (n : Int)) = .ok (some n) := by
    intro name n
    rw [bound, if_neg (by omega), Int.toNat_natCast]
  rw [between, hbound, hbound]
  rfl

/-- A negative bound is a bound. -/
theorem isSome_of_negative (hneg : ∃ n < (0 : Int), skip = some n ∨ limit = some n) :
    (skip.isSome || limit.isSome) = true := by
  obtain ⟨n, -, rfl | rfl⟩ := hneg <;> simp

/-- A negative bound is refused. If both are negative, it is the first that is named. -/
theorem between_negative (hneg : ∃ n < 0, skip = some n ∨ limit = some n) (inner : RecordStream) :
    ∃ name n, n < 0 ∧ between skip limit inner = .error (.negativeBound name n) := by
  have hbound : ∀ (name : String) (n : Int), n < 0 →
      bound name (some n) = .error (.negativeBound name n) := by
    intro name n hn
    rw [bound, if_pos hn]
  unfold between
  rcases hskip : bound "skip" skip with e | k
  · cases skip with
    | none => cases hskip
    | some n =>
      rw [bound] at hskip
      split at hskip
      · rename_i hn
        cases hskip
        exact ⟨"skip", n, hn, rfl⟩
      · cases hskip
  · obtain ⟨n, hn, rfl | rfl⟩ := hneg
    · rw [hbound _ n hn] at hskip
      cases hskip
    · exact ⟨"limit", n, hn, by rw [hbound _ n hn]; rfl⟩

end RecordStream

/-! ### The plan -/

/-- Options with bounds. -/
def FindOptions.within (options : FindOptions) (skip limit : Option Int) : FindOptions :=
  { options with skip, limit }

namespace View

variable {v : View} {f : Filter} {options : FindOptions} {stream : RecordStream}

/-- The stream of a query, if its plan scans indexes to be relied on. -/
def query (v : View) (f : Filter) (options : FindOptions) : Result RecordStream :=
  (Plan.optimize v.config.collation f options v.offered).bind v.streamOf

/-- Bounds have no part in the choice of a plan. -/
theorem optimize_within (collation : Text.Collation) (f : Filter) (options : FindOptions)
    (ds : List IndexDescriptor) (skip limit : Option Int) :
    Plan.optimize collation f (options.within skip limit) ds
      = (Plan.optimize collation f options ds).map fun p => { p with skip, limit } := by
  unfold Plan.optimize
  cases Plan.ofFilter f ds <;> rfl

/-- A query with bounds has the stream of the query without them, and the bounds on top. -/
theorem query_bounded (h : v.query f (options.within none none) = .ok stream)
    {skip limit : Option Int} (hbounds : (skip.isSome || limit.isSome) = true) :
    v.query f (options.within skip limit) = between skip limit stream := by
  unfold query at h ⊢
  rw [optimize_within] at h ⊢
  obtain ⟨p, hp, h⟩ := Result.bind_eq_ok_iff.mp h
  obtain ⟨q, hq, rfl⟩ := Result.map_eq_ok_iff.mp hp
  obtain ⟨source, scanOrder, residual, sort, collation, skip', limit'⟩ := q
  rw [hq]
  show v.streamOf _ = _
  rw [streamOf] at h ⊢
  obtain ⟨inner, hinner, hstaged⟩ := Result.bind_eq_ok_iff.mp h
  cases hstaged
  rw [hinner]
  exact if_pos hbounds

/-- While all indexes are clean, a plan scans indexes to be relied on. -/
theorem fit_of_clean (hclean : ∀ i ∈ v.indexes, i.dirty = false) {collation : Text.Collation}
    {p : Plan} (hp : Plan.optimize collation f options v.offered = .ok p) :
    ∀ d ∈ p.indexes, ∃ i ∈ v.indexes, i.descriptor = d ∧ v.trusts i = true := by
  intro d hd
  obtain ⟨hfree, i, hi, rfl⟩ := mem_offered.mp (Plan.mem_of_mem_indexes hp hd)
  refine ⟨i, hi, rfl, ?_⟩
  rw [trusts, hclean i hi, hfree]
  rfl

end View

/-! ### Queries and pages -/

/-- Reads pages one after the other, from the one with a number on. -/
def Collection.readPages {σ : Type} (listener : Listener σ) (f : Filter) (options : FindOptions)
    (size : Nat) : (first count : Nat) → SessionM σ (List Document)
  | _, 0 => return []
  | first, count + 1 => do
    let cursor ← find listener f (options.within (some (first * size : Nat)) (some size))
    let page ← Action.ofResult (cursor.toList (← get).store)
    return page ++ (← readPages listener f options size (first + 1) count)

namespace Session

variable {σ : Type} {s t : Session σ} {f : Filter} {options : FindOptions} {docs : List Document}

/-- While all indexes are clean, a query is planned and carried out at once. -/
theorem does_find_of_clean (h : s.Sound) (hclean : ∀ i ∈ s.view.indexes, i.dirty = false)
    (f : Filter) (options : FindOptions) :
    Does (Collection.find Listener.silent f options) s
      ((s.view.query f options).map fun stream => ⟨stream, s.view.processors⟩) s.view := by
  unfold View.query
  cases hp : Plan.optimize s.view.config.collation f options s.view.offered with
  | ok p => exact does_find_of_fit h hp (View.fit_of_clean hclean hp)
  | error e =>
    rcases explain_prepares h f options with ⟨e', he', hfails⟩ | ⟨p, r, v, hp', -⟩
    · rw [hp] at he'
      cases he'
      exact hfails.bind_error
    · rw [hp] at hp'
      cases hp'

section clean

variable {v : View} {stream : RecordStream} (hprocessors : v.processors = [])
  (hclean : ∀ i ∈ v.indexes, i.dirty = false)
  (hquery : v.query f (options.within none none) = .ok stream)

include hprocessors hclean hquery

/-- A query with bounds gives the stream of the query without them, and the bounds on top. -/
theorem does_find_within (h : s.Sound) (hview : s.view = v) (skip limit : Nat) :
    Does (Collection.find Listener.silent f (options.within (some skip) (some limit))) s
      (.ok ⟨.bounded skip (some limit) stream, []⟩) v := by
  subst hview
  have hfind := does_find_of_clean h hclean f (options.within (some skip) (some limit))
  rw [View.query_bounded hquery rfl, between_ofNat, hprocessors] at hfind
  exact hfind

/-- Pages that follow one another make up a piece of the whole. -/
theorem readPages_spec
    (hdocs : ∀ store : Store, (store.map v.recordMap).read = .ok v.records →
      Cursor.drain store ⟨stream, []⟩ = docs.map .ok)
    (size first count : Nat) (h : s.Sound) (hview : s.view = v) :
    Does (Collection.readPages Listener.silent f options size first count) s
      (.ok ((docs.drop (first * size)).take (count * size))) v := by
  induction count generalizing s first with
  | zero =>
    rw [Nat.zero_mul, List.take_zero]
    exact hview ▸ does_pure h []
  | succ count ih =>
    have hpage := does_find_within hprocessors hclean hquery h hview (first * size) size
    rw [Collection.readPages]
    refine hpage.bind_ok fun s₁ hs₁ => does_get_bind ?_
    -- what the page hands out
    have hread := hs₁.sound.read_records
    rw [hs₁.view] at hread
    have hwhole := hdocs s₁.store hread
    have hlist : Cursor.toList s₁.store ⟨.bounded (first * size) (some size) stream, []⟩
        = .ok ((docs.drop (first * size)).take size) := by
      refine Cursor.toList_of_drain ?_
      rw [Cursor.drain_bounded, hwhole, ← List.map_drop, ← List.map_take]
      intro item hitem
      rw [hwhole] at hitem
      obtain ⟨d, -, rfl⟩ := List.mem_map.mp (List.mem_of_mem_take hitem)
      exact ⟨d, rfl⟩
    rw [hlist]
    refine does_ofResult_bind ?_
    -- the pages that follow
    have hrest := (ih (first + 1) hs₁.sound hs₁.view).then_map fun rest =>
      (docs.drop (first * size)).take size ++ rest
    have hpieces : (docs.drop (first * size)).take ((count + 1) * size)
        = (docs.drop (first * size)).take size
          ++ (docs.drop ((first + 1) * size)).take (count * size) := by
      rw [Nat.succ_mul count, Nat.add_comm, List.take_add, List.drop_drop, Nat.succ_mul first]
    rw [hpieces]
    exact hrest

end clean

/-- A query with a negative bound fails, in whatever state the collection is. -/
theorem find_negative (h : s.Sound) (f : Filter) (options : FindOptions) {skip limit : Option Int}
    (hneg : ∃ n < 0, skip = some n ∨ limit = some n) :
    ∃ e s', (Collection.find Listener.silent f (options.within skip limit)).perform s
      = (.error e, s') := by
  obtain ⟨v, -, ⟨e, s', hs', -⟩ | ⟨p, stream, hp, hstream, -⟩⟩ :=
    find_spec h f (options.within skip limit)
  · exact ⟨e, s', hs'⟩
  · rw [View.optimize_within] at hp
    obtain ⟨⟨source, scanOrder, residual, sort, collation, skip', limit'⟩, -, rfl⟩ :=
      Result.map_eq_ok_iff.mp hp
    dsimp only at hstream
    rw [View.streamOf] at hstream
    obtain ⟨inner, -, hstaged⟩ := Result.bind_eq_ok_iff.mp hstream
    rw [staged, if_pos (isSome_of_negative hneg)] at hstaged
    obtain ⟨name, n, -, hrefused⟩ :=
      between_negative hneg (inOrder sort collation (sifted residual inner))
    rw [hrefused] at hstaged
    cases hstaged

/-- Bounds cut a piece out of what a query hands out without them. While all indexes are clean,
and if a query is accepted without bounds, then it is accepted with any that are not negative.
If the first pulls bring no error, as many as the bounds reach over, the bounded cursor hands
out what comes after those that are skipped. And if the whole result can be read, page after
page makes up just that, whatever the size of the pages is. Negative bounds are refused. -/
theorem find_pages (h : s.Sound) (hprocessors : s.view.processors = [])
    (hclean : ∀ i ∈ s.view.indexes, i.dirty = false) (f : Filter) (options : FindOptions) :
    (∀ cursor s₁,
      (Collection.find Listener.silent f (options.within none none)).perform s
          = (.ok cursor, s₁) →
        (∀ skip limit : Nat,
          (∀ item ∈ cursor.pulls s₁.store (skip + limit), ∃ d, item = .ok d) →
            ∃ page s₂,
              (Collection.find Listener.silent f (options.within (some skip) (some limit))).perform
                  s = (.ok page, s₂) ∧
                ∀ n, page.pulls s₂.store n
                  = ((cursor.pulls s₁.store (skip + limit)).drop skip).take n) ∧
        (∀ docs, cursor.toList s₁.store = .ok docs → ∀ size count, 1 ≤ size →
          docs.length ≤ count →
            ∃ s₂, (Collection.readPages Listener.silent f options size 0 count).perform s
              = (.ok docs, s₂)) ∧
        ∀ skip limit : Option Int, (∃ n < 0, skip = some n ∨ limit = some n) →
          ∃ name n s₂,
            (Collection.find Listener.silent f (options.within skip limit)).perform s
              = (.error (.negativeBound name n), s₂)) ∧
      ∀ skip limit : Option Int, (∃ n < 0, skip = some n ∨ limit = some n) →
        ∃ e s₂, (Collection.find Listener.silent f (options.within skip limit)).perform s
          = (.error e, s₂) := by
  refine ⟨fun cursor s₁ hfind => ?_, fun skip limit => find_negative h f options⟩
  obtain ⟨hcursor, hreach⟩ := (does_find_of_clean h hclean f (options.within none none)).elim hfind
  obtain ⟨stream, hquery, rfl⟩ := Result.map_eq_ok_iff.mp hcursor.symm
  rw [hprocessors]
  -- both cursors read the records of the view, each from its own store
  have hread₁ := hreach.sound.read_records
  rw [hreach.view] at hread₁
  have hover : Over s.view.recordMap stream := by
    obtain ⟨p, -, hstream⟩ := Result.bind_eq_ok_iff.mp hquery
    exact View.over_streamOf hstream
  have hsorted : SortedEntries.Sorted s.view.records := h.recordsSorted
  refine ⟨fun skip limit hitems => ?_, fun docs hdocs size count hsize hcount => ?_,
    fun skip limit hneg => ?_⟩
  · obtain ⟨s₂, hs₂, hreach₂⟩ :=
      does_find_within hprocessors hclean hquery h rfl skip limit
    have hread₂ := hreach₂.sound.read_records
    rw [hreach₂.view] at hread₂
    refine ⟨_, s₂, hs₂, fun n => ?_⟩
    have hpulls := Cursor.pulls_eq_take (c := ⟨stream, []⟩) (hover.coherent hread₁ hsorted)
    have hpulls' := Cursor.pulls_eq_take (c := ⟨.bounded skip (some limit) stream, []⟩)
      (hover.bounded.coherent hread₂ hsorted) n
    have hsame := Cursor.drain_congr hover (hread₂.trans hread₁.symm) []
    rw [hpulls] at hitems ⊢
    rw [hpulls', Cursor.drain_bounded, hsame, List.drop_take, Nat.add_sub_cancel_left]
    intro item hitem
    rw [hsame] at hitem
    exact hitems item ((List.take_sublist_take_left (Nat.le_add_right skip limit)).mem hitem)
  · have hwhole : ∀ store : Store, (store.map s.view.recordMap).read = .ok s.view.records →
        Cursor.drain store ⟨stream, []⟩ = docs.map .ok := by
      intro store hread
      rw [Cursor.drain_congr hover (hread.trans hread₁.symm)]
      exact Cursor.toList_eq_ok hdocs
    obtain ⟨s₂, hs₂, -⟩ := readPages_spec hprocessors hclean hquery hwhole size 0 count h rfl
    have hall : docs.length ≤ count * size := le_trans hcount (Nat.le_mul_of_pos_right _ hsize)
    rw [Nat.zero_mul, List.drop_zero, List.take_of_length_le hall] at hs₂
    exact ⟨s₂, hs₂⟩
  · obtain ⟨name, n, -, hrefused⟩ := between_negative hneg stream
    obtain ⟨s₂, hs₂, -⟩ := does_find_of_clean h hclean f (options.within skip limit)
    rw [View.query_bounded hquery (isSome_of_negative hneg), hrefused] at hs₂
    exact ⟨name, n, s₂, hs₂⟩

/-- Two records in pages of one each, and a bounded query that skips the first. -/
theorem find_pages_rival_records :
    ∃ (s s₁ s₂ s₃ : Session Unit) (cursor page : Cursor) (docs : List Document), s.Sound ∧
      s.view.processors = [] ∧ (∀ i ∈ s.view.indexes, i.dirty = false) ∧
      (Collection.find Listener.silent .everything {}).perform s = (.ok cursor, s₁) ∧
      docs = rivalRecords.map Prod.snd ∧ cursor.toList s₁.store = .ok docs ∧
      (Collection.readPages Listener.silent .everything {} 1 0 2).perform s = (.ok docs, s₂) ∧
      (Collection.find Listener.silent .everything { skip := some 1, limit := some 5 }).perform s
          = (.ok page, s₃) ∧
      page.pulls s₃.store 6 = docs.tail.map .ok := by
  let v : View := ⟨"c", {}, [], ⟨0⟩, [], rivalRecords, []⟩
  obtain ⟨s, h, hview⟩ : ∃ s : Session Unit, s.Sound ∧ s.view = v :=
    exists_unbuilt "c" {} [] (by decide) rfl (by decide) .nil
  have hprocessors : s.view.processors = [] := by
    rw [hview]
  have hclean : ∀ i ∈ s.view.indexes, i.dirty = false := by
    rw [hview]
    exact List.forall_mem_nil _
  have hquery : v.query .everything {} = .ok (.walk (Walk.start ⟨0⟩ false)) := rfl
  obtain ⟨s₁, hs₁, hreach⟩ := does_find_of_clean h hclean .everything {}
  rw [hview, hquery] at hs₁
  -- the walk hands out both records
  have hread := hreach.sound.read_records
  rw [hreach.view, hview] at hread
  have hlist : Cursor.toList s₁.store ⟨.walk (Walk.start ⟨0⟩ false), []⟩
      = .ok (rivalRecords.map Prod.snd) := Cursor.toList_of_yields (walk_items hread)
  have hpulls : ∀ n, Cursor.pulls s₁.store n ⟨.walk (Walk.start ⟨0⟩ false), []⟩
      = ((rivalRecords.map Prod.snd).map .ok).take n := by
    intro n
    have hover : Over (⟨0⟩ : MapRef RecordId) (.walk (Walk.start ⟨0⟩ false)) := .walk rfl rfl
    rw [Cursor.pulls_eq_take (hover.coherent hread (by decide)), Cursor.toList_eq_ok hlist]
  obtain ⟨hall, -⟩ := find_pages h hprocessors hclean .everything {}
  obtain ⟨hslice, hpages, -⟩ := hall _ s₁ hs₁
  obtain ⟨s₂, hs₂⟩ := hpages _ hlist 1 2 le_rfl (by decide)
  obtain ⟨page, s₃, hs₃, hpage⟩ := hslice 1 5 (by
    intro item hitem
    rw [hpulls] at hitem
    obtain ⟨d, -, rfl⟩ := List.mem_map.mp (List.mem_of_mem_take hitem)
    exact ⟨d, rfl⟩)
  refine ⟨s, s₁, s₂, s₃, _, page, _, h, hprocessors, hclean, hs₁, rfl, hlist, hs₂, hs₃, ?_⟩
  rw [hpage, hpulls]
  rfl

end Session

end DocumentDb
