import DocumentDb.Proofs.Querying
import DocumentDb.Proofs.SortedEntries
import DocumentDb.Stream.Cursor

/-!
# `DocumentDb.Proofs.Query.StreamSteps`: a cursor one pull at a time

`RecordStream.run` gives everything that a stream yields on a store that does not change, and
with each item the stream as it is then. `RecordStream.Coherent` says that the streams of a run
go on where the run does, and `Over.coherent` that this is so for the streams that carry out
plans. So what a cursor hands out pull by pull is what it hands out at once
(`Cursor.pulls_eq_take`).

`RecordStream.Over` are the streams that take their records from one map. What they yield
depends on the store by that map alone (`Over.run_congr`).
-/

set_option autoImplicit false

namespace DocumentDb

open SortedEntries (Sorted)

namespace RecordStream

/-- Streams all of whose records come from one map, by walks in the order of the ids and by
lookups. -/
inductive Over (m : MapRef RecordId) : RecordStream → Prop
  | walk {w : Walk RecordId} (hmap : w.map = m) (hforward : w.reverse = false) : Over m (.walk w)
  | lookup {left : List RecordId} : Over m (.lookup m left)
  | union {branches : List RecordStream} (h : ∀ branch ∈ branches, Over m branch) :
      Over m (.union branches)
  | distinct {seen : List RecordId} {inner : RecordStream} (h : Over m inner) :
      Over m (.distinct seen inner)
  | filtered {inner : RecordStream} {f : Filter} (h : Over m inner) : Over m (.filtered inner f)
  | sorted {inner : RecordStream} {keys : SortKeys} {collation : Text.Collation}
      (h : Over m inner) : Over m (.sorted inner keys collation)
  | bounded {skip : Nat} {limit : Option Nat} {inner : RecordStream} (h : Over m inner) :
      Over m (.bounded skip limit inner)

/-- Every stream of a run yields the rest of the run. -/
def Coherent (s : Store) : Run → Prop
  | [] => True
  | (_, next) :: rest => run s next = rest ∧ Coherent s rest

variable {s s' : Store} {m : MapRef RecordId} {records : List Entry} {stream : RecordStream}
  {r : Run}

/-- What a stream yields depends on its map alone. -/
theorem Over.run_congr (h : Over m stream) (hread : (s.map m).read = (s'.map m).read) :
    run s stream = run s' stream := by
  induction h with
  | walk hmap hforward => rw [run, run, runWalk, runWalk, Walk.run, Walk.run, hmap, hread]
  | @lookup left =>
    rw [run, run]
    induction left with
    | nil => rfl
    | cons id left ih => rw [runLookup, runLookup, hread, ih]
  | @union branches h ih =>
    rw [run, run]
    induction branches with
    | nil => rw [runAll, runAll]
    | cons branch later ihLater =>
      rw [List.forall_mem_cons] at h ih
      rw [runAll, runAll, ih.1, ihLater h.2 ih.2]
  | distinct h ih => rw [run, run, ih]
  | filtered h ih => rw [run, run, ih]
  | sorted h ih => rw [run, run, ih]
  | bounded h ih => rw [run, run, ih]

/-! ### Sources -/

/-- What is left of sorted items is the rest of the items. -/
theorem coherent_runItems (left : List (Result Entry)) : Coherent s (runItems left) := by
  induction left with
  | nil => trivial
  | cons item left ih => exact ⟨by rw [run], ih⟩

/-- Nothing is left after an error. -/
theorem coherent_error (e : Error) : Coherent s [(.error e, ended)] :=
  ⟨by rw [ended, run]; rfl, trivial⟩

/-- A walk that has reached an entry goes on with the entries above it. -/
theorem coherent_walk {w : Walk RecordId} (hfinished : w.finished = false)
    (hforward : w.reverse = false) (hread : (s.map w.map).read = .ok records) {ahead : List Entry}
    (hsorted : Sorted ahead)
    (habove : ∀ e ∈ ahead, (records.filter fun e' => compare e.1 e'.1 == .lt)
      = ahead.filter fun e' => compare e.1 e'.1 == .lt) :
    Coherent s (ahead.map fun e => (.ok e, .walk (w.reach e.1))) := by
  induction ahead with
  | nil => trivial
  | cons e rest ih =>
    obtain ⟨hfirst, hrest⟩ := SortedEntries.sorted_cons.mp hsorted
    rw [List.forall_mem_cons] at habove
    have hnot : (compare e.1 e.1 == .lt) = false := by simp [Std.ReflCmp.compare_self]
    refine ⟨?_, ih hrest fun e' he' => ?_⟩
    · -- the entries above the first one are all the others
      have hothers : (records.filter fun e' => compare e.1 e'.1 == .lt) = rest := by
        rw [habove.1, List.filter_cons, hnot, List.filter_eq_self.mpr]
        · rfl
        · exact fun e' he' => beq_iff_eq.mpr (hfirst e' he')
      have hahead : (w.reach e.1).ahead records = rest := by
        rw [Walk.ahead, Walk.reach]
        simp only [hforward, SortedEntries.walk, Bool.false_eq_true, if_false]
        exact hothers
      have hreached : (s.map (w.reach e.1).map).read = .ok records := hread
      rw [run, runWalk, Walk.run, hreached]
      simp only [Walk.reach, hfinished, Bool.false_eq_true, if_false]
      rw [List.map_map]
      exact congrArg (List.map _) hahead
    · rw [habove.2 e' he', List.filter_cons, if_neg]
      have hgt := Std.OrientedCmp.gt_of_lt (hfirst e' he')
      rw [hgt]
      decide

/-- What is left of a walk goes on after the last record that it handed out. -/
theorem coherent_runWalk {w : Walk RecordId} (hforward : w.reverse = false)
    (hread : (s.map w.map).read = .ok records) (hsorted : Sorted records) :
    Coherent s (runWalk w s) := by
  unfold runWalk Walk.run
  cases hfinished : w.finished with
  | true => trivial
  | false =>
    simp only [Bool.false_eq_true, if_false, hread, List.map_map]
    refine coherent_walk hfinished hforward hread ?_ fun e he => ?_
    · rw [Walk.ahead]
      simp only [hforward, SortedEntries.walk, Bool.false_eq_true, if_false]
      split
      · exact hsorted
      · exact hsorted.sublist List.filter_sublist
    · rw [Walk.ahead] at he ⊢
      simp only [hforward, SortedEntries.walk, Bool.false_eq_true, if_false] at he ⊢
      split
      · rfl
      · -- what is above a reached entry is above the last key as well
        rename_i k hlast
        rw [hlast] at he
        have hk := (List.mem_filter.mp he).2
        rw [List.filter_filter]
        refine List.filter_congr fun e' _ => ?_
        rw [Bool.eq_iff_iff, Bool.and_eq_true]
        simp only [beq_iff_eq] at hk ⊢
        exact ⟨fun hlt => ⟨hlt, Std.TransCmp.lt_trans hk hlt⟩, fun hlt => hlt.1⟩

/-- What is left of a lookup is the lookup of the ids that are left. -/
theorem coherent_runLookup (hread : (s.map m).read = .ok records) (left : List RecordId) :
    Coherent s (runLookup m s left) := by
  induction left with
  | nil => trivial
  | cons id left ih =>
    rw [runLookup, hread]
    dsimp only
    cases SortedEntries.get? id records with
    | none => exact ih
    | some d => exact ⟨by rw [run], ih⟩

/-! ### Stages -/

/-- What is left of a branch, with the later branches after it, is what is left of the union. -/
theorem coherent_runBranch {later : List RecordStream} {next : Run} (hr : Coherent s r)
    (hnext : Coherent s next) (hlater : next = runAll s later) :
    Coherent s (runBranch later next r) := by
  induction r with
  | nil => exact hnext
  | cons step r ih =>
    obtain ⟨item, branch⟩ := step
    obtain ⟨hrun, hrest⟩ := hr
    cases item with
    | error e => exact coherent_error e
    | ok entry =>
      refine ⟨?_, ih hrest⟩
      rw [run, runAll, hrun, hlater]

/-- Leaving out repeated ids leaves a stream that remembers those that it has handed out. -/
theorem coherent_runDistinct (seen : List RecordId) (hr : Coherent s r) :
    Coherent s (runDistinct seen r) := by
  induction r generalizing seen with
  | nil => trivial
  | cons step r ih =>
    obtain ⟨item, inner⟩ := step
    obtain ⟨hrun, hrest⟩ := hr
    cases item with
    | error e => exact ⟨by rw [run, hrun], ih seen hrest⟩
    | ok entry =>
      rw [runDistinct]
      split
      · exact ih seen hrest
      · exact ⟨by rw [run, hrun], ih _ hrest⟩

/-- What is left of a filtered stream is what is left of the stream, filtered. -/
theorem coherent_runFiltered (f : Filter) (hr : Coherent s r) : Coherent s (runFiltered f r) := by
  induction r with
  | nil => trivial
  | cons step r ih =>
    obtain ⟨item, inner⟩ := step
    obtain ⟨hrun, hrest⟩ := hr
    cases item with
    | error e => exact coherent_error e
    | ok entry =>
      rw [runFiltered]
      split
      · exact coherent_error _
      · exact ⟨by rw [run, hrun], ih hrest⟩
      · exact ih hrest

/-- What is left of a bounded stream is bounded by what there is left to skip and to take. -/
theorem coherent_runBounded (skip : Nat) (limit : Option Nat) (hr : Coherent s r) :
    Coherent s (runBounded skip limit r) := by
  induction r generalizing skip limit with
  | nil => rcases limit with _ | _ | limit <;> cases skip <;> trivial
  | cons step r ih =>
    obtain ⟨item, inner⟩ := step
    obtain ⟨hrun, hrest⟩ := hr
    have hnext : ∀ skip limit, run s (.bounded skip limit inner) = runBounded skip limit r := by
      intro skip limit
      rw [run, hrun]
    -- the item is skipped, or handed out with the bounds that are left then
    rcases limit with _ | _ | limit
    · rcases skip with _ | skip <;> rcases item with e | entry
      · exact ⟨hnext 0 none, ih 0 none hrest⟩
      · exact ⟨hnext 0 none, ih 0 none hrest⟩
      · exact ⟨hnext skip none, ih skip none hrest⟩
      · exact ih skip none hrest
    · cases skip <;> cases item <;> trivial
    · rcases skip with _ | skip <;> rcases item with e | entry
      · exact ⟨hnext 0 (some limit), ih 0 (some limit) hrest⟩
      · exact ⟨hnext 0 (some limit), ih 0 (some limit) hrest⟩
      · exact ⟨hnext skip _, ih skip _ hrest⟩
      · exact ih skip _ hrest

/-- The streams of a run go on where the run does. -/
theorem Over.coherent (h : Over m stream) (hread : (s.map m).read = .ok records)
    (hsorted : Sorted records) : Coherent s (run s stream) := by
  induction h with
  | walk hmap hforward =>
    rw [run]
    exact coherent_runWalk hforward (hmap ▸ hread) hsorted
  | lookup =>
    rw [run]
    exact coherent_runLookup hread _
  -- the branches that are left are part of the stream that is left
  | @union branches h ih =>
    rw [run]
    induction branches with
    | nil =>
      rw [runAll]
      trivial
    | cons branch later ihLater =>
      rw [List.forall_mem_cons] at h ih
      rw [runAll]
      exact coherent_runBranch ih.1 (ihLater h.2 ih.2) rfl
  | distinct h ih =>
    rw [run]
    exact coherent_runDistinct _ ih
  | filtered h ih =>
    rw [run]
    exact coherent_runFiltered _ ih
  | sorted h ih =>
    rw [run, runSorted]
    split
    · exact coherent_error _
    · exact coherent_runItems _
  | bounded h ih =>
    rw [run]
    exact coherent_runBounded _ _ ih

/-! ### Plans -/

/-- The stages of a plan take their records from the map that the source takes them from. -/
theorem Over.staged {residual : Option Filter} {keys : SortKeys}
    {collation : Option Text.Collation} {skip limit : Option Int} {source : RecordStream}
    (h : Over m source)
    (hstaged : RecordStream.staged residual keys collation skip limit source = .ok stream) :
    Over m stream :=
  staged_keeps h (fun _ _ => .filtered) (fun _ _ _ => .sorted) (fun _ _ _ => .bounded) hstaged

end RecordStream

namespace View

open RecordStream

variable {v : View}

mutual

/-- The stream of a plan takes its records from the records of the collection. -/
theorem over_streamOf {p : Plan} {stream : RecordStream} (h : v.streamOf p = .ok stream) :
    Over v.recordMap stream := by
  obtain ⟨source, scanOrder, residual, sort, collation, skip, limit⟩ := p
  rw [streamOf] at h
  obtain ⟨inner, hinner, hstaged⟩ := Result.bind_eq_ok_iff.mp h
  exact (over_streamOfSource hinner).staged hstaged

/-- The stream of a source takes its records from the records of the collection. -/
theorem over_streamOfSource {scanOrder : ScanOrder} {source : Source Plan} {stream : RecordStream}
    (h : v.streamOfSource scanOrder source = .ok stream) : Over v.recordMap stream := by
  cases source with
  | collection =>
    rw [streamOfSource] at h
    cases h
    exact .walk rfl rfl
  | byId x =>
    rw [streamOfSource] at h
    cases h
    exact .lookup
  | index d conditions =>
    rw [streamOfSource] at h
    obtain ⟨ids, -, rfl⟩ := Result.map_eq_ok_iff.mp h
    exact .lookup
  | union branches =>
    rw [streamOfSource] at h
    obtain ⟨streams, hstreams, rfl⟩ := Result.map_eq_ok_iff.mp h
    exact .distinct (.union (over_streamsOf hstreams))

/-- The streams of branches take their records from the records of the collection. -/
theorem over_streamsOf {branches : List Plan} {streams : List RecordStream}
    (h : v.streamsOf branches = .ok streams) : ∀ stream ∈ streams, Over v.recordMap stream := by
  cases branches with
  | nil =>
    rw [streamsOf] at h
    cases h
    exact List.forall_mem_nil _
  | cons p rest =>
    rw [streamsOf] at h
    obtain ⟨first, hfirst, h⟩ := Result.bind_eq_ok_iff.mp h
    obtain ⟨others, hothers, rfl⟩ := Result.map_eq_ok_iff.mp h
    exact List.forall_mem_cons.mpr ⟨over_streamOf hfirst, over_streamsOf hothers⟩

end

end View

/-! ### Cursors -/

namespace Cursor

open RecordStream

/-- What a cursor hands out in a number of pulls on a store that does not change. -/
def pulls (s : Store) : Nat → Cursor → List (Result Document)
  | 0, _ => []
  | n + 1, c =>
    match c.pull s with
    | (none, _) => []
    | (some item, c') => item :: pulls s n c'

variable {s : Store}

/-- A cursor that has ended hands out nothing more. -/
theorem pulls_ended (n : Nat) : pulls s n ended = [] := by
  cases n with
  | zero => rfl
  | succ n =>
    have hrun : ended.run s = [] := by
      rw [run, ended, RecordStream.ended, RecordStream.run]
      rfl
    rw [pulls, pull, hrun]

/-- The next pull hands out the first item of the run, and the others follow. -/
theorem pulls_succ {c c' : Cursor} {item : Result Document} {rest : List (Result Document × Cursor)}
    (hrun : c.run s = (item, c') :: rest) (n : Nat) :
    c.pulls s (n + 1) = item :: c'.pulls s n := by
  rw [pulls, pull, hrun]

/-- Pull by pull a cursor hands out what it has to hand out at once. -/
theorem pulls_eq_take {c : Cursor} (h : Coherent s (c.stream.run s)) (n : Nat) :
    c.pulls s n = (c.drain s).take n := by
  induction n generalizing c with
  | zero => rfl
  | succ n ih =>
    obtain ⟨stream, processors⟩ := c
    cases hstream : stream.run s with
    | nil =>
      have hrun : run s ⟨stream, processors⟩ = [] := by
        rw [run, hstream]
        rfl
      rw [pulls, pull, drain, hrun]
      rfl
    | cons step rest =>
      obtain ⟨item, next⟩ := step
      rw [hstream] at h
      obtain ⟨hnext, hrest⟩ := h
      -- after an error, of the stream or of a processor, there is nothing more
      have herror : ∀ e, run s ⟨stream, processors⟩ = [(.error e, ended)] →
          pulls s (n + 1) ⟨stream, processors⟩ = (drain s ⟨stream, processors⟩).take (n + 1) := by
        intro e hrun
        rw [pulls_succ hrun, pulls_ended, drain, hrun, List.map_singleton, List.take_succ_cons,
          List.take_nil]
      cases item with
      | error e =>
        refine herror e ?_
        rw [run, hstream]
        rfl
      | ok entry =>
        cases hread : Processor.readAll processors entry.2 with
        | error e =>
          refine herror e ?_
          rw [run, hstream, readRun, hread]
        | ok d =>
          have hrun : run s ⟨stream, processors⟩
              = (.ok d, ⟨next, processors⟩) :: readRun processors rest := by
            rw [run, hstream, readRun, hread]
          have hdrain : drain s ⟨next, processors⟩ = (readRun processors rest).map (·.1) := by
            rw [drain, run, hnext]
          have hcoherent : Coherent s ((⟨next, processors⟩ : Cursor).stream.run s) := by
            rw [hnext]
            exact hrest
          rw [pulls_succ hrun, ih hcoherent, hdrain, drain, hrun]
          rfl

end Cursor

end DocumentDb
