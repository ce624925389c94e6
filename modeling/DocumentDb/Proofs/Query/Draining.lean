import DocumentDb.Proofs.KeyOrder
import DocumentDb.Proofs.Result
import DocumentDb.Proofs.SortedEntries
import DocumentDb.Stream.Cursor
import Mathlib.Data.List.Nodup

/-!
# `DocumentDb.Proofs.Query.Draining`: streams that come to their end

`RecordStream.Yields` says that a stream comes to its end without an error, and which records
it has handed out by then. Every stage passes errors on, so a stage that yields records is
built on a stream that does, and each has a lemma on what it makes of the records
(`Yields.walk`, `Yields.lookup`, `Yields.filtered`, `Yields.sorted`, `Yields.distinct_union`).
In the other direction, a lookup in records that can be read comes to its end (`yields_lookup`), and
so does a filter that is decided on every record (`Yields.filtered_of_decided`).
`HandsOut` is the form in which these lemmas say which records come out: some of a given list,
each once, in any order.

`mem_runWalk`, `mem_runLookup` and so on say what one item of a run can be, an error or not, and
what stream follows it. They hold of streams that do not come to an end as well.
-/

set_option autoImplicit false

namespace DocumentDb

open SortedEntries (Sorted)

/-- Some of the records are handed out, those with a property and each of them once. -/
def HandsOut (records : List Entry) (P : Entry → Prop) (es : List Entry) : Prop :=
  (es.map (·.1)).Nodup ∧ ∀ e, e ∈ es ↔ e ∈ records ∧ P e

namespace HandsOut

variable {records es es' : List Entry} {P Q : Entry → Prop}

/-- Which records are handed out depends on what the property says of the records only. -/
theorem congr (h : HandsOut records P es) (hPQ : ∀ e ∈ records, P e ↔ Q e) :
    HandsOut records Q es :=
  ⟨h.1, fun e => (h.2 e).trans (and_congr_right fun he => hPQ e he)⟩

/-- The order in which records are handed out does not count. -/
theorem perm (h : HandsOut records P es) (hperm : es'.Perm es) : HandsOut records P es' :=
  ⟨(hperm.map _).nodup_iff.mpr h.1, fun e => hperm.mem_iff.trans (h.2 e)⟩

/-- Leaving records out. -/
theorem filter (h : HandsOut records P es) (q : Entry → Bool) :
    HandsOut records (fun e => P e ∧ q e = true) (es.filter q) := by
  refine ⟨h.1.sublist (List.filter_sublist.map _), fun e => ?_⟩
  rw [List.mem_filter, h.2, and_assoc]

end HandsOut

/-- The record of an id is determined, so what is true of some record of the id is true of it. -/
theorem exists_entry_iff {records : List Entry} (hsorted : Sorted records) {P : Document → Prop}
    {e : Entry} (he : e ∈ records) : (∃ e' ∈ records, e'.1 = e.1 ∧ P e'.2) ↔ P e.2 := by
  constructor
  · rintro ⟨e', he', heq, hP⟩
    rwa [List.inj_on_of_nodup_map hsorted.nodup_keys he' he heq] at hP
  · intro hP
    exact ⟨e, he, rfl, hP⟩

namespace RecordStream

/-- The items of a run are all records. -/
def Clean (run : Run) (es : List Entry) : Prop := run.map (·.1) = es.map Except.ok

/-- A stream comes to its end without an error and hands out these records. -/
def Yields (s : Store) (stream : RecordStream) (es : List Entry) : Prop := Clean (stream.run s) es

variable {s : Store} {m : MapRef RecordId} {records es : List Entry} {f : Filter}
  {P : Entry → Prop} {inner : RecordStream}

/-- An empty run hands out nothing. -/
theorem clean_nil : Clean [] es ↔ es = [] := by
  simp [Clean, eq_comm]

/-- A run hands out its first record, and then what the rest does. -/
theorem clean_cons_ok {e : Entry} {next : RecordStream} {run : Run} :
    Clean ((.ok e, next) :: run) es ↔ ∃ rest, es = e :: rest ∧ Clean run rest := by
  cases es with
  | nil => simp [Clean]
  | cons e' es => simp [Clean, eq_comm]

/-- A run with an error is not clean. -/
theorem not_clean_cons_error {err : Error} {next : RecordStream} {run : Run} :
    ¬ Clean ((.error err, next) :: run) es := by
  cases es <;> simp [Clean]

/-- What a stream yields is determined. -/
theorem Yields.unique {stream : RecordStream} {es' : List Entry} (h : Yields s stream es)
    (h' : Yields s stream es') : es = es' := by
  have hitems : es.map (Except.ok : Entry → Result Entry) = es'.map Except.ok := h.symm.trans h'
  exact List.map_injective_iff.mpr (fun _ _ hok => Except.ok.inj hok) hitems

/-! ### What a run is made of -/

section steps

variable {step : Result Entry × RecordStream} {r : Run}

/-- A walk hands out an entry that is ahead of it, or ends with the error of its map. -/
theorem mem_runWalk {w : Walk RecordId} (h : step ∈ runWalk w s) :
    (∃ err, step = (.error err, .walk w.finish)) ∨
      ∃ es e, (s.map w.map).read = .ok es ∧ e ∈ w.ahead es ∧
        step = (.ok e, .walk (w.reach e.1)) := by
  obtain ⟨⟨item, w'⟩, hrun, rfl⟩ := List.mem_map.mp h
  rw [Walk.run] at hrun
  split at hrun
  · cases hrun
  · split at hrun
    · rename_i err _
      cases List.mem_singleton.mp hrun
      exact Or.inl ⟨err, rfl⟩
    · rename_i es hread
      obtain ⟨e, he, heq⟩ := List.mem_map.mp hrun
      cases heq
      exact Or.inr ⟨es, e, hread, he, rfl⟩

/-- A lookup hands out the record of one of its ids, or ends with the error of its map. -/
theorem mem_runLookup {left : List RecordId} (h : step ∈ runLookup m s left) :
    (∃ err, step = (.error err, ended)) ∨
      ∃ es id d rest, (s.map m).read = .ok es ∧ id :: rest <:+ left ∧
        SortedEntries.get? id es = some d ∧ step = (.ok (id, d), .lookup m rest) := by
  cases hread : (s.map m).read with
  | error err =>
    cases left with
    | nil => cases h
    | cons id left =>
      rw [runLookup, hread] at h
      exact Or.inl ⟨err, List.mem_singleton.mp h⟩
  | ok es =>
    refine Or.inr ⟨es, ?_⟩
    induction left with
    | nil => cases h
    | cons id left ih =>
      -- the first id has a record that is handed out, or it is passed over
      have hfirst : step ∈ runLookup m s left ∨ ∃ d, SortedEntries.get? id es = some d ∧
          step = (.ok (id, d), .lookup m left) := by
        rw [runLookup, hread] at h
        dsimp only at h
        split at h
        · rename_i d hget
          exact (List.mem_cons.mp h).symm.imp_right fun hstep => ⟨d, hget, hstep⟩
        · exact Or.inl h
      rcases hfirst with h | ⟨d, hget, hstep⟩
      · obtain ⟨id', d, rest, hes, hrest, hget, hstep⟩ := ih h
        exact ⟨id', d, rest, hes, hrest.trans (List.suffix_cons id left), hget, hstep⟩
      · exact ⟨id, d, left, rfl, List.suffix_rfl, hget, hstep⟩

/-- A branch of a union hands out what it yields itself, and the later ones follow it; an error ends
them all. -/
theorem mem_runBranch {later : List RecordStream} {next : Run} (h : step ∈ runBranch later next r) :
    (∃ err, step = (.error err, ended)) ∨
      (∃ e branch, (.ok e, branch) ∈ r ∧ step = (.ok e, .union (branch :: later))) ∨
      step ∈ next := by
  induction r with
  | nil => exact Or.inr (Or.inr h)
  | cons first r ih =>
    obtain ⟨item, branch⟩ := first
    cases item with
    | error err => exact Or.inl ⟨err, List.mem_singleton.mp h⟩
    | ok e =>
      rcases List.mem_cons.mp h with rfl | h
      · exact Or.inr (Or.inl ⟨e, branch, List.mem_cons_self, rfl⟩)
      · obtain herror | ⟨e', branch', hmem, hstep⟩ | hnext := ih h
        · exact Or.inl herror
        · exact Or.inr (Or.inl ⟨e', branch', List.mem_cons_of_mem _ hmem, hstep⟩)
        · exact Or.inr (Or.inr hnext)

/-- Leaving out copies keeps every item that it hands out, an error too. -/
theorem mem_runDistinct {seen : List RecordId} (h : step ∈ runDistinct seen r) :
    ∃ seen' inner, (step.1, inner) ∈ r ∧ step.2 = .distinct seen' inner := by
  induction r generalizing seen with
  | nil => cases h
  | cons first r ih =>
    obtain ⟨item, inner⟩ := first
    have hlater {seen' : List RecordId} (h : step ∈ runDistinct seen' r) :
        ∃ seen' inner', (step.1, inner') ∈ (item, inner) :: r ∧
          step.2 = .distinct seen' inner' := by
      obtain ⟨seen', inner', hmem, hstep⟩ := ih h
      exact ⟨seen', inner', List.mem_cons_of_mem _ hmem, hstep⟩
    cases item with
    | error err =>
      rcases List.mem_cons.mp h with rfl | h
      · exact ⟨seen, inner, List.mem_cons_self, rfl⟩
      · exact hlater h
    | ok e =>
      rw [runDistinct] at h
      split at h
      · exact hlater h
      · rcases List.mem_cons.mp h with rfl | h
        · exact ⟨_, inner, List.mem_cons_self, rfl⟩
        · exact hlater h

/-- A filter hands out the records that pass it. An error ends it, that of a record or its own. -/
theorem mem_runFiltered {f : Filter} (h : step ∈ runFiltered f r) :
    (∃ err, step = (.error err, ended)) ∨
      ∃ e inner, (.ok e, inner) ∈ r ∧ f.apply e.2 = .ok true ∧
        step = (.ok e, .filtered inner f) := by
  induction r with
  | nil => cases h
  | cons first r ih =>
    obtain ⟨item, inner⟩ := first
    -- a later step of the run is one of the rest
    have hlater (h : step ∈ runFiltered f r) : (∃ err, step = (.error err, ended)) ∨
        ∃ e inner', (.ok e, inner') ∈ (item, inner) :: r ∧ f.apply e.2 = .ok true ∧
          step = (.ok e, .filtered inner' f) := by
      refine (ih h).imp_right ?_
      rintro ⟨e, inner', hmem, hpass, hstep⟩
      exact ⟨e, inner', List.mem_cons_of_mem _ hmem, hpass, hstep⟩
    cases item with
    | error err => exact Or.inl ⟨err, List.mem_singleton.mp h⟩
    | ok e =>
      rw [runFiltered] at h
      split at h
      · rename_i err _
        exact Or.inl ⟨err, List.mem_singleton.mp h⟩
      · rename_i hpass
        rcases List.mem_cons.mp h with rfl | h
        · exact Or.inr ⟨e, inner, List.mem_cons_self, hpass, rfl⟩
        · exact hlater h
      · exact hlater h

/-- Bounds keep every item that they hand out, an error too. -/
theorem mem_runBounded {skip : Nat} {limit : Option Nat} (h : step ∈ runBounded skip limit r) :
    ∃ skip' limit' inner, (step.1, inner) ∈ r ∧ step.2 = .bounded skip' limit' inner := by
  have hlater {first : Result Entry × RecordStream} {r : Run}
      (h : ∃ skip' limit' inner, (step.1, inner) ∈ r ∧ step.2 = .bounded skip' limit' inner) :
      ∃ skip' limit' inner, (step.1, inner) ∈ first :: r ∧
        step.2 = .bounded skip' limit' inner := by
    obtain ⟨skip', limit', inner, hmem, hstep⟩ := h
    exact ⟨skip', limit', inner, List.mem_cons_of_mem _ hmem, hstep⟩
  fun_induction runBounded skip limit r with
  | case1 => cases h
  | case2 => cases h
  | case3 skip limit e inner rest _ ih => exact hlater (ih h)
  | case4 skip limit err inner rest _ ih =>
    rcases List.mem_cons.mp h with rfl | h
    · exact ⟨_, _, inner, List.mem_cons_self, rfl⟩
    · exact hlater (ih h)
  | case5 limit item inner rest _ ih =>
    rcases List.mem_cons.mp h with rfl | h
    · exact ⟨_, _, inner, List.mem_cons_self, rfl⟩
    · exact hlater (ih h)

end steps

/-! ### Sources -/

/-- A walk of all records has them in their order. -/
theorem walk_items (hread : (s.map m).read = .ok records) :
    (run s (.walk (Walk.start m false))).map (·.1) = records.map Except.ok := by
  rw [run, runWalk, Walk.run, Walk.start, hread]
  simp only [Walk.ahead, SortedEntries.walk, Bool.false_eq_true, if_false, List.map_map]
  rfl

/-- A walk hands out all records. -/
theorem Yields.walk (hread : (s.map m).read = .ok records) (hsorted : Sorted records)
    (h : Yields s (.walk (Walk.start m false)) es) : HandsOut records (fun _ => True) es := by
  obtain rfl : records = es := Yields.unique (walk_items hread) h
  exact ⟨hsorted.nodup_keys, fun e => by simp⟩

/-- The records that a lookup comes upon. -/
def lookedUp (records : List Entry) (ids : List RecordId) : List Entry :=
  ids.filterMap fun id => (SortedEntries.get? id records).map (id, ·)

/-- The records that are looked up are those with one of the ids. -/
theorem mem_lookedUp (hsorted : Sorted records) {ids : List RecordId} {e : Entry} :
    e ∈ lookedUp records ids ↔ e ∈ records ∧ e.1 ∈ ids := by
  simp only [lookedUp, List.mem_filterMap, Option.map_eq_some_iff, hsorted.get?_eq_some_iff_mem]
  constructor
  · rintro ⟨id, hid, d, he, rfl⟩
    exact ⟨he, hid⟩
  · rintro ⟨he, hid⟩
    exact ⟨e.1, hid, e.2, he, rfl⟩

/-- The records come in the order of the ids. -/
theorem ids_lookedUp_sublist (records : List Entry) (ids : List RecordId) :
    ((lookedUp records ids).map (·.1)).Sublist ids := by
  induction ids with
  | nil => exact List.Sublist.refl _
  | cons id ids ih =>
    rw [lookedUp, List.filterMap_cons]
    cases SortedEntries.get? id records with
    | none => exact ih.cons id
    | some d => exact ih.cons_cons id

/-- A lookup comes to its end when the records can be read. -/
theorem yields_lookup (hread : (s.map m).read = .ok records) (ids : List RecordId) :
    Yields s (.lookup m ids) (lookedUp records ids) := by
  unfold Yields lookedUp
  rw [run]
  induction ids with
  | nil => exact clean_nil.mpr rfl
  | cons id ids ih =>
    rw [runLookup, hread]
    cases hget : SortedEntries.get? id records with
    | none => simpa [hget] using ih
    | some d => simpa [hget] using clean_cons_ok.mpr ⟨_, rfl, ih⟩

/-- A lookup hands out the records with the given ids. -/
theorem Yields.lookup (hread : (s.map m).read = .ok records) (hsorted : Sorted records)
    {ids : List RecordId} (hnodup : ids.Nodup) (h : Yields s (.lookup m ids) es) :
    HandsOut records (fun e => e.1 ∈ ids) es := by
  obtain rfl := h.unique (yields_lookup hread ids)
  exact ⟨hnodup.sublist (ids_lookedUp_sublist records ids), fun e => mem_lookedUp hsorted⟩

/-! ### Stages -/

/-- Whether the filter is decided on a record and passes it. -/
def lets (f : Filter) (e : Entry) : Bool :=
  match f.apply e.2 with
  | .ok b => b
  | .error _ => false

/-- A filter lets a record through if it holds of it, and not if it fails on it. -/
theorem lets_eq_true_iff {e : Entry} : lets f e = true ↔ f.apply e.2 = .ok true := by
  unfold lets
  cases f.apply e.2 <;> simp

/-- A filter is decided on every record, and leaves out those that do not pass. -/
theorem runFiltered_clean {r : Run} (h : Clean (runFiltered f r) es) :
    ∃ ins, Clean r ins ∧ es = ins.filter (lets f) ∧ ∀ e ∈ ins, ∃ b, f.apply e.2 = .ok b := by
  induction r generalizing es with
  | nil => exact ⟨[], clean_nil.mpr rfl, clean_nil.mp h, by simp⟩
  | cons step rest ih =>
    obtain ⟨item, next⟩ := step
    cases item with
    | error err => exact absurd h not_clean_cons_error
    | ok e =>
      rw [runFiltered] at h
      -- where the filter fails, the run has an error
      cases hpass : f.apply e.2 with
      | error err =>
        simp only [hpass] at h
        exact absurd h not_clean_cons_error
      | ok b =>
        have hlets : lets f e = b := by rw [lets, hpass]
        cases b with
        | true =>
          simp only [hpass] at h
          obtain ⟨out, rfl, hout⟩ := clean_cons_ok.mp h
          obtain ⟨ins, hins, rfl, hdecided⟩ := ih hout
          exact ⟨e :: ins, clean_cons_ok.mpr ⟨ins, rfl, hins⟩,
            by rw [List.filter_cons_of_pos hlets],
            List.forall_mem_cons.mpr ⟨⟨true, hpass⟩, hdecided⟩⟩
        | false =>
          simp only [hpass] at h
          obtain ⟨ins, hins, rfl, hdecided⟩ := ih h
          exact ⟨e :: ins, clean_cons_ok.mpr ⟨ins, rfl, hins⟩,
            by rw [List.filter_cons_of_neg (by simp [hlets])],
            List.forall_mem_cons.mpr ⟨⟨false, hpass⟩, hdecided⟩⟩

/-- Nothing is left of records that do not pass. -/
theorem runFiltered_eq_nil {r : Run} (hin : r.map (·.1) = records.map Except.ok)
    (hdown : ∀ e ∈ records, f.apply e.2 = .ok false) : runFiltered f r = [] := by
  induction records generalizing r with
  | nil => rw [List.map_eq_nil_iff.mp hin, runFiltered]
  | cons e records ih =>
    obtain ⟨⟨item, next⟩, r, rfl, hitem, hrest⟩ := List.map_eq_cons_iff.mp hin
    obtain rfl : item = .ok e := hitem
    rw [List.forall_mem_cons] at hdown
    rw [runFiltered, hdown.1]
    exact ih hrest hdown.2

/-- A filtered stream has come to its end if the filter failed on none of the records. -/
theorem Yields.filtered (h : Yields s (.filtered inner f) es) :
    ∃ ins, Yields s inner ins ∧ es = ins.filter (lets f) ∧
      ∀ e ∈ ins, ∃ b, f.apply e.2 = .ok b := by
  unfold Yields at h
  rw [run] at h
  exact runFiltered_clean h

/-- A filter that is decided on every record of its source comes to its end. -/
theorem Yields.filtered_of_decided (h : Yields s inner es)
    (hdecided : ∀ e ∈ es, ∃ b, f.apply e.2 = .ok b) :
    Yields s (.filtered inner f) (es.filter (lets f)) := by
  unfold Yields at h ⊢
  rw [run]
  generalize inner.run s = r at h
  induction es generalizing r with
  | nil =>
    obtain rfl : r = [] := by simpa [Clean] using h
    exact clean_nil.mpr rfl
  | cons e es ih =>
    rw [List.forall_mem_cons] at hdecided
    obtain ⟨⟨item, next⟩, r, rfl, hitem, hrest⟩ := List.map_eq_cons_iff.mp h
    obtain rfl : item = .ok e := hitem
    obtain ⟨b, hb⟩ := hdecided.1
    have hlets : lets f e = b := by rw [lets, hb]
    have hfiltered := ih hdecided.2 r hrest
    rw [runFiltered]
    cases b with
    | true =>
      rw [List.filter_cons_of_pos hlets]
      simpa only [hb] using clean_cons_ok.mpr ⟨_, rfl, hfiltered⟩
    | false =>
      rw [List.filter_cons_of_neg (by simp [hlets])]
      simpa only [hb] using hfiltered

/-- The items that are left of sorted records are these records. -/
theorem runItems_clean {out : List Entry} (h : Clean (runItems (out.map Except.ok)) es) :
    es = out := by
  induction out generalizing es with
  | nil => exact clean_nil.mp h
  | cons e out ih =>
    obtain ⟨rest, rfl, hrest⟩ := clean_cons_ok.mp h
    rw [ih hrest]

/-- Items that all have rows for a sort are records. -/
theorem clean_of_rows {keys : SortKeys} {r : Run} {rows : List (List Value × Entry)}
    (h : List.Forall₂ (fun step row => sortRow keys step.1 = .ok row) r rows) :
    Clean r (rows.map Prod.snd) := by
  induction h with
  | nil => exact clean_nil.mpr rfl
  | @cons step row steps rows hone _ ih =>
    obtain ⟨item, next⟩ := step
    obtain ⟨e, rfl, hrow⟩ := Result.bind_eq_ok_iff.mp hone
    obtain ⟨values, -, rfl⟩ := Result.map_eq_ok_iff.mp hrow
    exact clean_cons_ok.mpr ⟨_, rfl, ih⟩

/-- A sort hands out the records of its source. -/
theorem Yields.sorted {keys : SortKeys} {collation : Text.Collation}
    (h : Yields s (.sorted inner keys collation) es) : ∃ ins, Yields s inner ins ∧ es.Perm ins := by
  unfold Yields at h
  rw [run, runSorted] at h
  split at h
  · exact absurd h not_clean_cons_error
  · rename_i rows hrows
    refine ⟨rows.map Prod.snd, clean_of_rows (Result.mapM_eq_ok_iff.mp hrows), ?_⟩
    rw [runItems_clean h, sortRows]
    exact (List.mergeSort_perm rows _).map _

/-- Branches that follow one another without an error are free of errors. -/
theorem runBranch_clean {later : List RecordStream} {next r : Run}
    (h : Clean (runBranch later next r) es) :
    ∃ here rest, Clean r here ∧ Clean next rest ∧ es = here ++ rest := by
  induction r generalizing es with
  | nil => exact ⟨[], es, clean_nil.mpr rfl, h, rfl⟩
  | cons step r ih =>
    obtain ⟨item, branch⟩ := step
    cases item with
    | error err => exact absurd h not_clean_cons_error
    | ok e =>
      obtain ⟨out, rfl, hout⟩ := clean_cons_ok.mp h
      obtain ⟨here, rest, hhere, hrest, rfl⟩ := ih hout
      exact ⟨e :: here, rest, clean_cons_ok.mpr ⟨here, rfl, hhere⟩, hrest, rfl⟩

/-- A union hands out what its branches do, one after the other. -/
theorem Yields.union {branches : List RecordStream} (h : Yields s (.union branches) es) :
    ∃ ess, List.Forall₂ (Yields s) branches ess ∧ es = ess.flatten := by
  unfold Yields at h
  rw [run] at h
  induction branches generalizing es with
  | nil =>
    rw [runAll] at h
    exact ⟨[], List.Forall₂.nil, clean_nil.mp h⟩
  | cons branch branches ih =>
    rw [runAll] at h
    obtain ⟨here, rest, hhere, hrest, rfl⟩ := runBranch_clean h
    obtain ⟨ess, hess, rfl⟩ := ih hrest
    exact ⟨here :: ess, hess.cons hhere, rfl⟩

/-- Each record comes through once: the ids seen before are left out, and no id is repeated. -/
theorem runDistinct_clean {seen : List RecordId} {r : Run} (h : Clean (runDistinct seen r) es) :
    ∃ ins, Clean r ins ∧ (es.map (·.1)).Nodup ∧ (∀ e ∈ es, e ∈ ins ∧ e.1 ∉ seen) ∧
      ∀ e ∈ ins, e.1 ∈ seen ∨ e.1 ∈ es.map (·.1) := by
  induction r generalizing seen es with
  | nil =>
    obtain rfl := clean_nil.mp h
    exact ⟨[], clean_nil.mpr rfl, List.nodup_nil, by simp, by simp⟩
  | cons step r ih =>
    obtain ⟨item, inner⟩ := step
    cases item with
    | error err => exact absurd h not_clean_cons_error
    | ok e =>
      rw [runDistinct] at h
      split at h
      · -- seen before: it is passed over
        rename_i hseen
        rw [List.contains_iff_mem] at hseen
        obtain ⟨ins, hins, hnodup, hout, hall⟩ := ih h
        refine ⟨e :: ins, clean_cons_ok.mpr ⟨ins, rfl, hins⟩, hnodup, fun e' he' => ?_, ?_⟩
        · exact ⟨List.mem_cons_of_mem _ (hout e' he').1, (hout e' he').2⟩
        · exact List.forall_mem_cons.mpr ⟨Or.inl hseen, hall⟩
      · -- new: it comes out, and is among the seen ones from now on
        rename_i hseen
        rw [List.contains_iff_mem] at hseen
        obtain ⟨out, rfl, hrest⟩ := clean_cons_ok.mp h
        obtain ⟨ins, hins, hnodup, hout, hall⟩ := ih hrest
        refine ⟨e :: ins, clean_cons_ok.mpr ⟨ins, rfl, hins⟩, ?_, ?_, ?_⟩
        · rw [List.map_cons, List.nodup_cons]
          refine ⟨fun hmem => ?_, hnodup⟩
          obtain ⟨e', he', heq⟩ := List.mem_map.mp hmem
          exact (hout e' he').2 (heq ▸ List.mem_cons_self)
        · rw [List.forall_mem_cons]
          refine ⟨⟨List.mem_cons_self, hseen⟩, fun e' he' => ?_⟩
          obtain ⟨hin, hnot⟩ := hout e' he'
          exact ⟨List.mem_cons_of_mem _ hin, fun hmem => hnot (List.mem_cons_of_mem _ hmem)⟩
        · rw [List.forall_mem_cons]
          refine ⟨Or.inr List.mem_cons_self, fun e' he' => ?_⟩
          rw [List.map_cons, List.mem_cons]
          rcases hall e' he' with hmem | hmem
          · rw [List.mem_cons] at hmem
            tauto
          · exact Or.inr (Or.inr hmem)

/-- Branches that hand out records hand out each of them once when they are united. -/
theorem Yields.distinct_union {branches : List RecordStream}
    {Ps : List (Entry → Prop)} (hkeys : (records.map (·.1)).Nodup)
    (h : Yields s (.distinct [] (.union branches)) es)
    (hbranches : List.Forall₂ (fun branch P => ∀ es, Yields s branch es → HandsOut records P es)
      branches Ps) : HandsOut records (fun e => ∃ P ∈ Ps, P e) es := by
  unfold Yields at h
  rw [run] at h
  obtain ⟨ins, hins, hnodup, hout, hall⟩ := runDistinct_clean h
  obtain ⟨ess, hess, rfl⟩ := Yields.union hins
  -- what some branch hands out
  have hunion : ∀ e, e ∈ ess.flatten ↔ e ∈ records ∧ ∃ P ∈ Ps, P e := by
    intro e
    clear h hins hout hall
    induction hbranches generalizing ess with
    | nil =>
      cases hess
      simp
    | cons hone _ ih =>
      cases hess with
      | cons hyields hrest =>
        rw [List.flatten_cons, List.mem_append, (hone _ hyields).2, ih _ hrest]
        simp only [List.mem_cons, exists_eq_or_imp]
        tauto
  refine ⟨hnodup, fun e => ?_⟩
  rw [← hunion]
  constructor
  · exact fun he => (hout e he).1
  · intro he
    rcases hall e he with hmem | hmem
    · cases hmem
    · -- the record of an id is determined
      obtain ⟨e', he', heq⟩ := List.mem_map.mp hmem
      have hrecord := ((hunion e).mp he).1
      have hrecord' := ((hunion e').mp (hout e' he').1).1
      rwa [List.inj_on_of_nodup_map hkeys hrecord' hrecord heq] at he'

end RecordStream

end DocumentDb
