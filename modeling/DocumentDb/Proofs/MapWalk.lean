import DocumentDb.Proofs.KeyOrder
import DocumentDb.Proofs.SortedEntries
import DocumentDb.Proofs.Store

/-!
# `DocumentDb.Proofs.MapWalk`: walks through maps that change

A walk keeps the last key it has handed out and looks for the nearest key beyond it when it is
pulled. Between the pulls the map may change in any way. `Walk.trace` lists the pulls of a walk in
some course of events, each with what the map held at that time.

* `Walk.next_cases` is what one pull can do, and `Walk.mem_ahead` and `Walk.pairwise_ahead` say
  which entries it chooses from and in which order.
* A pull ends the walk or hands out a key beyond the last one (`Walk.ends_or_reaches`), and nothing
  but keys beyond that one is handed out later. By induction on the events, the keys are handed out
  strictly in the direction of the walk (`Walk.keys_beyond`, `Walk.pairwise_keys`).
* A key beyond the last one that the map holds at a pull is handed out then, or is still beyond the
  key that is (`Walk.next_of_contains`). So it is handed out before the walk ends, if the map holds
  it at every pull (`Walk.reaches`). This needs the entries in order, and no event puts them out of
  order (`MapEvent.sortedAt`).
* `walk_under_change` puts these together for walks that have not begun.
-/

set_option autoImplicit false

namespace DocumentDb

open SortedEntries (Sorted direction)
open Std (TransOrd TransCmp OrientedCmp)

variable {K V : Type}

/-! ### Events -/

/-- What can happen while a walk goes on. -/
inductive MapEvent (K V : Type)
  | put (k : K) (v : V)
  | erase (k : K)
  | clear
  /-- The map with a name is dropped. -/
  | drop (name : String)
  /-- The walk is pulled. -/
  | pull

/-- A pull of a walk: what the map held then, and what was handed out. -/
structure Pull (K V : Type) where
  content : Result (List (K × V))
  item : Option (Result (K × V))

/-- The key that a pull hands out. -/
def Pull.key? (p : Pull K V) : Option K :=
  match p.item with
  | some (.ok e) => some e.1
  | _ => none

/-- Whether the map holds a key at a pull. -/
def Pull.Has [Ord K] (p : Pull K V) (k : K) : Prop :=
  ∃ es, p.content = .ok es ∧ SortedEntries.contains k es = true

section events

variable [MapKind K V] [Ord K]

/-- The store after an event. A change that fails leaves it as it is, and so does a pull. -/
def MapEvent.change (r : MapRef K) (s : Store) : MapEvent K V → Store
  | .put k v => ((r.put k v).perform s).2
  | .erase k => ((r.erase k).perform s).2
  | .clear => (r.clear.perform s).2
  | .drop name => s.dropMap name
  | .pull => s

/-- The pulls of a walk in a course of events. -/
def Walk.trace : Walk K → Store → List (MapEvent K V) → List (Pull K V)
  | _, _, [] => []
  | w, s, .pull :: events => ⟨(s.map w.map).read, (w.next s).1⟩ :: trace (w.next s).2 s events
  | w, s, event :: events => trace w (event.change w.map s) events

end events

/-- A map that cannot be read has been dropped. -/
theorem NamedMap.read_eq_error {m : NamedMap K V} {e : Error} (h : m.read = .error e) :
    e = .mapDropped m.name := by
  rw [read] at h
  split at h
  · exact (Except.error.inj h).symm
  · cases h

/-! ### The entries ahead -/

/-- Whether a key is beyond the last one that a walk has handed out. -/
def Walk.Beyond [Ord K] (w : Walk K) (k : K) : Prop :=
  ∀ last, w.last = some last → compare last k = direction w.reverse

/-- Whether what a map holds, if it can be read, is in order. -/
def Store.SortedAt [MapKind K V] [Ord K] (s : Store) (r : MapRef K) : Prop :=
  ∀ es, (s.map r).read = .ok es → Sorted es

namespace Walk

variable [MapKind K V] [Ord K] {w : Walk K} {s : Store} {es : List (K × V)} {k : K}

omit [MapKind K V] in
/-- A walk chooses from the entries beyond its last key. -/
theorem mem_ahead {e : K × V} : e ∈ w.ahead es ↔ e ∈ es ∧ w.Beyond e.1 := by
  unfold ahead Beyond
  cases w.last with
  | none => simp [SortedEntries.mem_walk]
  | some last => simp [SortedEntries.mem_walk, direction]

omit [MapKind K V] in
/-- Beyond a key that has just been reached is what comes later in the direction. -/
theorem beyond_reach {k k' : K} : (w.reach k).Beyond k' ↔ compare k k' = direction w.reverse := by
  simp [Beyond, reach]

/-- What one pull can do. A walk that is finished hands out nothing. Otherwise it hands out an error
if the map has been dropped, nothing if nothing is ahead, and else the nearest entry ahead. -/
theorem next_cases (w : Walk K) (s : Store) :
    (w.finished = true ∧ w.next s = (none, w.finish)) ∨
    (w.finished = false ∧ ∃ e, (s.map w.map).read = .error e ∧
      w.next s = (some (.error e), w.finish)) ∨
    (w.finished = false ∧ ∃ es, (s.map w.map).read = .ok es ∧ w.ahead es = [] ∧
      w.next s = (none, w.finish)) ∨
    (w.finished = false ∧ ∃ es e rest, (s.map w.map).read = .ok es ∧ w.ahead es = e :: rest ∧
      w.next s = (some (.ok e), w.reach e.1)) := by
  unfold next run
  cases hfinished : w.finished with
  | true => exact Or.inl ⟨rfl, rfl⟩
  | false =>
    cases hread : (s.map w.map).read with
    | error e => exact Or.inr (Or.inl ⟨rfl, e, rfl, rfl⟩)
    | ok es =>
      cases hahead : w.ahead es with
      | nil => exact Or.inr (Or.inr (Or.inl ⟨rfl, es, rfl, hahead, by simp [hahead]⟩))
      | cons e rest =>
        exact Or.inr (Or.inr (Or.inr ⟨rfl, es, e, rest, rfl, hahead, by simp [hahead]⟩))

variable [TransOrd K]

omit [MapKind K V] in
/-- The entries ahead come in the direction of the walk. -/
theorem pairwise_ahead (hsorted : Sorted es) :
    (w.ahead es).Pairwise fun a b => compare a.1 b.1 = direction w.reverse := by
  unfold ahead
  cases w.last with
  | none => exact hsorted.pairwise_walk w.reverse
  | some last => exact SortedEntries.Sorted.pairwise_walk (hsorted.filter _) w.reverse

omit [MapKind K V] in
/-- What is beyond a key that a walk has reached was beyond before. -/
theorem Beyond.of_reach {k k' : K} (hk : w.Beyond k) (hk' : (w.reach k).Beyond k') :
    w.Beyond k' := by
  intro last hlast
  exact SortedEntries.direction_trans (hk last hlast) (beyond_reach.mp hk')

omit [MapKind K V] in
/-- Equal keys are beyond the same keys. -/
theorem Beyond.congr {k k' : K} (hk : w.Beyond k) (heq : compare k k' = .eq) : w.Beyond k' := by
  intro last hlast
  rw [← TransCmp.congr_right heq]
  exact hk last hlast

omit [MapKind K V] in
/-- A key that is there and beyond the last one is that of the nearest entry ahead, or is beyond
that as well. -/
theorem exists_ahead (hsorted : Sorted es) (hk : w.Beyond k)
    (hthere : SortedEntries.contains k es = true) :
    ∃ e rest, w.ahead es = e :: rest ∧ (compare k e.1 = .eq ∨ (w.reach e.1).Beyond k) := by
  obtain ⟨v, hv⟩ := Option.isSome_iff_exists.mp hthere
  obtain ⟨k', hmem, heq⟩ := SortedEntries.exists_mem_of_get?_eq_some hv
  have hahead : (k', v) ∈ w.ahead es := mem_ahead.mpr ⟨hmem, hk.congr heq⟩
  have hordered := pairwise_ahead (w := w) hsorted
  cases hcases : w.ahead es with
  | nil =>
    rw [hcases] at hahead
    cases hahead
  | cons e rest =>
    rw [hcases] at hahead hordered
    refine ⟨e, rest, rfl, ?_⟩
    rcases List.mem_cons.mp hahead with rfl | hrest
    · exact Or.inl heq
    · refine Or.inr (beyond_reach.mpr ?_)
      rw [TransCmp.congr_right heq]
      exact (List.pairwise_cons.mp hordered).1 _ hrest

end Walk

/-! ### Changes keep the map in order -/

section changes

variable [MapKind K V] [LawfulMapKind K] {s : Store} {r : MapRef K}

/-- A map that can be read after a drop could be read before, with the same entries. -/
theorem Store.read_dropMap {name : String} {es : List (K × V)}
    (h : ((s.dropMap name).map r).read = .ok es) : (s.map r).read = .ok es := by
  rw [map, LawfulMapKind.maps_dropMap, dropIn, List.getElem?_map] at h
  rw [map]
  cases hm : (MapKind.maps (K := K) s)[r.position]? with
  | none => rwa [hm] at h
  | some m =>
    rw [hm, Option.map_some, Option.getD_some] at h
    split at h
    · cases h
    · exact h

variable [Ord K]

/-- Replacing the entries by ones that are in order keeps the map in order. -/
theorem Store.SortedAt.setEntries (h : s.SortedAt r) {f : List (K × V) → List (K × V)}
    (hf : ∀ es, Sorted es → Sorted (f es)) : ((r.setEntries f).perform s).2.SortedAt r := by
  cases hread : (s.map r).read with
  | error e =>
    rw [MapRef.perform_setEntries_of_error hread]
    exact h
  | ok es =>
    rw [MapRef.perform_setEntries_of_read hread]
    intro es' hes'
    rw [Store.read_setEntries hread] at hes'
    cases hes'
    exact hf es (h es hread)

/-- No event puts the map out of order. -/
theorem MapEvent.sortedAt [TransOrd K] (h : s.SortedAt r) (event : MapEvent K V) :
    (event.change r s).SortedAt r := by
  cases event with
  | put k v => exact h.setEntries fun es hes => hes.insert
  | erase k =>
    rw [change, MapRef.perform_erase_snd]
    exact h.setEntries fun es hes => hes.erase
  | clear => exact h.setEntries fun es hes => SortedEntries.sorted_nil
  | drop name => exact fun es hes => h es (Store.read_dropMap hes)
  | pull => exact h

end changes

/-! ### Runs -/

namespace Walk

variable [MapKind K V] [Ord K] {w : Walk K} {s : Store} {k : K}

/-- A pull that hands out no key ends the walk. -/
theorem ends_or_reaches (w : Walk K) (s : Store) (content : Result (List (K × V))) :
    ((⟨content, (w.next s).1⟩ : Pull K V).key? = none ∧ (w.next s).2 = w.finish) ∨
    ∃ e, w.Beyond e.1 ∧ w.next s = (some (.ok e), w.reach e.1) := by
  rcases next_cases w s with ⟨-, h⟩ | ⟨-, e, -, h⟩ | ⟨-, es, -, -, h⟩ |
    ⟨-, es, e, rest, -, hahead, h⟩
  · exact Or.inl (by rw [h]; exact ⟨rfl, rfl⟩)
  · exact Or.inl (by rw [h]; exact ⟨rfl, rfl⟩)
  · exact Or.inl (by rw [h]; exact ⟨rfl, rfl⟩)
  · have hmem : e ∈ w.ahead es := hahead ▸ List.mem_cons_self
    exact Or.inr ⟨e, (mem_ahead.mp hmem).2, h⟩

/-- What is handed out is in the map, or is the error that reading a dropped map gives. -/
theorem mem_trace (w : Walk K) (s : Store) (events : List (MapEvent K V)) :
    ∀ p ∈ w.trace s events,
      (∀ e, p.item = some (.ok e) → ∃ es, p.content = .ok es ∧ e ∈ es) ∧
      (∀ err, p.item = some (.error err) →
        p.content = .error err ∧ ∃ name, err = .mapDropped name) := by
  fun_induction w.trace s events with
  | case1 => simp
  | case2 w s events ih =>
    refine List.forall_mem_cons.mpr ⟨?_, ih⟩
    rcases next_cases w s with ⟨-, h⟩ | ⟨-, e, hread, h⟩ | ⟨-, es, -, -, h⟩ |
      ⟨-, es, e, rest, hread, hahead, h⟩
    all_goals rw [h]
    · simp
    · simp [hread, NamedMap.read_eq_error hread]
    · simp
    · have hmem : e ∈ es := (mem_ahead.mp (hahead ▸ List.mem_cons_self)).1
      simp [hread, hmem]
  | case3 w s event events hpull ih => exact ih

/-- A walk that is finished hands out nothing more. -/
theorem trace_finished (hfinished : w.finished = true) (s : Store) (events : List (MapEvent K V)) :
    ∀ p ∈ w.trace s events, p.item = none := by
  fun_induction w.trace s events with
  | case1 => simp
  | case2 w s events ih =>
    have hnext : w.next s = (none, w.finish) := by simp [next, run, hfinished]
    rw [hnext] at ih ⊢
    exact List.forall_mem_cons.mpr ⟨rfl, ih rfl⟩
  | case3 w s event events hpull ih => exact ih hfinished

/-- After a pull that hands out no key, nothing more is handed out. -/
theorem pairwise_ended (w : Walk K) (s : Store) (events : List (MapEvent K V)) :
    (w.trace s events).Pairwise fun p q => p.key? = none → q.item = none := by
  fun_induction w.trace s events with
  | case1 => exact List.Pairwise.nil
  | case2 w s events ih =>
    refine List.pairwise_cons.mpr ⟨fun q hq hkey => ?_, ih⟩
    rcases ends_or_reaches w s (s.map w.map).read with ⟨-, hnext⟩ | ⟨e, -, hnext⟩
    · rw [hnext] at hq
      exact trace_finished rfl s events q hq
    · rw [hnext] at hkey
      cases hkey
  | case3 w s event events hpull ih => exact ih

variable [TransOrd K]

/-- A walk hands out keys beyond its last one only. -/
theorem keys_beyond (w : Walk K) (s : Store) (events : List (MapEvent K V)) :
    ∀ k ∈ (w.trace s events).filterMap Pull.key?, w.Beyond k := by
  fun_induction w.trace s events with
  | case1 => simp
  | case2 w s events ih =>
    rcases ends_or_reaches w s (s.map w.map).read with ⟨hnone, hnext⟩ | ⟨e, he, hnext⟩
    · rw [List.filterMap_cons_none hnone]
      rw [hnext] at ih ⊢
      exact ih
    · rw [hnext] at ih ⊢
      exact List.forall_mem_cons.mpr ⟨he, fun k hk => he.of_reach (ih k hk)⟩
  | case3 w s event events hpull ih => exact ih

/-- The keys come in the direction of the walk. -/
theorem pairwise_keys (w : Walk K) (s : Store) (events : List (MapEvent K V)) :
    ((w.trace s events).filterMap Pull.key?).Pairwise
      fun a b => compare a b = direction w.reverse := by
  fun_induction w.trace s events with
  | case1 => exact List.Pairwise.nil
  | case2 w s events ih =>
    rcases ends_or_reaches w s (s.map w.map).read with ⟨hnone, hnext⟩ | ⟨e, -, hnext⟩
    · rw [List.filterMap_cons_none hnone]
      rw [hnext] at ih ⊢
      exact ih
    · rw [hnext] at ih ⊢
      refine List.pairwise_cons.mpr ⟨fun k hk => ?_, ih⟩
      exact beyond_reach.mp (keys_beyond (w.reach e.1) s events k hk)
  | case3 w s event events hpull ih => exact ih

/-- A key beyond the last one that the map holds at a pull is handed out then, or is still beyond
the key that is. -/
theorem next_of_contains {es : List (K × V)} (hfinished : w.finished = false)
    (hread : (s.map w.map).read = .ok es) (hsorted : Sorted es) (hk : w.Beyond k)
    (hthere : SortedEntries.contains k es = true) :
    ∃ e, w.next s = (some (.ok e), w.reach e.1) ∧
      (compare k e.1 = .eq ∨ (w.reach e.1).Beyond k) := by
  obtain ⟨e, rest, hahead, hreach⟩ := exists_ahead hsorted hk hthere
  exact ⟨e, by simp [next, run, hfinished, hread, hahead], hreach⟩

/-- A walk that has come to its end has handed out every key beyond its last one that was there at
each pull. -/
theorem reaches [LawfulMapKind K] (hfinished : w.finished = false) (hsorted : s.SortedAt w.map)
    (hk : w.Beyond k) {events : List (MapEvent K V)} {before after : List (Pull K V)} {p : Pull K V}
    (htrace : w.trace s events = before ++ p :: after) (hend : p.item = none)
    (hthere : ∀ q ∈ before ++ [p], q.Has k) :
    ∃ k' ∈ before.filterMap Pull.key?, compare k k' = .eq := by
  fun_induction w.trace s events generalizing before with
  | case1 => simp at htrace
  | case2 w s events ih =>
    have hfirst : (⟨(s.map w.map).read, (w.next s).1⟩ : Pull K V) ∈ before ++ [p] := by
      cases before with
      | nil => simp [(List.cons.inj htrace).1]
      | cons q before => simp [(List.cons.inj htrace).1]
    obtain ⟨es, hread, hcontains⟩ := hthere _ hfirst
    obtain ⟨e, hnext, hreach⟩ :=
      next_of_contains hfinished hread (hsorted es hread) hk hcontains
    rw [hnext] at htrace ih
    cases before with
    | nil =>
      -- the last pull hands out nothing
      rw [← (List.cons.inj htrace).1] at hend
      cases hend
    | cons q before =>
      obtain ⟨rfl, htail⟩ := List.cons.inj htrace
      rcases hreach with heq | hbeyond
      · exact ⟨e.1, List.mem_cons_self, heq⟩
      · obtain ⟨k', hmem, heq⟩ := ih hfinished hsorted hbeyond htail
          fun q hq => hthere q (List.mem_cons_of_mem _ hq)
        exact ⟨k', List.mem_cons_of_mem _ hmem, heq⟩
  | case3 w s event events hpull ih =>
    exact ih hfinished (event.sortedAt hsorted) hk htrace hthere

end Walk

/-- Among keys that come in one direction, a key that is there is there once. -/
theorem countP_eq_one [Ord K] [TransOrd K] {keys : List K} {reverse : Bool} {k k' : K}
    (h : keys.Pairwise fun a b => compare a b = direction reverse) (hmem : k' ∈ keys)
    (heq : compare k k' = .eq) : keys.countP (compare k · == .eq) = 1 := by
  have hne : direction reverse ≠ .eq := by cases reverse <;> decide
  obtain ⟨before, after, rfl⟩ := List.append_of_mem hmem
  obtain ⟨-, hafter, hbefore⟩ := List.pairwise_append.mp h
  have hnoneBefore : before.countP (compare k · == .eq) = 0 := by
    refine List.countP_eq_zero.mpr fun a ha hak => hne ?_
    rw [← hbefore a ha k' List.mem_cons_self]
    exact TransCmp.eq_trans (OrientedCmp.eq_symm (beq_iff_eq.mp hak)) heq
  have hnoneAfter : after.countP (compare k · == .eq) = 0 := by
    refine List.countP_eq_zero.mpr fun a ha hka => hne ?_
    rw [← (List.pairwise_cons.mp hafter).1 a ha, ← TransCmp.congr_left heq]
    exact beq_iff_eq.mp hka
  rw [List.countP_append, List.countP_cons_of_pos (by simpa using heq), hnoneBefore, hnoneAfter]

/-- **Walking a map while it changes.** Whatever is stored, removed, cleared or dropped between the
pulls of a walk, the keys are handed out strictly in its direction; what is handed out is an entry
of the map at that time, or the error of a dropped map; a walk that has come to its end has handed
out exactly once each key that was there from the first pull to the last; and after a pull that
gives nothing or an error, nothing more is handed out. -/
theorem walk_under_change [MapKind K V] [LawfulMapKind K] [Ord K] [TransOrd K] {s : Store}
    {r : MapRef K} (hsorted : s.SortedAt r) (reverse : Bool) (events : List (MapEvent K V)) :
    let pulls := (Walk.start r reverse).trace s events
    (pulls.filterMap Pull.key?).Pairwise (fun a b => compare a b = direction reverse) ∧
    (∀ p ∈ pulls, (∀ e, p.item = some (.ok e) → ∃ es, p.content = .ok es ∧ e ∈ es) ∧
      (∀ err, p.item = some (.error err) →
        p.content = .error err ∧ ∃ name, err = .mapDropped name)) ∧
    (∀ before p after k, pulls = before ++ p :: after → p.item = none →
      (∀ q ∈ before ++ [p], q.Has k) →
        (before.filterMap Pull.key?).countP (compare k · == .eq) = 1) ∧
    pulls.Pairwise fun p q => p.key? = none → q.item = none := by
  intro pulls
  have hkeys : (pulls.filterMap Pull.key?).Pairwise fun a b => compare a b = direction reverse :=
    Walk.pairwise_keys (Walk.start r reverse) s events
  refine ⟨hkeys, Walk.mem_trace _ s events, fun before p after k hpulls hend hthere => ?_,
    Walk.pairwise_ended _ s events⟩
  -- every key is beyond the start
  have hbeyond : (Walk.start r reverse).Beyond k := by intro last hlast; cases hlast
  obtain ⟨k', hmem, heq⟩ := Walk.reaches rfl hsorted hbeyond hpulls hend hthere
  refine countP_eq_one (hkeys.sublist ?_) hmem heq
  rw [hpulls, List.filterMap_append]
  exact List.sublist_append_left _ _

/-- Records with the ids `ns`, all of them empty. -/
def emptyRecords (ns : List UInt64) : List (RecordId × Document) := ns.map fun n => (⟨n⟩, .empty)

/-- A store with three records. -/
def threeRecords : Store := { records := [⟨"c", emptyRecords [1, 2, 3], false⟩] }

/-- While a walk goes on, the record `2` is removed before the walk reaches it, `5` is stored ahead
of the walk and `0` behind it, and `1` is removed after it was handed out. The records `1`, `3` and
`5` are handed out, and `3`, which was there all along, once. -/
theorem walk_under_change_records :
    ∃ before p, (Walk.start (⟨0⟩ : MapRef RecordId) false).trace threeRecords
        [.pull, .erase ⟨2⟩, .put ⟨5⟩ .empty, .pull, .put ⟨0⟩ .empty, .erase ⟨1⟩, .pull, .pull]
          = before ++ [p] ∧
      before.filterMap Pull.key? = [⟨1⟩, ⟨3⟩, ⟨5⟩] ∧ p.item = none ∧
      (before.filterMap Pull.key?).countP (compare (⟨3⟩ : RecordId) · == .eq) = 1 := by
  have hsorted : threeRecords.SortedAt (⟨0⟩ : MapRef RecordId) := by
    intro es hes
    cases hes
    decide
  obtain ⟨-, -, honce, -⟩ := walk_under_change hsorted false
    [.pull, .erase ⟨2⟩, .put ⟨5⟩ .empty, .pull, .put ⟨0⟩ .empty, .erase ⟨1⟩, .pull, .pull]
  let before : List (Pull RecordId Document) :=
    [⟨.ok (emptyRecords [1, 2, 3]), some (.ok (⟨1⟩, .empty))⟩,
      ⟨.ok (emptyRecords [1, 3, 5]), some (.ok (⟨3⟩, .empty))⟩,
      ⟨.ok (emptyRecords [0, 3, 5]), some (.ok (⟨5⟩, .empty))⟩]
  let p : Pull RecordId Document := ⟨.ok (emptyRecords [0, 3, 5]), none⟩
  have hthere : ∀ q ∈ before ++ [p], q.Has ⟨3⟩ := by
    simp only [before, p, List.cons_append, List.nil_append, List.forall_mem_cons]
    exact ⟨⟨_, rfl, rfl⟩, ⟨_, rfl, rfl⟩, ⟨_, rfl, rfl⟩, ⟨_, rfl, rfl⟩, by simp⟩
  exact ⟨before, p, rfl, rfl, rfl, honce before p [] ⟨3⟩ rfl rfl hthere⟩

end DocumentDb
