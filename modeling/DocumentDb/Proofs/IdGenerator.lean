import DocumentDb.Collection
import DocumentDb.Proofs.KeyOrder
import Mathlib.Data.List.TakeWhile
import Mathlib.Data.Nat.Find
import Mathlib.Data.Stream.Init

/-!
# `DocumentDb.Proofs.IdGenerator`: ids that ascend

An id is composed of a time, a node and a sequence number, which stand in fields of its bits, the
time above the others. `RecordId.toNat_compose` is the number that comes of it; that the parts can
be read back and that later ids are greater are facts about this number.

A clock is an endless stream of readings, in which a time may repeat and an earlier one may follow a
later one. `IdGenerator.Issues` are the runs of a generator on a clock, call by call. A call can
fail to come back, if it waits for a time that the clock does not reach: `IdGenerator.Waits` are the
waits of one call, and `exists_issues_iff` says that the call comes back just if each of them ends.
`next?_eq_some_iff` is what one call does to the generator, and `Issues.ascend` follows by induction
over the calls: the pair of time and sequence number has grown with every id.
-/

set_option autoImplicit false

namespace DocumentDb

namespace RecordId

/-! ### Parts of an id -/

variable {id : RecordId} {time node sequence : UInt64}

/-- The largest node has ten bits. -/
theorem maxNode_toNat : maxNode.toNat = 2 ^ 10 - 1 := rfl

/-- The largest sequence number has twelve bits. -/
theorem maxSequence_toNat : maxSequence.toNat = 2 ^ 12 - 1 := rfl

/-- Masking with the largest node takes ten bits. -/
theorem toNat_and_maxNode (n : UInt64) : (n &&& maxNode).toNat = n.toNat % 1024 := by
  rw [UInt64.toNat_and, maxNode_toNat, Nat.and_two_pow_sub_one_eq_mod]

/-- Masking with the largest sequence number takes twelve bits. -/
theorem toNat_and_maxSequence (n : UInt64) : (n &&& maxSequence).toNat = n.toNat % 4096 := by
  rw [UInt64.toNat_and, maxSequence_toNat, Nat.and_two_pow_sub_one_eq_mod]

/-- The time is what stands above 22 bits. -/
theorem toNat_time (id : RecordId) : id.time.toNat = id.toUInt64.toNat / 4194304 := by
  have hshift : (22 : UInt64).toNat % 64 = 22 := rfl
  rw [RecordId.time, UInt64.toNat_shiftRight, hshift, Nat.shiftRight_eq_div_pow]

/-- The node is what stands in the ten bits above twelve. -/
theorem toNat_node (id : RecordId) : id.node.toNat = id.toUInt64.toNat / 4096 % 1024 := by
  have hshift : (12 : UInt64).toNat % 64 = 12 := rfl
  rw [RecordId.node, toNat_and_maxNode, UInt64.toNat_shiftRight, hshift,
    Nat.shiftRight_eq_div_pow]

/-- The sequence number is what stands in the last twelve bits. -/
theorem toNat_sequence (id : RecordId) : id.sequence.toNat = id.toUInt64.toNat % 4096 :=
  toNat_and_maxSequence id.toUInt64

/-- The fields do not overlap, so the number of an id is the sum of its parts. -/
theorem toNat_compose (node sequence : UInt64) (htime : time.toNat < 2 ^ 42) :
    (compose time node sequence).toUInt64.toNat
      = time.toNat * 4194304 + node.toNat % 1024 * 4096 + sequence.toNat % 4096 := by
  have htimeField : (time <<< 22).toNat = time.toNat <<< 22 := by
    have hshift : (22 : UInt64).toNat % 64 = 22 := rfl
    rw [UInt64.toNat_shiftLeft, hshift, Nat.mod_eq_of_lt]
    rw [Nat.shiftLeft_eq]
    omega
  have hnodeField : ((node &&& maxNode) <<< 12).toNat = (node.toNat % 1024) <<< 12 := by
    have hshift : (12 : UInt64).toNat % 64 = 12 := rfl
    rw [UInt64.toNat_shiftLeft, hshift, toNat_and_maxNode, Nat.mod_eq_of_lt]
    rw [Nat.shiftLeft_eq]
    omega
  have hsequence : sequence.toNat % 4096 < 2 ^ 12 := Nat.mod_lt _ (by decide)
  have hlow : (node.toNat % 1024) <<< 12 + sequence.toNat % 4096 < 2 ^ 22 := by
    rw [Nat.shiftLeft_eq]
    omega
  rw [compose, UInt64.toNat_or, UInt64.toNat_or, htimeField, hnodeField, toNat_and_maxSequence,
    Nat.or_assoc, ← Nat.shiftLeft_add_eq_or_of_lt hsequence, ← Nat.shiftLeft_add_eq_or_of_lt hlow,
    Nat.shiftLeft_eq, Nat.shiftLeft_eq]
  omega

/-- The time comes back out of an id that it was put into. -/
theorem time_compose (node sequence : UInt64) (htime : time.toNat < 2 ^ 42) :
    (compose time node sequence).time = time := by
  rw [← UInt64.toNat_inj, toNat_time, toNat_compose node sequence htime]
  omega

/-- So does the node, cut to its ten bits. -/
theorem node_compose (node sequence : UInt64) (htime : time.toNat < 2 ^ 42) :
    (compose time node sequence).node = node % 1024 := by
  have hmod : (node % 1024).toNat = node.toNat % 1024 := UInt64.toNat_mod node 1024
  rw [← UInt64.toNat_inj, toNat_node, toNat_compose node sequence htime, hmod]
  omega

/-- So does the sequence number, cut to its twelve bits. -/
theorem sequence_compose (node sequence : UInt64) (htime : time.toNat < 2 ^ 42) :
    (compose time node sequence).sequence = sequence % 4096 := by
  have hmod : (sequence % 4096).toNat = sequence.toNat % 4096 := UInt64.toNat_mod sequence 4096
  rw [← UInt64.toNat_inj, toNat_sequence, toNat_compose node sequence htime, hmod]
  omega

/-- Ids are equal if their numbers are. -/
theorem toNat_inj {a b : RecordId} : a.toUInt64.toNat = b.toUInt64.toNat ↔ a = b := by
  rw [UInt64.toNat_inj]
  exact ⟨fun h => congrArg mk h, fun h => h ▸ rfl⟩

/-- An id is composed of its parts. -/
theorem compose_parts (id : RecordId) : compose id.time id.node id.sequence = id := by
  have hbound : id.toUInt64.toNat < 2 ^ 64 := id.toUInt64.toNat_lt
  have htime : id.time.toNat < 2 ^ 42 := by
    rw [toNat_time]
    omega
  rw [← toNat_inj, toNat_compose _ _ htime, toNat_time, toNat_node, toNat_sequence]
  omega

/-- The order of ids is that of their numbers. -/
theorem compare_eq_lt {a b : RecordId} :
    compare a b = .lt ↔ a.toUInt64.toNat < b.toUInt64.toNat := by
  show compareOfLessAndEq a.toUInt64 b.toUInt64 = .lt ↔ _
  rw [compareOfLessAndEq_eq_lt, UInt64.lt_iff_toNat_lt]

end RecordId

namespace IdGenerator

open RecordId (compose maxSequence)

variable {g g' g'' : IdGenerator} {clock clock' clock'' : Stream' UInt64} {now target : UInt64}
  {readings rest : List UInt64} {id : RecordId} {ids : List RecordId} {n k : ℕ}

/-! ### Waiting -/

/-- The first reading of a clock that is not below a time. -/
def FirstAt (clock : Stream' UInt64) (target : UInt64) (k : ℕ) : Prop :=
  target ≤ clock.get k ∧ ∀ j < k, clock.get j < target

/-- There is one first reading at most that reaches a target. -/
theorem FirstAt.unique {k' : ℕ} (h : FirstAt clock target k) (h' : FirstAt clock target k') :
    k = k' := by
  rcases lt_trichotomy k k' with hlt | heq | hgt
  · exact absurd (h'.2 k hlt) (UInt64.not_lt.mpr h.1)
  · exact heq
  · exact absurd (h.2 k' hgt) (UInt64.not_lt.mpr h'.1)

/-- A clock that reaches a time reaches it for the first time somewhere. -/
theorem exists_firstAt (h : ∃ k, target ≤ clock.get k) : ∃ k, FirstAt clock target k := by
  classical
  exact ⟨Nat.find h, Nat.find_spec h, fun j hj => UInt64.not_le.mp (Nat.find_min h hj)⟩

/-- Waiting takes the readings up to the first one that is late enough. -/
theorem waitUntil_eq_some (h : waitUntil target readings = some (now, rest)) :
    ∃ before, readings = before ++ now :: rest ∧ (∀ r ∈ before, r < target) ∧ target ≤ now := by
  rw [waitUntil] at h
  split at h
  · cases h
  · rename_i hdrop
    cases h
    refine ⟨readings.takeWhile (· < target), ?_, ?_, ?_⟩
    · rw [← hdrop, List.takeWhile_append_dropWhile]
    · exact fun r hr => of_decide_eq_true
        (List.mem_takeWhile_imp (p := fun r => decide (r < target)) hr)
    · have hhead := List.head_dropWhile_not (fun r => decide (r < target)) (l := readings)
        (by simp [hdrop])
      simpa [hdrop] using hhead

/-- The readings of a clock up to one of them, that one, and those after it. -/
theorem take_split (clock : Stream' UInt64) (k n : ℕ) :
    clock.take (k + 1 + n) = clock.take k ++ clock.get k :: (clock.drop (k + 1)).take n := by
  rw [Stream'.take_add, ← Stream'.concat_take_get, List.append_assoc]
  rfl

/-- All readings before the first one that reaches the target are below the target. -/
theorem FirstAt.early (h : FirstAt clock target k) : ∀ r ∈ clock.take k, r < target := by
  intro r hr
  obtain ⟨j, hj, rfl⟩ := List.mem_iff_getElem.mp hr
  rw [Stream'.take_get]
  exact h.2 j (by rwa [Stream'.length_take] at hj)

/-- A wait on a clock ends at the first reading that is late enough. -/
theorem waitUntil_take (h : FirstAt clock target k) (n : ℕ) :
    waitUntil target (clock.take (k + 1 + n))
      = some (clock.get k, (clock.drop (k + 1)).take n) := by
  have hlate : ¬ clock.get k < target := UInt64.not_lt.mpr h.1
  rw [waitUntil, take_split, List.dropWhile_append_of_pos fun r hr => decide_eq_true (h.early r hr),
    List.dropWhile_cons_of_neg (by simpa using hlate)]

/-- A wait that comes back has come to the first reading that is late enough. -/
theorem firstAt_of_waitUntil (h : waitUntil target (clock.take n) = some (now, rest)) :
    ∃ k m, n = k + 1 + m ∧ FirstAt clock target k ∧ now = clock.get k ∧
      rest = (clock.drop (k + 1)).take m := by
  obtain ⟨before, hreadings, hbefore, hnow⟩ := waitUntil_eq_some h
  have hlength : n = before.length + 1 + rest.length := by
    have htaken := congrArg List.length hreadings
    rw [Stream'.length_take, List.length_append, List.length_cons] at htaken
    omega
  have hget : ∀ j < before.length + 1, (before ++ now :: rest)[j]? = some (clock.get j) := by
    intro j hj
    rw [← hreadings, Stream'.getElem?_take (by omega)]
  have hat : now = clock.get before.length := by
    have hnth := hget before.length (by omega)
    rwa [List.getElem?_append_right (Nat.le_refl _), Nat.sub_self, List.getElem?_cons_zero,
      Option.some.injEq] at hnth
  have hfirst : FirstAt clock target before.length := by
    refine ⟨hat ▸ hnow, fun j hj => hbefore _ (List.mem_of_getElem? (i := j) ?_)⟩
    rw [← hget j (by omega), List.getElem?_append_left hj]
  refine ⟨before.length, rest.length, hlength, hfirst, hat, ?_⟩
  rw [hlength, waitUntil_take hfirst] at h
  exact (Prod.ext_iff.mp (Option.some.inj h)).2.symm

/-! ### Calls -/

/-- Whether the next call at the time of the last id has to wait for the next millisecond. -/
def UsedUp (g : IdGenerator) : Prop := (g.sequence + 1) &&& maxSequence = 0

/-- The waits of one call on a clock, each with the readings that are left then: for the time of the
last id, and when the clock stands at it and its sequence numbers are used up, for the time
after. -/
inductive Waits (g : IdGenerator) (clock : Stream' UInt64) : Stream' UInt64 → UInt64 → Prop
  | last : Waits g clock clock g.lastTime
  | next {k : ℕ} (hfirst : FirstAt clock g.lastTime k) (hstands : clock.get k = g.lastTime)
      (hused : g.UsedUp) : Waits g clock (clock.drop (k + 1)) (g.lastTime + 1)

/-- The calls of a generator in turn: the ids that they issue, the generator after them, and what is
left of the clock. -/
inductive Issues : IdGenerator → Stream' UInt64 → List RecordId → IdGenerator → Stream' UInt64 →
    Prop
  | nothing {g : IdGenerator} {clock : Stream' UInt64} : Issues g clock [] g clock
  | call {g g' g'' : IdGenerator} {clock clock' : Stream' UInt64} {id : RecordId}
      {ids : List RecordId} {n : ℕ} {rest : List UInt64}
      (hnext : g.next? (clock.take n) = some (id, g', rest))
      (hids : Issues g' (clock.drop (n - rest.length)) ids g'' clock') :
      Issues g clock (id :: ids) g'' clock'

/-- The id that a generator has issued last. Before the first one it is the id that the first one
has to be greater than. -/
def lastId (g : IdGenerator) : RecordId := compose g.lastTime g.node g.sequence

/-- What one call comes to: it issues the last id of the generator after it. The clock stands at a
later time, or still at that of the last id; then the sequence number grows, and when it is used up,
a second wait takes the generator to a later time. -/
theorem next?_eq_some_iff : g.next? readings = some (id, g', rest) ↔
    id = g'.lastId ∧ ∃ now ahead, waitUntil g.lastTime readings = some (now, ahead) ∧
      (now ≠ g.lastTime ∧ g' = ⟨g.node, now, 0⟩ ∧ rest = ahead ∨
        now = g.lastTime ∧ ¬ g.UsedUp ∧ g' = ⟨g.node, now, (g.sequence + 1) &&& maxSequence⟩ ∧
          rest = ahead ∨
        now = g.lastTime ∧ g.UsedUp ∧
          ∃ later, waitUntil (g.lastTime + 1) ahead = some (later, rest) ∧
          g' = ⟨g.node, later, 0⟩) := by
  -- in every branch the id is composed of what the generator then remembers
  have hissued : ∀ (now' sequence : UInt64) (left : List UInt64),
      some (compose now' g.node sequence, (⟨g.node, now', sequence⟩ : IdGenerator), left)
          = some (id, g', rest)
        ↔ id = g'.lastId ∧ g' = ⟨g.node, now', sequence⟩ ∧ rest = left := by
    intro now' sequence left
    constructor
    · rintro h
      cases h
      exact ⟨rfl, rfl, rfl⟩
    · rintro ⟨rfl, rfl, rfl⟩
      rfl
  rw [next?, UsedUp]
  cases hwait : waitUntil g.lastTime readings with
  | none => simp
  | some p =>
    obtain ⟨now, ahead⟩ := p
    by_cases hstands : now = g.lastTime
    · by_cases hused : (g.sequence + 1) &&& maxSequence = 0
      · cases hwait' : waitUntil (g.lastTime + 1) ahead with
        | none => simp [hstands, hused, hwait']
        | some p' =>
          obtain ⟨later, left⟩ := p'
          have hleft : rest = left ∧ g' = ⟨g.node, later, 0⟩
              ↔ ∃ later', (later, left) = (later', rest) ∧ g' = ⟨g.node, later', 0⟩ := by
            constructor
            · rintro ⟨rfl, rfl⟩
              exact ⟨later, rfl, rfl⟩
            · rintro ⟨later', hpair, rfl⟩
              cases hpair
              exact ⟨rfl, rfl⟩
          simp [hstands, hused, hwait', hissued, and_comm, hleft]
      · simp [hstands, hused, hissued]
    · simp [hstands, hissued]

/-- A generator as it is at any time: its sequence number and its time fit their fields. -/
structure Valid (g : IdGenerator) : Prop where
  sequence : g.sequence.toNat < 4096
  lastTime : g.lastTime.toNat < 2 ^ 42

/-- A generator that has issued nothing yet is valid. -/
theorem Valid.first {node : UInt64} (hnow : now.toNat < 2 ^ 42) : Valid ⟨node, now, 0⟩ where
  sequence := (by decide : 0 < 4096)
  lastTime := hnow

/-- Ids of one node are in the order of their times, and within a time of their sequence numbers. -/
theorem lastId_lt (hg : g.Valid) (hg' : g'.Valid) (hnode : g'.node = g.node)
    (hlater : g.lastTime < g'.lastTime ∨
      g'.lastTime = g.lastTime ∧ g.sequence.toNat < g'.sequence.toNat) :
    compare g.lastId g'.lastId = .lt := by
  have hsequence := hg.sequence
  have hsequence' := hg'.sequence
  rw [RecordId.compare_eq_lt, lastId, lastId, RecordId.toNat_compose _ _ hg.lastTime,
    RecordId.toNat_compose _ _ hg'.lastTime, hnode]
  rcases hlater with htime | ⟨htime, hnext⟩
  · rw [UInt64.lt_iff_toNat_lt] at htime
    omega
  · rw [htime]
    omega

/-- What a call does: it issues an id greater than the last one, for the same node. -/
theorem next?_spec (h : g.next? readings = some (id, g', rest)) (hg : g.Valid)
    (hreadings : ∀ r ∈ readings, r.toNat < 2 ^ 42) :
    g'.Valid ∧ g'.node = g.node ∧ id = g'.lastId ∧ compare g.lastId g'.lastId = .lt := by
  obtain ⟨rfl, now, ahead, hwait, hcall⟩ := next?_eq_some_iff.mp h
  obtain ⟨before, rfl, -, hnow⟩ := waitUntil_eq_some hwait
  have hbound : now.toNat < 2 ^ 42 := hreadings now (by simp)
  have hsequence := hg.sequence
  have hnext : ((g.sequence + 1) &&& maxSequence).toNat = (g.sequence.toNat + 1) % 4096 := by
    have hone : (1 : UInt64).toNat = 1 := rfl
    rw [RecordId.toNat_and_maxSequence, UInt64.toNat_add, hone]
    omega
  obtain ⟨hmoved, rfl, -⟩ | ⟨rfl, hleft, rfl, -⟩ | ⟨rfl, -, later, hwait', rfl⟩ := hcall
  · -- the wait ended at another time than that of the last id, so at a later one
    have hg' : Valid ⟨g.node, now, 0⟩ := .first hbound
    have hlater : g.lastTime < now := UInt64.lt_of_le_of_ne hnow (Ne.symm hmoved)
    exact ⟨hg', rfl, rfl, lastId_lt hg hg' rfl (Or.inl hlater)⟩
  · -- the time is that of the last id, and the next number is not 0, so it has not wrapped around
    have hg' : Valid ⟨g.node, g.lastTime, (g.sequence + 1) &&& maxSequence⟩ :=
      ⟨by rw [hnext]; omega, hbound⟩
    have hgrown : g.sequence.toNat < ((g.sequence + 1) &&& maxSequence).toNat := by
      have hzero : (0 : UInt64).toNat = 0 := rfl
      rw [UsedUp, ← UInt64.toNat_inj, hnext] at hleft
      rw [hnext]
      omega
    exact ⟨hg', rfl, rfl, lastId_lt hg hg' rfl (Or.inr ⟨rfl, hgrown⟩)⟩
  · -- the second wait is for a time above that of the last id, which does not overflow
    obtain ⟨before', rfl, -, hlater⟩ := waitUntil_eq_some hwait'
    have hg' : Valid ⟨g.node, later, 0⟩ := .first (hreadings later (by simp))
    have hafter : g.lastTime < later := by
      have hone : (1 : UInt64).toNat = 1 := rfl
      rw [UInt64.le_iff_toNat_le, UInt64.toNat_add, hone] at hlater
      rw [UInt64.lt_iff_toNat_lt]
      omega
    exact ⟨hg', rfl, rfl, lastId_lt hg hg' rfl (Or.inl hafter)⟩

/-- A call that comes back has gone through all its waits. -/
theorem ends_of_next? (h : g.next? (clock.take n) = some (id, g', rest))
    (hwaits : g.Waits clock clock' target) : ∃ k, target ≤ clock'.get k := by
  obtain ⟨-, now, ahead, hwait, hcall⟩ := next?_eq_some_iff.mp h
  obtain ⟨k, m, rfl, hfirst, rfl, rfl⟩ := firstAt_of_waitUntil hwait
  cases hwaits with
  | last => exact ⟨k, hfirst.1⟩
  | next hfirst' hstands hused =>
    obtain rfl := hfirst.unique hfirst'
    obtain ⟨hmoved, -, -⟩ | ⟨-, hleft, -, -⟩ | ⟨-, -, later, hwait', -⟩ := hcall
    · exact absurd hstands hmoved
    · exact absurd hused hleft
    · obtain ⟨k', m', -, hfirst'', -⟩ := firstAt_of_waitUntil hwait'
      exact ⟨k', hfirst''.1⟩

/-- A call all of whose waits end comes back. -/
theorem exists_next?
    (h : ∀ clock' target, g.Waits clock clock' target → ∃ k, target ≤ clock'.get k) :
    ∃ n id g', g.next? (clock.take n) = some (id, g', []) := by
  obtain ⟨k, hfirst⟩ := exists_firstAt (h clock g.lastTime .last)
  by_cases hstands : clock.get k = g.lastTime
  · by_cases hused : g.UsedUp
    · obtain ⟨k', hfirst'⟩ := exists_firstAt (h _ _ (.next hfirst hstands hused))
      exact ⟨k + 1 + (k' + 1 + 0), _, _, next?_eq_some_iff.mpr ⟨rfl, _, _, waitUntil_take hfirst _,
        Or.inr (Or.inr ⟨hstands, hused, _, waitUntil_take hfirst' 0, rfl⟩)⟩⟩
    · exact ⟨k + 1 + 0, _, _, next?_eq_some_iff.mpr ⟨rfl, _, _, waitUntil_take hfirst 0,
        Or.inr (Or.inl ⟨hstands, hused, rfl, rfl⟩)⟩⟩
  · exact ⟨k + 1 + 0, _, _, next?_eq_some_iff.mpr ⟨rfl, _, _, waitUntil_take hfirst 0,
      Or.inl ⟨hstands, rfl, rfl⟩⟩⟩

/-! ### Runs -/

/-- All ids of a run ascend, above the id before them, and are of the node of the generator. -/
theorem Issues.ascend (h : g.Issues clock ids g' clock') (hg : g.Valid)
    (hclock : ∀ i, (clock.get i).toNat < 2 ^ 42) :
    ids.Pairwise (fun a b => compare a b = .lt) ∧
      ∀ id ∈ ids, compare g.lastId id = .lt ∧ id.node = g.node % 1024 := by
  induction h with
  | nothing => exact ⟨List.Pairwise.nil, List.forall_mem_nil _⟩
  | @call g g' g'' clock clock' id ids n rest hnext _ ih =>
    have hreadings : ∀ r ∈ clock.take n, r.toNat < 2 ^ 42 := by
      intro r hr
      obtain ⟨j, hj, rfl⟩ := List.mem_iff_getElem.mp hr
      rw [Stream'.take_get]
      exact hclock j
    obtain ⟨hg', hnode, rfl, hgreater⟩ := next?_spec hnext hg hreadings
    obtain ⟨hpairwise, hids⟩ := ih hg' fun i => by
      rw [Stream'.get_drop]
      exact hclock _
    -- the last id of the generator after the call is the id of the call
    refine ⟨List.pairwise_cons.mpr ⟨fun a ha => (hids a ha).1, hpairwise⟩,
      List.forall_mem_cons.mpr ⟨⟨hgreater, ?_⟩, fun a ha => ⟨?_, ?_⟩⟩⟩
    · rw [lastId, RecordId.node_compose _ _ hg'.lastTime, hnode]
    · exact Std.TransCmp.lt_trans hgreater (hids a ha).1
    · rw [(hids a ha).2, hnode]

/-- A call comes back just if every wait of it ends. -/
theorem exists_issues_iff : (∃ id g' clock', g.Issues clock [id] g' clock') ↔
    ∀ clock' target, g.Waits clock clock' target → ∃ k, target ≤ clock'.get k := by
  constructor
  · rintro ⟨id, g', clock', hissues⟩ clock'' target hwaits
    cases hissues with
    | call hnext _ => exact ends_of_next? hnext hwaits
  · intro h
    obtain ⟨n, id, g', hnext⟩ := exists_next? h
    exact ⟨id, g', _, .call hnext .nothing⟩

/-- **Generated ids.** A generator of a node issues ascending ids of the node, on any clock, and the
call that comes next comes back just if its waits end; the parts of an id can be read back, and any
id is composed of its parts. -/
theorem generated_ids_ascend :
    (∀ node ≤ RecordId.maxNode.toNat, IdGenerator.ofNode node = .ok (.start (UInt64.ofNat node)) ∧
      ∀ clock : Stream' UInt64, (∀ i, (clock.get i).toNat < 2 ^ 42) →
        ∀ ids g clock', (start (UInt64.ofNat node)).Issues clock ids g clock' →
          ids.Pairwise (fun a b => compare a b = .lt) ∧ (∀ id ∈ ids, id.node.toNat = node) ∧
          ((∃ id g' clock'', g.Issues clock' [id] g' clock'') ↔
            ∀ clock'' target, g.Waits clock' clock'' target → ∃ k, target ≤ clock''.get k)) ∧
    (∀ time node sequence : UInt64, time.toNat < 2 ^ 42 →
      (compose time node sequence).time = time ∧
        (compose time node sequence).node = node % 1024 ∧
        (compose time node sequence).sequence = sequence % 4096) ∧
    ∀ id : RecordId, compose id.time id.node id.sequence = id := by
  refine ⟨fun node hnode => ⟨if_neg (Nat.not_lt.mpr hnode), ?_⟩, fun time node sequence htime => ?_,
    RecordId.compose_parts⟩
  · intro clock hclock ids g clock' hissues
    have hstart : (start (UInt64.ofNat node)).Valid := .first (by decide : 0 < 2 ^ 42)
    obtain ⟨hpairwise, hids⟩ := hissues.ascend hstart hclock
    refine ⟨hpairwise, fun id hid => ?_, exists_issues_iff⟩
    have hmod : (UInt64.ofNat node % 1024).toNat = (UInt64.ofNat node).toNat % 1024 :=
      UInt64.toNat_mod _ _
    rw [RecordId.maxNode_toNat] at hnode
    rw [(hids id hid).2, start, hmod, UInt64.toNat_ofNat']
    omega
  · exact ⟨RecordId.time_compose node sequence htime, RecordId.node_compose node sequence htime,
      RecordId.sequence_compose node sequence htime⟩

/-- A clock that is set back between the first two calls, and stands still later on. -/
theorem generated_ids_ascend_clock_set_back :
    let clock : Stream' UInt64 := fun i => [5, 3, 5].getD i 6
    let ids := [compose 5 3 0, compose 5 3 1, compose 6 3 0, compose 6 3 1]
    (∃ g clock', (start 3).Issues clock ids g clock') ∧
      ids.Pairwise (fun a b => compare a b = .lt) ∧ (∀ id ∈ ids, id.node.toNat = 3) ∧
      (compose 5 3 1).time = 5 := by
  intro clock ids
  have hclock : ∀ i, (clock.get i).toNat < 2 ^ 42 := by
    intro i
    match i with
    | 0 | 1 | 2 => decide
    | _ + 3 => exact (by decide : (6 : UInt64).toNat < 2 ^ 42)
  have hfirst : (start 3).next? (clock.take 1) = some (compose 5 3 0, ⟨3, 5, 0⟩, []) := rfl
  have hsetBack : next? ⟨3, 5, 0⟩ ((clock.drop 1).take 2) = some (compose 5 3 1, ⟨3, 5, 1⟩, []) :=
    rfl
  have hlater : next? ⟨3, 5, 1⟩ (((clock.drop 1).drop 2).take 1)
      = some (compose 6 3 0, ⟨3, 6, 0⟩, []) := rfl
  have hstands : next? ⟨3, 6, 0⟩ ((((clock.drop 1).drop 2).drop 1).take 1)
      = some (compose 6 3 1, ⟨3, 6, 1⟩, []) := rfl
  have hissues : (start 3).Issues clock ids ⟨3, 6, 1⟩ ((((clock.drop 1).drop 2).drop 1).drop 1) :=
    .call hfirst (.call hsetBack (.call hlater (.call hstands .nothing)))
  obtain ⟨hpairwise, hnode, -⟩ :=
    (generated_ids_ascend.1 3 (by decide)).2 clock hclock ids _ _ hissues
  exact ⟨⟨_, _, hissues⟩, hpairwise, hnode, (generated_ids_ascend.2.1 5 3 1 (by decide)).1⟩

end IdGenerator

end DocumentDb
