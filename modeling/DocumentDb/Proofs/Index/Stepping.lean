import DocumentDb.Proofs.Query.Selection
import DocumentDb.Proofs.Steps

/-!
# `DocumentDb.Proofs.Index.Stepping`: a level walked step by step

A scan does not see a level as a list. It asks for the key after the one that it has, goes on
as long as the answer suits it, and looks up what it has collected. This module says what comes
of that on a level whose keys ascend.

* `walksEnd`: such a walk ends by itself.
* `allKeys_eq` and `rangeKeys_eq`: the keys of a full walk, and of one that starts at a bound
  and ends with the class of the bound. The keys of a class stand next to each other
  (`Key.keyClass_of_between`), so nothing of the range is left out.
* `select_values`: whatever a condition asks for, what it takes of the level are the children
  under the keys that its selection takes, in the direction of the walk.
-/

set_option autoImplicit false

namespace DocumentDb

open SortedEntries (Sorted walk next? follow direction)
open Std (TransCmp OrientedCmp)

/-- Between two keys of one class there are only keys of that class. -/
theorem Key.keyClass_of_between {a b c : Key} (hab : a.compare b ≠ .gt) (hbc : b.compare c ≠ .gt)
    (h : c.keyClass = a.keyClass) : b.keyClass = a.keyClass := by
  by_contra hne
  obtain ⟨hrank, hdiffer⟩ := Key.compare_of_keyClass_ne (Ne.symm hne)
  obtain ⟨hrank', hdiffer'⟩ := Key.compare_of_keyClass_ne (h ▸ hne : b.keyClass ≠ c.keyClass)
  rw [h] at hrank'
  rw [hrank] at hab hdiffer
  rw [hrank'] at hbc hdiffer'
  have hswap : Ord.compare b.keyClass.rank a.keyClass.rank
      = (Ord.compare a.keyClass.rank b.keyClass.rank).swap := OrientedCmp.eq_swap
  rw [hswap] at hbc hdiffer'
  cases hcompare : Ord.compare a.keyClass.rank b.keyClass.rank <;> simp_all

namespace Scan

variable {V : Type} {level : List (Key × V)} {reverse : Bool}

/-! ### Steps -/

/-- Whether a key comes after another one in a direction. -/
def ahead (reverse : Bool) (k k' : Key) : Bool := directed reverse (k.compare k') == .lt

/-- A key is ahead if it comes later in the direction. -/
theorem ahead_iff {k k' : Key} :
    ahead reverse k k' = true ↔ directed reverse (k.compare k') = .lt :=
  beq_iff_eq

/-- The keys ahead are those in the direction of a walk. -/
theorem ahead_iff_direction {k k' : Key} :
    ahead reverse k k' = true ↔ Ord.compare k k' = direction reverse := by
  rw [ahead_iff]
  show directed reverse (k.compare k') = .lt ↔ k.compare k' = direction reverse
  cases reverse with
  | false => rfl
  | true => cases k.compare k' <;> decide

/-- In a walk of a level, every key is ahead of those before it. -/
theorem walk_ahead (h : Sorted level) :
    (walk reverse level).Pairwise fun a b => ahead reverse a.1 b.1 = true :=
  (h.pairwise_walk reverse).imp ahead_iff_direction.mpr

/-- The key that follows another one in a direction. -/
def nextKey (reverse : Bool) (level : List (Key × V)) (k : Key) : Option Key :=
  (next? reverse (some k) level).map (·.1)

/-- A walk of a level ends by itself: to allow for more steps than the level has keys makes no
difference, wherever the walk starts and however long it may go on. -/
def WalksEnd (level : List (Key × V)) : Prop :=
  ∀ (reverse : Bool) (goesOn : Key → Bool) (start : Option (Key × V)) (limit : Nat),
    (∀ e ∈ start, e ∈ level) → level.length ≤ limit →
      follow goesOn (nextKey reverse level) limit (start.map (·.1))
        = follow goesOn (nextKey reverse level) level.length (start.map (·.1))

/-- A walk of a sorted level ends. -/
theorem walksEnd (h : Sorted level) : WalksEnd level := by
  intro reverse goesOn start limit hstart hlimit
  cases start with
  | none =>
    have hnone : ∀ limit, follow goesOn (nextKey reverse level) limit none = [] := by
      intro limit
      cases limit <;> rfl
    exact (hnone limit).trans (hnone level.length).symm
  | some e =>
    -- both walks come along what stands behind the start
    obtain ⟨before, rest, hwalk⟩ :=
      List.append_of_mem (SortedEntries.mem_walk.mpr (hstart e rfl) : e ∈ walk reverse level)
    have hlength : (e :: rest).length ≤ level.length := by
      have hall := congrArg List.length hwalk
      rw [SortedEntries.length_walk, List.length_append] at hall
      omega
    exact (h.follow_walk goesOn hwalk (hlength.trans hlimit)).trans
      (h.follow_walk goesOn hwalk hlength).symm

/-- A full walk comes to all keys. -/
theorem allKeys_eq (h : Sorted level) : allKeys reverse level = (walk reverse level).map (·.1) := by
  have hwalk : walk reverse level = [] ++ walk reverse level := (List.nil_append _).symm
  have hall := h.follow_walk (fun _ => true) hwalk (Nat.le_of_eq SortedEntries.length_walk)
  rw [← SortedEntries.next?_none] at hall
  rw [allKeys]
  refine hall.trans ?_
  simp

/-! ### Ranges -/

/-- What an operator accepts does not lie on the other side of the bound. -/
theorem accepts_ne {op : RangeOp} {o : Ordering} (h : op.accepts o = true) :
    o ≠ if op.isUpward then .lt else .gt := by
  revert h
  cases op <;> cases o <;> decide

/-- A range reaches on in the direction of its operator. -/
theorem accepts_of_ahead {op : RangeOp} {bound a b : Key}
    (hahead : ahead (!op.isUpward) a b = true) (ha : op.accepts (a.compare bound) = true) :
    op.accepts (b.compare bound) = true := by
  -- a key that is accepted is on the side of the bound to which the steps go, so the next is beyond
  have hbeyond : b.compare bound = if op.isUpward then .gt else .lt := by
    have hside := accepts_ne ha
    rw [ahead_iff] at hahead
    cases hup : op.isUpward with
    | true =>
      rw [hup] at hahead hside
      have hab : Ord.compare a b = .lt := hahead
      have hbound : (Ord.compare bound a).isLE = true := by
        rw [show Ord.compare bound a = (a.compare bound).swap from Key.compare_swap bound a]
        revert hside
        cases a.compare bound <;> decide
      have hlt : Ord.compare bound b = .lt := TransCmp.lt_of_isLE_of_lt hbound hab
      exact (Key.compare_swap b bound).trans (congrArg Ordering.swap hlt)
    | false =>
      rw [hup] at hahead hside
      have hba : Ord.compare b a = .lt := (Key.compare_swap b a).trans hahead
      have hbound : (Ord.compare a bound).isLE = true := by
        revert hside
        show a.compare bound ≠ .gt → (a.compare bound).isLE = true
        cases a.compare bound <;> decide
      have hlt : Ord.compare b bound = .lt := TransCmp.lt_of_lt_of_isLE hba hbound
      exact hlt
  rw [hbeyond]
  cases op <;> rfl

/-- The keys of a range stand between the bound and any later key, so they are of the class of the
bound if that key is. -/
theorem keyClass_of_ahead {op : RangeOp} {bound a b : Key}
    (hahead : ahead (!op.isUpward) a b = true) (ha : op.accepts (a.compare bound) = true)
    (hb : b.keyClass = bound.keyClass) : a.keyClass = bound.keyClass := by
  have hside := accepts_ne ha
  rw [ahead_iff] at hahead
  cases hup : op.isUpward with
  | true =>
    rw [hup] at hahead hside
    have hab : a.compare b = .lt := hahead
    have hbound : bound.compare a ≠ .gt := by
      rw [Key.compare_swap]
      revert hside
      cases a.compare bound <;> decide
    exact Key.keyClass_of_between hbound (by rw [hab]; decide) hb
  | false =>
    rw [hup] at hahead hside
    have hba : b.compare a = .lt := (Key.compare_swap b a).trans hahead
    exact (Key.keyClass_of_between (by rw [hba]; decide) hside hb.symm).trans hb

/-- A walk that starts at a bound and goes on within its class comes along the range. -/
theorem follow_range (h : Sorted level) (op : RangeOp) (bound : Key) :
    follow (fun k => k.keyClass == bound.keyClass) (nextKey (!op.isUpward) level) level.length
        (((walk (!op.isUpward) level).find? fun e => op.accepts (e.1.compare bound)).map (·.1))
      = (walk (!op.isUpward) (level.filter fun e => inRange op bound e.1)).map (·.1) := by
  have haccepted : ∀ a b : Key, compare a b = direction (!op.isUpward) →
      op.accepts (a.compare bound) = true → op.accepts (b.compare bound) = true :=
    fun a b hab => accepts_of_ahead (ahead_iff_direction.mpr hab)
  have hmet := h.follow_from (fun k => k.keyClass == bound.keyClass) haccepted
    (Nat.le_refl level.length)
  refine hmet.trans ?_
  have hends : Runs.Ends (fun a b => ahead (!op.isUpward) a b = true)
      (fun k => k.keyClass == bound.keyClass)
      (((walk (!op.isUpward) level).filter fun e => op.accepts (e.1.compare bound)).map (·.1)) := by
    intro a ha b _ hab hb
    obtain ⟨e, he, rfl⟩ := List.mem_map.mp ha
    rw [beq_iff_eq] at hb ⊢
    exact keyClass_of_ahead hab (List.mem_filter.mp he).2 hb
  rw [hends.takeWhile_eq_filter (List.pairwise_map.mpr ((walk_ahead h).filter _)), List.filter_map,
    List.filter_filter, SortedEntries.walk_filter]
  rfl

/-- The keys of a range are those that it takes, ascending. -/
theorem rangeKeys_eq (h : Sorted level) (op : RangeOp) (bound : Key) :
    rangeKeys op bound level = (level.filter fun e => inRange op bound e.1).map (·.1) := by
  -- the walk starts at the first key that the operator accepts
  have hstart : ∀ p : Ordering → Bool, (∀ o, p o.swap = op.accepts o) →
      (fun e : Key × V => p (bound.compare e.1)) = fun e => op.accepts (e.1.compare bound) := by
    intro p hp
    funext e
    rw [Key.compare_swap, hp]
  have hmet := follow_range h op bound
  cases op with
  | gt =>
    rw [← hstart (· == .lt) (by decide)] at hmet
    exact hmet
  | gte =>
    rw [← hstart (· != .gt) (by decide)] at hmet
    exact hmet
  | lt =>
    rw [← hstart (· == .gt) (by decide)] at hmet
    refine (congrArg List.reverse hmet).trans ?_
    rw [← List.map_reverse]
    exact congrArg _ (List.reverse_reverse _)
  | lte =>
    rw [← hstart (· != .lt) (by decide)] at hmet
    refine (congrArg List.reverse hmet).trans ?_
    rw [← List.map_reverse]
    exact congrArg _ (List.reverse_reverse _)

/-! ### Keys that are named -/

/-- Dropping repetitions leaves keys out. -/
theorem dropRepeats_sublist (ks : List Key) : (dropRepeats ks).Sublist ks := by
  induction ks with
  | nil => exact List.Sublist.refl _
  | cons k rest ih =>
    rw [dropRepeats]
    split
    · exact (List.nil_sublist rest).cons_cons k
    · rename_i k' rest' hrest
      rw [hrest] at ih
      split
      · exact ((List.sublist_cons_self k' rest').trans ih).cons_cons k
      · exact ih.cons_cons k

/-- Keys in order ascend strictly once their repetitions are dropped. -/
theorem dropRepeats_ascending {ks : List Key}
    (h : ks.Pairwise fun a b => (a.compare b).isLE = true) :
    (dropRepeats ks).Pairwise fun a b => a.compare b = .lt := by
  induction ks with
  | nil => exact List.Pairwise.nil
  | cons k rest ih =>
    obtain ⟨hk, hrest⟩ := List.pairwise_cons.mp h
    have hstrict := ih hrest
    have hsublist := dropRepeats_sublist rest
    rw [dropRepeats]
    split
    · exact List.pairwise_singleton _ _
    · rename_i k' rest' hdropped
      rw [hdropped] at hstrict hsublist
      obtain ⟨hk', hrest'⟩ := List.pairwise_cons.mp hstrict
      have hle : (k.compare k').isLE = true := hk k' (hsublist.subset List.mem_cons_self)
      -- `k'` is below all later keys, and `k` is not above `k'`
      have hbelow : ∀ x ∈ rest', Ord.compare k x = .lt := fun x hx =>
        TransCmp.lt_of_isLE_of_lt hle (hk' x hx)
      split
      · exact List.pairwise_cons.mpr ⟨hbelow, hrest'⟩
      · rename_i hdiffer
        have hlt : k.compare k' = .lt := by
          cases hcompare : k.compare k' with
          | lt => rfl
          | eq => exact absurd (Key.same_iff.mpr hcompare) hdiffer
          | gt =>
            rw [hcompare] at hle
            cases hle
        exact List.pairwise_cons.mpr ⟨List.forall_mem_cons.mpr ⟨hlt, hbelow⟩, hstrict⟩

/-- Sorted keys ascend. -/
theorem sortedKeys_ascending (ks : List Key) :
    (sortedKeys ks).Pairwise fun a b => a.compare b = .lt := by
  have hle : ∀ a b : Key, (a.compare b != .gt) = (a.compare b).isLE := by
    intro a b
    cases a.compare b <;> rfl
  apply dropRepeats_ascending
  simp only [hle]
  apply List.pairwise_mergeSort
  · intro a b c hab hbc
    exact Std.TransOrd.isLE_trans (α := Key) hab hbc
  · intro a b
    rw [Key.compare_swap]
    cases b.compare a <;> rfl

/-- The keys that a selection names ascend. -/
def Selection.Ascending : Selection → Prop
  | .these ks => ks.Pairwise fun a b => a.compare b = .lt
  | .range _ _ | .allBut _ => True

/-- Whatever the operands of a condition are, the keys that it selects are named in order. -/
theorem selection_ascending {c : Comparison} {s : Selection} (h : selection c = .ok s) :
    s.Ascending := by
  rw [selection] at h
  split at h
  · obtain ⟨k, -, rfl⟩ := Result.map_eq_ok_iff.mp h
    exact List.pairwise_singleton _ _
  · obtain ⟨ks, -, rfl⟩ := Result.map_eq_ok_iff.mp h
    exact sortedKeys_ascending ks
  · obtain ⟨k, -, rfl⟩ := Result.map_eq_ok_iff.mp h
    trivial
  · obtain ⟨k, -, rfl⟩ := Result.map_eq_ok_iff.mp h
    trivial
  · obtain ⟨ks, -, rfl⟩ := Result.map_eq_ok_iff.mp h
    trivial
  · cases h

/-! ### Lookups -/

/-- The entry of a level under a key. -/
def entryAt? (level : List (Key × V)) (k : Key) : Option (Key × V) :=
  level.find? fun e => k.same e.1

/-- Looking a key up is taking the value of its entry. -/
theorem get?_eq_entryAt? (k : Key) (level : List (Key × V)) :
    SortedEntries.get? k level = (entryAt? level k).map (·.2) := by
  induction level with
  | nil => rfl
  | cons e level ih =>
    rw [SortedEntries.get?_cons, ih, entryAt?, entryAt?, List.find?_cons]
    by_cases hk : Ord.compare k e.1 = .eq
    · simp [hk, Key.same_iff.mpr hk]
    · simp [hk, Bool.eq_false_iff.mpr (mt Key.same_iff.mp hk)]

/-- The entry at a key is the one whose key is the same. -/
theorem entryAt?_eq_some_iff (h : Sorted level) {k : Key} {e : Key × V} :
    entryAt? level k = some e ↔ e ∈ level ∧ k.same e.1 = true := by
  constructor
  · intro he
    rw [entryAt?] at he
    exact ⟨List.mem_of_find?_eq_some he, List.find?_some (p := fun e : Key × V => k.same e.1) he⟩
  · rintro ⟨he, hsame⟩
    induction level with
    | nil => cases he
    | cons a level ih =>
      obtain ⟨hbelow, hlevel⟩ := SortedEntries.sorted_cons.mp h
      rw [entryAt?, List.find?_cons]
      rcases List.mem_cons.mp he with rfl | he
      · rw [hsame]
      · -- the head is below, so it is another key
        have hother : k.same a.1 = false := by
          refine Bool.eq_false_iff.mpr fun ha => ?_
          have heq : Ord.compare a.1 e.1 = .eq :=
            Key.same_iff.mp (Key.same_trans (Key.same_symm ha) hsame)
          rw [hbelow e he] at heq
          cases heq
        rw [hother]
        exact ih hlevel he

/-- Looking up ascending keys comes to what the level has under them, in its own order. -/
theorem lookups_eq (h : Sorted level) {ks : List Key}
    (hks : ks.Pairwise fun a b => a.compare b = .lt) :
    (ks.filterMap fun k => SortedEntries.get? k level)
      = (level.filter fun e => ks.any (·.same e.1)).map (·.2) := by
  -- The entries found and the entries taken are two ascending lists with the same members.
  have hfound : ks.filterMap (entryAt? level) = level.filter fun e => ks.any (·.same e.1) := by
    refine Sorted.eq_of_mem_iff ?_ (h.filter _) fun e => ?_
    · refine List.Pairwise.filterMap _ (fun k k' hlt e he e' he' => ?_) hks
      have hk : Ord.compare k e.1 = .eq := Key.same_iff.mp ((entryAt?_eq_some_iff h).mp he).2
      have hk' : Ord.compare k' e'.1 = .eq := Key.same_iff.mp ((entryAt?_eq_some_iff h).mp he').2
      rw [← TransCmp.congr_left hk, ← TransCmp.congr_right hk']
      exact hlt
    · simp only [List.mem_filterMap, List.mem_filter, List.any_eq_true, entryAt?_eq_some_iff h]
      tauto
  rw [← hfound, List.map_filterMap]
  exact List.filterMap_congr fun k _ => get?_eq_entryAt? k level

/-! ### Selections -/

/-- The entries at the keys of some entries are these entries. -/
theorem entriesAt_keys (h : Sorted level) {es : List (Key × V)} (hes : ∀ e ∈ es, e ∈ level) :
    entriesAt level (es.map (·.1)) = es := by
  have hone : ∀ e ∈ es,
      (SortedEntries.get? e.1 level).map (e.1, ·) = some e := fun e he => by
    rw [h.get?_of_mem (hes e he) Std.ReflOrd.compare_self, Option.map_some]
  rw [entriesAt, List.filterMap_map]
  exact (List.filterMap_congr hone).trans List.filterMap_some

/-- What a level gives for keys are the children that lookups find. -/
theorem values_entriesAt (ks : List Key) :
    (entriesAt level ks).map (·.2) = ks.filterMap fun k => SortedEntries.get? k level := by
  rw [entriesAt, List.map_filterMap]
  refine List.filterMap_congr fun k _ => ?_
  cases SortedEntries.get? k level <;> rfl

/-- What a selection takes of a level, in the direction of the walk. -/
theorem select_values (h : Sorted level) (reverse : Bool) {s : Selection} (hs : s.Ascending) :
    (select reverse level s).map (·.2)
      = (walk reverse (level.filter fun e => s.takes e.1)).map (·.2) := by
  have hwalk : ∀ p : Key × V → Bool, ∀ e ∈ walk reverse (level.filter p), e ∈ level :=
    fun p e he => (List.mem_filter.mp (SortedEntries.mem_walk.mp he)).1
  rw [select]
  cases s with
  | these ks =>
    -- keys that the level does not have make no difference to the lookups
    have hthere : ∀ ks : List Key, (entriesAt level (ks.filter fun k =>
        SortedEntries.contains k level)).map (·.2) = ks.filterMap fun k =>
          SortedEntries.get? k level := by
      intro ks
      rw [values_entriesAt, List.filterMap_filter]
      refine List.filterMap_congr fun k _ => ?_
      rw [SortedEntries.contains]
      cases SortedEntries.get? k level <;> rfl
    rw [matchingKeys, hthere, walk]
    split
    · rw [List.filterMap_reverse, lookups_eq h hs, List.map_reverse]
      rfl
    · exact lookups_eq h hs
  | range op bound =>
    have hkeys : matchingKeys reverse level (.range op bound)
        = (walk reverse (level.filter fun e => inRange op bound e.1)).map (·.1) := by
      rw [matchingKeys, rangeKeys_eq h, walk]
      split
      · rw [List.map_reverse]
      · rfl
    rw [hkeys, entriesAt_keys h (hwalk _)]
    rfl
  | allBut ks =>
    have hkeys : matchingKeys reverse level (.allBut ks)
        = (walk reverse (level.filter fun e => !ks.any (·.same e.1))).map (·.1) := by
      rw [matchingKeys, allKeys_eq h, List.filter_map, SortedEntries.walk_filter]
      rfl
    rw [hkeys, entriesAt_keys h (hwalk _)]
    rfl

end Scan

end DocumentDb
