import DocumentDb.Index.Node
import DocumentDb.Proofs.Alteration
import DocumentDb.Proofs.KeyOrder
import DocumentDb.Proofs.Result
import Mathlib.Data.List.Nodup

/-!
# `DocumentDb.Proofs.Index.Tree`: index trees as relations

An index tree stands for a relation between paths and record ids: `Node.idsAt` reads the
posting list at the end of a path. Two paths are one place when their keys are the same in
turn (`samePath`), and equal places have equal posting lists.

* `Node.Shaped` is what an index tree keeps up: its levels ascend, every path is as long
  as the tree is deep, no level and no posting list below the root is empty, no id stands
  twice in a posting list, and a unique index has one id at most.
* `Node.insert_spec` and `Node.erase_spec` say that the two changes of a tree keep the
  shape and change the posting list of one place.

* `Node.erase_insert` says that removing an id that has just been added gives the tree back as it
  was, with the levels and the forms of keys that it had.

All are inductions on the path. The part that concerns a single level is stated once, for
a child put under a key and for a key taken out, because the indexes on one field change
their level directly and need it too. As changes of a level, adding and removing are `Node.grow`
and `Node.prune` under the first key of the path.
-/

set_option autoImplicit false

namespace DocumentDb

open SortedEntries (Sorted)
open Std (TransCmp OrientedCmp)

/-! ### Paths -/

namespace Key

/-- Keys are the same when the order of keys does not tell them apart. -/
theorem same_iff {a b : Key} : a.same b = true ↔ Ord.compare a b = .eq := by
  change (Ord.compare a b == .eq) = true ↔ _
  exact beq_iff_eq

/-- A key is the same as itself. -/
@[simp] theorem same_refl (a : Key) : a.same a = true := same_iff.mpr Std.ReflOrd.compare_self

/-- Sameness of keys goes both ways. -/
theorem same_symm {a b : Key} (h : a.same b = true) : b.same a = true :=
  same_iff.mpr (OrientedCmp.eq_symm (same_iff.mp h))

/-- Keys that are the same as one key are the same. -/
theorem same_trans {a b c : Key} (hab : a.same b = true) (hbc : b.same c = true) :
    a.same c = true :=
  same_iff.mpr (TransCmp.eq_trans (same_iff.mp hab) (same_iff.mp hbc))

end Key

/-- Whether two paths are as long as each other and have the same keys in turn. -/
def samePath : List Key → List Key → Bool
  | [], [] => true
  | a :: p, b :: q => a.same b && samePath p q
  | _, _ => false

/-- A path is the same as itself. -/
@[simp] theorem samePath_refl (p : List Key) : samePath p p = true := by
  induction p with
  | nil => rfl
  | cons k p ih => simp [samePath, ih]

/-- Sameness of paths goes both ways. -/
theorem samePath_symm {p q : List Key} (h : samePath p q = true) : samePath q p = true := by
  induction p generalizing q with
  | nil =>
    cases q with
    | nil => rfl
    | cons b q => simp [samePath] at h
  | cons a p ih =>
    cases q with
    | nil => simp [samePath] at h
    | cons b q =>
      simp only [samePath, Bool.and_eq_true] at h ⊢
      exact ⟨Key.same_symm h.1, ih h.2⟩

/-- Paths that are the same as one path are the same. -/
theorem samePath_trans {p q r : List Key} (hpq : samePath p q = true)
    (hqr : samePath q r = true) : samePath p r = true := by
  induction p generalizing q r with
  | nil =>
    cases q with
    | nil => exact hqr
    | cons b q => simp [samePath] at hpq
  | cons a p ih =>
    cases q with
    | nil => simp [samePath] at hpq
    | cons b q =>
      cases r with
      | nil => simp [samePath] at hqr
      | cons c r =>
        simp only [samePath, Bool.and_eq_true] at hpq hqr ⊢
        exact ⟨Key.same_trans hpq.1 hqr.1, ih hpq.2 hqr.2⟩

/-! ### Posting lists -/

/-- Adding an id to a posting list adds this id and no other. -/
@[simp] theorem mem_addId {id x : RecordId} {ids : List RecordId} :
    x ∈ addId id ids ↔ x = id ∨ x ∈ ids := by
  unfold addId
  split
  · rename_i hmem
    exact ⟨Or.inr, fun h => h.elim (fun h => h ▸ hmem) fun h => h⟩
  · rw [List.mem_append, List.mem_singleton, or_comm]

/-- Dropping an id takes this id away and no other. -/
@[simp] theorem mem_dropId {id x : RecordId} {ids : List RecordId} :
    x ∈ dropId id ids ↔ x ∈ ids ∧ x ≠ id := by
  simp [dropId]

/-- A posting list to which an id is added is not empty. -/
theorem addId_ne_nil (id : RecordId) (ids : List RecordId) : addId id ids ≠ [] :=
  List.ne_nil_of_mem (mem_addId.mpr (Or.inl rfl))

/-- An id that is there already is not added again. -/
theorem addId_of_mem {id : RecordId} {ids : List RecordId} (h : id ∈ ids) : addId id ids = ids :=
  if_pos h

/-- A new id goes to the end. -/
theorem addId_of_not_mem {id : RecordId} {ids : List RecordId} (h : id ∉ ids) :
    addId id ids = ids ++ [id] := if_neg h

/-- An id that is not there leaves the list as it is when it is dropped. -/
theorem dropId_of_not_mem {id : RecordId} {ids : List RecordId} (h : id ∉ ids) :
    dropId id ids = ids := by
  refine List.filter_eq_self.mpr fun x hx => ?_
  have hne : x ≠ id := fun heq => h (heq ▸ hx)
  simpa using hne

/-- An id that was not there is taken off the end again. -/
theorem dropId_addId {id : RecordId} {ids : List RecordId} (h : id ∉ ids) :
    dropId id (addId id ids) = ids := by
  have hrest : ids.filter (· ≠ id) = ids := dropId_of_not_mem h
  rw [addId_of_not_mem h, dropId, List.filter_append, hrest]
  simp

/-- Adding an id makes no duplicates. -/
theorem nodup_addId {id : RecordId} {ids : List RecordId} (h : ids.Nodup) :
    (addId id ids).Nodup := by
  unfold addId
  split
  · exact h
  · rename_i hmem
    rw [List.nodup_append]
    exact ⟨h, List.nodup_singleton _, fun a ha b hb => by
      rw [List.mem_singleton.mp hb]
      exact fun heq => hmem (heq ▸ ha)⟩

/-- Nor does dropping one. -/
theorem nodup_dropId {id : RecordId} {ids : List RecordId} (h : ids.Nodup) :
    (dropId id ids).Nodup := h.filter _

/-- A posting list that may hold `id` alone holds one id at most after `id` has been added. -/
theorem length_addId_le_one {id : RecordId} {ids : List RecordId} (hn : ids.Nodup)
    (h : ∀ x ∈ ids, x = id) : (addId id ids).length ≤ 1 := by
  have hall : ∀ x ∈ addId id ids, x = id := fun x hx => (mem_addId.mp hx).elim (fun h => h) (h x)
  have hnd : (addId id ids).Nodup := nodup_addId hn
  match hids : addId id ids with
  | [] => simp
  | [_] => simp
  | a :: b :: rest =>
    rw [hids] at hall hnd
    have hab : a = b := by rw [hall a (by simp), hall b (by simp)]
    simp [hab] at hnd

namespace Node

/-- The record ids at the end of a path, none if there is no such path. -/
def idsAt (path : List Key) (node : Node) : List RecordId := (terminalAt? path node).getD []

/-- An empty path ends in the posting list of a terminal node. -/
@[simp] theorem idsAt_nil_terminal (ids : List RecordId) : idsAt [] (.terminal ids) = ids := rfl

/-- An empty path ends in no posting list at an inner node. -/
@[simp] theorem idsAt_nil_inner (level : Level) : idsAt [] (.inner level) = [] := rfl

/-- A path that goes on below a terminal node leads nowhere. -/
@[simp] theorem idsAt_cons_terminal (k : Key) (path : List Key) (ids : List RecordId) :
    idsAt (k :: path) (.terminal ids) = [] := rfl

/-- A path goes on below the key with which it begins, if the level has it. -/
theorem idsAt_cons_inner (k : Key) (path : List Key) (level : Level) :
    idsAt (k :: path) (.inner level)
      = ((SortedEntries.get? k level).map (idsAt path)).getD [] := by
  unfold idsAt
  rw [terminalAt?]
  cases SortedEntries.get? k level <;> rfl

/-- There are no ids in a tree without keys. -/
@[simp] theorem idsAt_empty (path : List Key) : idsAt path (.inner []) = [] := by
  cases path <;> rfl

/-- The posting list is a matter of the place, not of the form of its keys. -/
theorem idsAt_congr {p q : List Key} (h : samePath p q = true) (node : Node) :
    idsAt p node = idsAt q node := by
  induction p generalizing q node with
  | nil =>
    cases q with
    | nil => rfl
    | cons b q => simp [samePath] at h
  | cons a p ih =>
    cases q with
    | nil => simp [samePath] at h
    | cons b q =>
      simp only [samePath, Bool.and_eq_true] at h
      cases node with
      | terminal ids => rfl
      | inner level =>
        rw [idsAt_cons_inner, idsAt_cons_inner, SortedEntries.get?_congr (Key.same_iff.mp h.1)]
        cases SortedEntries.get? b level with
        | none => rfl
        | some child => exact ih h.2 child

/-- An empty node has no ids at any place. -/
theorem idsAt_of_isEmpty {node : Node} (h : node.isEmpty = true) (path : List Key) :
    idsAt path node = [] := by
  cases node with
  | terminal ids =>
    rw [isEmpty, List.isEmpty_iff] at h
    cases path <;> simp [h]
  | inner level =>
    rw [isEmpty, List.isEmpty_iff] at h
    rw [h, idsAt_empty]

/-! ### Shape -/

/-- The shape of an index tree below which paths have `depth` more keys. -/
def Shaped (unique : Bool) : (depth : Nat) → Node → Prop
  | 0, .terminal ids => ids.Nodup ∧ (unique = true → ids.length ≤ 1)
  | depth + 1, .inner level =>
    Sorted level ∧ ∀ e ∈ level, e.2.isEmpty = false ∧ Shaped unique depth e.2
  | _, _ => False

variable {unique : Bool} {depth : Nat}

/-- An inner node without keys has the shape of any tree that is not terminal. -/
theorem shaped_inner_nil : Shaped unique (depth + 1) (.inner []) :=
  ⟨SortedEntries.sorted_nil, by simp⟩

/-- The new node for the rest of a path has the shape that the rest needs. -/
theorem shaped_emptyFor (rest : List Key) : Shaped unique rest.length (emptyFor rest) := by
  cases rest with
  | nil => exact ⟨List.nodup_nil, by simp⟩
  | cons k rest => exact shaped_inner_nil

/-- There are no ids in a new node. -/
@[simp] theorem idsAt_emptyFor (rest path : List Key) : idsAt path (emptyFor rest) = [] := by
  apply idsAt_of_isEmpty
  cases rest <;> rfl

/-- What a key of a shaped level leads to. -/
theorem Shaped.child {level : Level} (h : Shaped unique (depth + 1) (.inner level)) {k : Key}
    {child : Node} (hk : SortedEntries.get? k level = some child) :
    child.isEmpty = false ∧ Shaped unique depth child := by
  obtain ⟨k', hmem, -⟩ := SortedEntries.exists_mem_of_get?_eq_some hk
  exact h.2 _ hmem

/-- What the rest of a path leads into below a key of a shaped level: a new node if the level does
not have the key. -/
theorem Shaped.below {level : Level} {rest : List Key}
    (h : Shaped unique (rest.length + 1) (.inner level)) (k : Key) :
    Shaped unique rest.length ((SortedEntries.get? k level).getD (emptyFor rest)) ∧
      ∀ q, idsAt q ((SortedEntries.get? k level).getD (emptyFor rest))
        = idsAt (k :: q) (.inner level) := by
  cases hk : SortedEntries.get? k level with
  | none => exact ⟨shaped_emptyFor rest, fun q => by simp [idsAt_cons_inner, hk]⟩
  | some child => exact ⟨(h.child hk).2, fun q => by simp [idsAt_cons_inner, hk]⟩

/-- The posting lists of a shaped tree hold no id twice, and one id at most in a unique
index. -/
theorem Shaped.idsAt_nodup {node : Node} (h : Shaped unique depth node) (path : List Key) :
    (idsAt path node).Nodup ∧ (unique = true → (idsAt path node).length ≤ 1) := by
  induction path generalizing depth node with
  | nil =>
    cases node with
    | terminal ids =>
      cases depth with
      | zero => exact h
      | succ depth => exact h.elim
    | inner level => simp
  | cons k path ih =>
    cases node with
    | terminal ids => simp
    | inner level =>
      rw [idsAt_cons_inner]
      cases depth with
      | zero => exact h.elim
      | succ depth =>
        cases hk : SortedEntries.get? k level with
        | none => simp
        | some child => exact ih (h.child hk).2

/-! ### One level -/

/-- Putting a child that is not empty under a key keeps the shape of the level. -/
theorem Shaped.put {level : Level} (h : Shaped unique (depth + 1) (.inner level)) (k : Key)
    {child : Node} (hne : child.isEmpty = false) (hc : Shaped unique depth child) :
    Shaped unique (depth + 1) (.inner (SortedEntries.insert k child level)) := by
  refine ⟨h.1.insert, fun e he => ?_⟩
  rcases SortedEntries.mem_insert he with rfl | ⟨-, hv⟩ | he
  · exact ⟨hne, hc⟩
  · exact hv ▸ ⟨hne, hc⟩
  · exact h.2 e he

/-- Taking a key out keeps the shape of the level. -/
theorem Shaped.takeOut {level : Level} (h : Shaped unique (depth + 1) (.inner level)) (k : Key) :
    Shaped unique (depth + 1) (.inner (SortedEntries.erase k level)) :=
  ⟨h.1.erase, fun e he => h.2 e ((SortedEntries.erase_sublist k level).subset he)⟩

/-- After a child has been put under a key, the paths through that key lead into the child. -/
theorem idsAt_put (k k' : Key) (path : List Key) (child : Node) (level : Level) :
    idsAt (k' :: path) (.inner (SortedEntries.insert k child level))
      = if k'.same k then idsAt path child else idsAt (k' :: path) (.inner level) := by
  rw [idsAt_cons_inner, SortedEntries.get?_insert, idsAt_cons_inner]
  by_cases hk : compare k' k = .eq
  · rw [if_pos hk, if_pos (Key.same_iff.mpr hk)]
    rfl
  · rw [if_neg hk, if_neg (mt Key.same_iff.mp hk)]

/-- After a key has been taken out, no path goes through it. -/
theorem Shaped.idsAt_takeOut {level : Level} (h : Shaped unique (depth + 1) (.inner level))
    (k k' : Key) (path : List Key) :
    idsAt (k' :: path) (.inner (SortedEntries.erase k level))
      = if k'.same k then [] else idsAt (k' :: path) (.inner level) := by
  rw [idsAt_cons_inner, h.1.get?_erase, idsAt_cons_inner]
  by_cases hk : compare k' k = .eq
  · rw [if_pos hk, if_pos (Key.same_iff.mpr hk)]
    rfl
  · rw [if_neg hk, if_neg (mt Key.same_iff.mp hk)]

/-! ### The two changes -/

/-- Adding an id at the end of a path as long as the tree is deep adds it to the posting
list of that place. In a unique index no other id may be there. -/
theorem insert_spec (id : RecordId) (path : List Key) {node : Node}
    (h : Shaped unique path.length node)
    (hfree : unique = true → ∀ x ∈ idsAt path node, x = id) :
    ∃ node', insert id path node = .ok node' ∧ node'.isEmpty = false ∧
      Shaped unique path.length node' ∧
      ∀ q, idsAt q node' = if samePath q path then addId id (idsAt q node) else idsAt q node := by
  induction path generalizing node with
  | nil =>
    cases node with
    | inner level => exact h.elim
    | terminal ids =>
      refine ⟨.terminal (addId id ids), rfl, ?_, ⟨nodup_addId h.1, fun hu => ?_⟩, fun q => ?_⟩
      · simpa [isEmpty] using addId_ne_nil id ids
      · exact length_addId_le_one h.1 (hfree hu)
      · cases q <;> simp [samePath]
  | cons k rest ih =>
    cases node with
    | terminal ids => exact h.elim
    | inner level =>
      obtain ⟨hshaped, hids⟩ := h.below k
      -- below the key there is a node, or an empty one is made
      obtain ⟨child', hins, hne, hshaped', hids'⟩ := ih hshaped (by rw [hids]; exact hfree)
      refine ⟨.inner (SortedEntries.insert k child' level), ?_, ?_, h.put k hne hshaped', ?_⟩
      · rw [insert, hins]
        rfl
      · simpa [isEmpty] using SortedEntries.insert_ne_nil k child' level
      · intro q
        cases q with
        | nil => rfl
        | cons k' q =>
          rw [idsAt_put, samePath]
          by_cases hk : k'.same k = true
          · rw [if_pos hk, hk, Bool.true_and, hids', hids,
              idsAt_congr (p := k' :: q) (q := k :: q) (by simp [samePath, hk])]
          · rw [if_neg hk, Bool.eq_false_iff.mpr hk]
            rfl

/-- Removing an id at the end of a path removes it from the posting list of that place. -/
theorem erase_spec (id : RecordId) (path : List Key) {node : Node}
    (h : Shaped unique path.length node) :
    Shaped unique path.length (erase id path node) ∧
      ∀ q, idsAt q (erase id path node)
        = if samePath q path then dropId id (idsAt q node) else idsAt q node := by
  induction path generalizing node with
  | nil =>
    cases node with
    | inner level => exact h.elim
    | terminal ids =>
      refine ⟨⟨nodup_dropId h.1, fun hu => ?_⟩, fun q => ?_⟩
      · exact Nat.le_trans (List.length_filter_le _ _) (h.2 hu)
      · cases q <;> simp [samePath, erase]
  | cons k rest ih =>
    cases node with
    | terminal ids => exact h.elim
    | inner level =>
      rw [List.length_cons] at h
      cases hk : SortedEntries.get? k level with
      | none =>
        rw [erase, hk]
        refine ⟨h, fun q => ?_⟩
        change idsAt q (.inner level) = _
        split
        · rename_i hq
          -- nothing is found under a key that the level does not have
          rw [idsAt_congr hq, idsAt_cons_inner, hk]
          rfl
        · rfl
      | some child =>
        obtain ⟨hshaped, hids⟩ := ih (h.child hk).2
        have hthrough : ∀ k' q, k'.same k = true →
            idsAt q (erase id rest child)
              = if samePath (k' :: q) (k :: rest) then dropId id (idsAt (k' :: q) (.inner level))
                else idsAt (k' :: q) (.inner level) := by
          intro k' q hsame
          rw [hids, idsAt_congr (p := k' :: q) (q := k :: q) (by simp [samePath, hsame]),
            idsAt_cons_inner, hk]
          simp [samePath, hsame]
        rw [erase, hk]
        dsimp only
        split
        · rename_i hempty
          refine ⟨h.takeOut k, fun q => ?_⟩
          cases q with
          | nil => rfl
          | cons k' q =>
            rw [h.idsAt_takeOut]
            by_cases hsame : k'.same k = true
            · rw [if_pos hsame, ← hthrough k' q hsame, idsAt_of_isEmpty hempty]
            · rw [if_neg hsame, samePath, Bool.eq_false_iff.mpr hsame]
              rfl
        · rename_i hne
          refine ⟨h.put k (Bool.eq_false_iff.mpr hne) hshaped, fun q => ?_⟩
          cases q with
          | nil => rfl
          | cons k' q =>
            rw [idsAt_put]
            by_cases hsame : k'.same k = true
            · rw [if_pos hsame, hthrough k' q hsame]
            · rw [if_neg hsame, samePath, Bool.eq_false_iff.mpr hsame]
              rfl

/-! ### Taking an addition back -/

/-- What adding an id at the end of a path does below the first key, where there may be nothing
yet. -/
def grow (id : RecordId) (path : List Key) (old : Option Node) : Option Node :=
  (insert id path (old.getD (emptyFor path))).toOption

/-- What removing an id at the end of a path does below the first key. Nothing stays of a node that
it leaves empty. -/
def prune (id : RecordId) (path : List Key) (old : Option Node) : Option Node :=
  (old.map (erase id path)).filter (!·.isEmpty)

variable {id : RecordId} {path : List Key} {k : Key} {level : Level} {child : Node}

/-- An insertion that succeeds below the first key is what grows there. -/
theorem grow_eq_some {old : Option Node}
    (h : insert id path (old.getD (emptyFor path)) = .ok child) :
    grow id path old = some child := by
  rw [grow, h]
  rfl

/-- Adding an id changes a level under the first key of the path. -/
theorem insert_cons
    (h : insert id path ((SortedEntries.get? k level).getD (emptyFor path)) = .ok child) :
    insert id (k :: path) (.inner level)
      = .ok (.inner (SortedEntries.alter (grow id path) k level)) := by
  rw [insert, h, SortedEntries.alter_eq_insert (grow_eq_some h)]
  rfl

/-- Removing an id changes a level under the first key of the path. -/
theorem erase_cons (h : Sorted level) :
    erase id (k :: path) (.inner level)
      = .inner (SortedEntries.alter (prune id path) k level) := by
  rw [erase]
  cases hk : SortedEntries.get? k level with
  | none =>
    rw [SortedEntries.alter_eq_erase (by rw [hk]; rfl), h.erase_eq_self hk]
  | some child =>
    dsimp only
    split
    · rename_i hempty
      rw [SortedEntries.alter_eq_erase (by simp [hk, prune, hempty])]
    · rename_i hne
      have hkept : prune id path (SortedEntries.get? k level) = some (erase id path child) := by
        simp [hk, prune, hne]
      rw [SortedEntries.alter_eq_insert hkept]

/-- A key that has nothing below it again is given up, and one that had something before keeps
it. -/
theorem Shaped.prune_eq (h : Shaped unique (depth + 1) (.inner level))
    (hback : erase id path child = (SortedEntries.get? k level).getD (emptyFor path)) :
    prune id path (some child) = SortedEntries.get? k level := by
  rw [prune, Option.map_some, hback]
  cases hk : SortedEntries.get? k level with
  | none =>
    have hempty : (emptyFor path).isEmpty = true := by cases path <;> rfl
    simp [hempty]
  | some old => simp [(h.child hk).1]

/-- Removing an id that has just been added gives the tree back as it was. -/
theorem erase_insert (id : RecordId) (path : List Key) {node node' : Node}
    (h : Shaped unique path.length node) (hnew : id ∉ idsAt path node)
    (hins : insert id path node = .ok node') : erase id path node' = node := by
  induction path generalizing node node' with
  | nil =>
    cases node with
    | inner level => exact h.elim
    | terminal ids =>
      cases hins
      exact congrArg terminal (dropId_addId hnew)
  | cons k rest ih =>
    cases node with
    | terminal ids => exact h.elim
    | inner level =>
      obtain ⟨child, hchild, -⟩ := Result.map_eq_ok_iff.mp hins
      obtain ⟨hshaped, hids⟩ := h.below k
      -- below the first key the tree is given back, so the key has again what it had
      have hback := ih hshaped (by rwa [hids]) hchild
      rw [insert_cons hchild] at hins
      cases hins
      rw [erase_cons (h.1.alter _ k), h.1.alter_alter (grow_eq_some hchild) (h.prune_eq hback)]

/-- Below one key of a level, too, removing an id that has just been added gives back what was
there. -/
theorem Shaped.prune_insert (h : Shaped unique (path.length + 1) (.inner level))
    (hnew : id ∉ idsAt (k :: path) (.inner level))
    (hins : insert id path ((SortedEntries.get? k level).getD (emptyFor path)) = .ok child) :
    prune id path (some child) = SortedEntries.get? k level := by
  obtain ⟨hshaped, hids⟩ := h.below k
  exact h.prune_eq (erase_insert id path hshaped (by rwa [hids]) hins)

end Node

end DocumentDb
