import DocumentDb.Proofs.Index.Tree
import Mathlib.Data.List.Induction
import Mathlib.Data.List.Perm.Subperm

/-!
# `DocumentDb.Proofs.Index.RecordIdSet`: sets of record ids

A set of record ids is built by adding ids in turn, and one that is there already stays where it is.
So the set has each id once, in the order of first occurrences: `addAll_nil` says this by the list
without repetitions, `pairwise_idxOf` by the places of the occurrences. The inductions are on what
was added last, since that is where the set changes.
-/

set_option autoImplicit false

namespace DocumentDb.RecordIdSet

variable {set ids : List RecordId} {id : RecordId}

/-! ### Elements -/

/-- The ids of the set and of the list are there after adding. -/
theorem mem_addAll : id ∈ addAll set ids ↔ id ∈ set ∨ id ∈ ids := by
  induction ids generalizing set with
  | nil => simp [addAll]
  | cons id' ids ih =>
    show id ∈ addAll (addId id' set) ids ↔ _
    rw [ih, mem_addId, List.mem_cons]
    grind

/-- The set of a list has its ids. -/
theorem mem_addAll_nil : id ∈ addAll [] ids ↔ id ∈ ids := by
  rw [mem_addAll, or_iff_right List.not_mem_nil]

/-- No id is added twice. -/
theorem nodup_addAll (h : set.Nodup) : (addAll set ids).Nodup := by
  induction ids generalizing set with
  | nil => exact h
  | cons id ids ih => exact ih (nodup_addId h)

/-- The set of a list does not repeat ids. -/
theorem nodup_addAll_nil (ids : List RecordId) : (addAll [] ids).Nodup :=
  nodup_addAll List.nodup_nil

/-- The last id of a list is added last. -/
theorem addAll_concat (set ids : List RecordId) (id : RecordId) :
    addAll set (ids ++ [id]) = addId id (addAll set ids) :=
  List.foldl_concat _ set id ids

/-- Adding several lists one after the other is adding them as one. -/
theorem addAll_flatMap {α : Type} (f : α → List RecordId) (xs : List α) (set : List RecordId) :
    addAll set (xs.flatMap f) = xs.foldl (fun set a => addAll set (f a)) set :=
  List.foldl_flatMap

/-! ### First occurrences -/

/-- The set of some ids is the list of them without repetitions. -/
theorem addAll_nil (ids : List RecordId) : addAll [] ids = ids.eraseDups := by
  induction ids using List.reverseRecOn with
  | nil => rfl
  | append_singleton ids id ih =>
    rw [addAll_concat, ih, addId, List.eraseDups_append]
    by_cases hid : id ∈ ids <;> simp [List.removeAll, hid, List.eraseDups_cons]

/-- What is left without repetitions has none. -/
theorem nodup_eraseDups (ids : List RecordId) : ids.eraseDups.Nodup := by
  rw [← addAll_nil]
  exact nodup_addAll_nil ids

/-- Ids added in order stay in order. -/
theorem addAll_sublist (ids : List RecordId) : (addAll [] ids).Sublist ids := by
  induction ids using List.reverseRecOn with
  | nil => exact List.Sublist.refl _
  | append_singleton ids id ih =>
    rw [addAll_concat, addId]
    split
    · exact ih.trans (List.sublist_append_left ids [id])
    · exact ih.append (List.Sublist.refl [id])

/-- A list without repetitions is its own set. -/
theorem addAll_of_nodup (h : ids.Nodup) : addAll [] ids = ids :=
  (addAll_sublist ids).eq_of_length_le
    (List.subperm_of_subset h fun _ hid => mem_addAll_nil.mpr hid).length_le

/-- The ids of a set stand in the order of their first occurrences. -/
theorem pairwise_idxOf (ids : List RecordId) :
    (addAll [] ids).Pairwise fun a b => ids.idxOf a < ids.idxOf b := by
  induction ids using List.reverseRecOn with
  | nil => exact List.Pairwise.nil
  | append_singleton ids id ih =>
    have hstays : ∀ a ∈ addAll [] ids, (ids ++ [id]).idxOf a = ids.idxOf a := fun a ha =>
      List.idxOf_append_of_mem (mem_addAll_nil.mp ha)
    have hbefore : (addAll [] ids).Pairwise fun a b =>
        (ids ++ [id]).idxOf a < (ids ++ [id]).idxOf b := by
      refine ih.imp_of_mem fun ha hb hab => ?_
      rwa [hstays _ ha, hstays _ hb]
    rw [addAll_concat]
    by_cases hid : id ∈ addAll [] ids
    · rwa [addId_of_mem hid]
    · rw [addId_of_not_mem hid, List.pairwise_append]
      refine ⟨hbefore, List.pairwise_singleton _ _, fun a ha b hb => ?_⟩
      rw [List.mem_singleton.mp hb, hstays a ha,
        List.idxOf_append_of_notMem (mt mem_addAll_nil.mpr hid)]
      exact Nat.lt_add_right _ (List.idxOf_lt_length_of_mem (mem_addAll_nil.mp ha))

end DocumentDb.RecordIdSet
