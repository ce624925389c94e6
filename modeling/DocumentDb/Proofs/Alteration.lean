import DocumentDb.Proofs.SortedEntries

/-!
# `DocumentDb.Proofs.Alteration`: changing what stands under keys

The changes of an index look up a key, compute a new value from the old one and store it, or take
the key out when nothing is left. `SortedEntries.alter` is that change, and `alterAll` makes it
under several keys in turn.

* `Sorted.mem_alter` says which entries there are afterwards. A key that is there already keeps the
  form in which it is stored (`formOf`).
* `Sorted.alter_comm`: changes under different keys can be made in any order.
* `Sorted.alterAll_cancel`: if one change undoes another under each of several different keys, it
  undoes it under all of them together, and the list is as it was, entry by entry.

Nothing here needs keys that are equal only to themselves.
-/

set_option autoImplicit false

namespace DocumentDb.SortedEntries

open Std (TransOrd TransCmp OrientedCmp)

variable {K V : Type} [Ord K]

/-- The form in which a key is stored. A key that is not there would be stored as it is. -/
def formOf (k : K) : List (K × V) → K
  | [] => k
  | (k', _) :: rest => if compare k k' = .eq then k' else formOf k rest

/-- Changes what stands under a key. The old value decides on the new one, and no new value means
that the key is taken out. -/
def alter (f : Option V → Option V) (k : K) (es : List (K × V)) : List (K × V) :=
  match f (get? k es) with
  | some v => insert k v es
  | none => erase k es

/-- Changes what stands under several keys, one after the other. -/
def alterAll (f : Option V → Option V) (ks : List K) (es : List (K × V)) : List (K × V) :=
  ks.foldl (fun es k => alter f k es) es

variable {f g : Option V → Option V} {k k' : K} {es : List (K × V)}

/-- No key, no change. -/
@[simp] theorem alterAll_nil (f : Option V → Option V) (es : List (K × V)) :
    alterAll f [] es = es := rfl

/-- Keys are changed one after the other. -/
@[simp] theorem alterAll_cons (f : Option V → Option V) (k : K) (ks : List K)
    (es : List (K × V)) : alterAll f (k :: ks) es = alterAll f ks (alter f k es) := rfl

/-- Where there is a new value, the change is an insertion. -/
theorem alter_eq_insert {v : V} (h : f (get? k es) = some v) : alter f k es = insert k v es := by
  rw [alter, h]

/-- Where there is no new value, the change is an erasure. -/
theorem alter_eq_erase (h : f (get? k es) = none) : alter f k es = erase k es := by
  rw [alter, h]

/-! ### Stored forms -/

/-- A key that is not there would be stored as it is. -/
theorem formOf_of_get?_eq_none (h : get? k es = none) : formOf k es = k := by
  induction es with
  | nil => rfl
  | cons e es ih =>
    rw [get?_cons] at h
    rw [formOf]
    split
    · rename_i heq
      simp [heq] at h
    · rename_i hne
      exact ih (by simpa [hne] using h)

variable [TransOrd K]

/-- The form of a key that is stored is read off its entry. -/
theorem Sorted.formOf_of_mem (h : Sorted es) {e : K × V} (he : e ∈ es)
    (hk : compare k e.1 = .eq) : formOf k es = e.1 := by
  induction es with
  | nil => simp at he
  | cons e' es ih =>
    rw [formOf]
    rcases List.mem_cons.mp he with rfl | hmem
    · rw [if_pos hk]
    · split
      · rename_i heq
        -- no second entry has an equal key
        have hnone := get?_eq_none_iff.mp (h.get?_tail_eq_none heq)
        exact absurd hk (hnone e hmem)
      · exact ih (sorted_cons.mp h).2 hmem

/-- The stored form of a key is equal to the key. -/
theorem compare_formOf (k : K) (es : List (K × V)) : compare k (formOf k es) = .eq := by
  induction es with
  | nil => exact Std.ReflOrd.compare_self
  | cons e es ih =>
    rw [formOf]
    split
    · rename_i heq
      exact heq
    · exact ih

/-! ### One change -/

/-- A change leaves the entries sorted. -/
theorem Sorted.alter (h : Sorted es) (f : Option V → Option V) (k : K) :
    Sorted (alter f k es) := by
  rw [SortedEntries.alter]
  split
  · exact h.insert
  · exact h.erase

/-- After a change under a key, lookups of equal keys find the new value and lookups of other keys
what they found before. -/
theorem Sorted.get?_alter (h : Sorted es) (f : Option V → Option V) (k k' : K) :
    get? k' (SortedEntries.alter f k es)
      = if compare k' k = .eq then f (get? k es) else get? k' es := by
  cases hf : f (get? k es) with
  | some v => rw [alter_eq_insert hf, get?_insert]
  | none => rw [alter_eq_erase hf, h.get?_erase]

/-- The entries after an insertion. -/
theorem Sorted.mem_insert_formOf (h : Sorted es) {v : V} {e : K × V} :
    e ∈ SortedEntries.insert k v es ↔
      e = (formOf k es, v) ∨ (e ∈ es ∧ compare k e.1 ≠ .eq) := by
  cases hk : get? k es with
  | none =>
    have hothers := get?_eq_none_iff.mp hk
    rw [formOf_of_get?_eq_none hk]
    -- a new entry comes between the others, none of which has an equal key
    obtain ⟨before, after, rfl, hins⟩ := exists_insert_of_get?_eq_none v hk
    rw [hins]
    constructor
    · intro he
      rcases List.mem_append.mp he with hmem | hmem
      · exact Or.inr ⟨List.mem_append_left _ hmem, hothers e (List.mem_append_left _ hmem)⟩
      · rcases List.mem_cons.mp hmem with rfl | hmem
        · exact Or.inl rfl
        · exact Or.inr ⟨List.mem_append_right _ hmem, hothers e (List.mem_append_right _ hmem)⟩
    · rintro (rfl | ⟨hmem, -⟩)
      · simp
      · rcases List.mem_append.mp hmem with hmem | hmem <;> simp [hmem]
  | some w =>
    -- an entry that is there gets the new value and keeps the form of its key
    rw [h.insert_of_get?_eq_some hk, List.mem_map]
    constructor
    · rintro ⟨e', he', rfl⟩
      by_cases heq : compare k e'.1 = .eq
      · rw [if_pos heq, h.formOf_of_mem he' heq]
        exact Or.inl rfl
      · rw [if_neg heq]
        exact Or.inr ⟨he', heq⟩
    · rintro (rfl | ⟨hmem, hne⟩)
      · obtain ⟨k', hmem, heq⟩ := exists_mem_of_get?_eq_some hk
        refine ⟨_, hmem, ?_⟩
        rw [if_pos heq, h.formOf_of_mem hmem heq]
      · exact ⟨e, hmem, if_neg hne⟩

/-- The entries after a change under a key: the ones under other keys, and the new value under the
key in its stored form. -/
theorem Sorted.mem_alter (h : Sorted es) {e : K × V} :
    e ∈ SortedEntries.alter f k es ↔
      (∃ v, f (get? k es) = some v ∧ e = (formOf k es, v)) ∨
        (e ∈ es ∧ compare k e.1 ≠ .eq) := by
  cases hf : f (get? k es) with
  | some v =>
    rw [alter_eq_insert hf, h.mem_insert_formOf]
    simp
  | none =>
    rw [alter_eq_erase hf, h.mem_erase]
    simp

/-- A change under a key leaves the forms of other keys alone. -/
theorem Sorted.formOf_alter (h : Sorted es) (f : Option V → Option V) (hne : compare k' k ≠ .eq) :
    formOf k' (SortedEntries.alter f k es) = formOf k' es := by
  have hget := h.get?_alter f k k'
  rw [if_neg hne] at hget
  cases hk' : get? k' es with
  | none => rw [formOf_of_get?_eq_none hk', formOf_of_get?_eq_none (hget.trans hk')]
  | some w =>
    obtain ⟨k₁, hmem, heq⟩ := exists_mem_of_get?_eq_some hk'
    have hother : compare k k₁ ≠ .eq := fun hk =>
      hne (TransCmp.eq_trans heq (OrientedCmp.eq_symm hk))
    rw [h.formOf_of_mem hmem heq,
      (h.alter f k).formOf_of_mem (h.mem_alter.mpr (Or.inr ⟨hmem, hother⟩)) heq]

/-- Changes under different keys can be made in any order. -/
theorem Sorted.alter_comm (h : Sorted es) (f g : Option V → Option V)
    (hne : compare k k' ≠ .eq) :
    SortedEntries.alter f k (SortedEntries.alter g k' es)
      = SortedEntries.alter g k' (SortedEntries.alter f k es) := by
  have hne' : compare k' k ≠ .eq := fun heq => hne (OrientedCmp.eq_symm heq)
  -- the entry under one key is not under the other key
  have hform : compare k (formOf k' es) ≠ .eq := fun heq =>
    hne (TransCmp.eq_trans heq (OrientedCmp.eq_symm (compare_formOf k' es)))
  have hform' : compare k' (formOf k es) ≠ .eq := fun heq =>
    hne' (TransCmp.eq_trans heq (OrientedCmp.eq_symm (compare_formOf k es)))
  refine ((h.alter g k').alter f k).eq_of_mem_iff ((h.alter f k).alter g k') fun e => ?_
  rw [(h.alter g k').mem_alter, h.mem_alter, (h.alter f k).mem_alter, h.mem_alter,
    h.get?_alter, h.get?_alter, if_neg hne, if_neg hne', h.formOf_alter g hne,
    h.formOf_alter f hne']
  constructor
  · rintro (⟨v, hv, rfl⟩ | ⟨⟨v, hv, rfl⟩ | ⟨hmem, hk'⟩, hk⟩)
    · exact Or.inr ⟨Or.inl ⟨v, hv, rfl⟩, hform'⟩
    · exact Or.inl ⟨v, hv, rfl⟩
    · exact Or.inr ⟨Or.inr ⟨hmem, hk⟩, hk'⟩
  · rintro (⟨v, hv, rfl⟩ | ⟨⟨v, hv, rfl⟩ | ⟨hmem, hk⟩, hk'⟩)
    · exact Or.inr ⟨Or.inl ⟨v, hv, rfl⟩, hform⟩
    · exact Or.inl ⟨v, hv, rfl⟩
    · exact Or.inr ⟨Or.inr ⟨hmem, hk'⟩, hk⟩

/-- A change that stores a value is undone by one that gives back what was there before. -/
theorem Sorted.alter_alter (h : Sorted es) {w : V} (hg : g (get? k es) = some w)
    (hf : f (some w) = get? k es) :
    SortedEntries.alter f k (SortedEntries.alter g k es) = es := by
  rw [alter_eq_insert hg]
  have hnew : get? k (SortedEntries.insert k w es) = some w := get?_insert_self k w es
  cases hold : get? k es with
  | none => rw [alter_eq_erase (by rw [hnew, hf, hold]), h.erase_insert w hold]
  | some v => rw [alter_eq_insert (by rw [hnew, hf, hold]), h.insert_insert w hold]

/-! ### Several changes -/

/-- Changes leave the entries sorted. -/
theorem Sorted.alterAll (h : Sorted es) (f : Option V → Option V) (ks : List K) :
    Sorted (alterAll f ks es) := by
  induction ks generalizing es with
  | nil => exact h
  | cons k ks ih => exact ih (h.alter f k)

/-- A change under a key that is none of several keys can be made before or after theirs. -/
theorem Sorted.alter_alterAll (h : Sorted es) (f g : Option V → Option V) {ks : List K}
    (hne : ∀ k' ∈ ks, compare k k' ≠ .eq) :
    SortedEntries.alter f k (SortedEntries.alterAll g ks es)
      = SortedEntries.alterAll g ks (SortedEntries.alter f k es) := by
  induction ks generalizing es with
  | nil => rfl
  | cons k' ks ih =>
    rw [List.forall_mem_cons] at hne
    rw [alterAll_cons, alterAll_cons, ih (h.alter g k') hne.2, h.alter_comm f g hne.1]

/-- If one change undoes another under each of several different keys, it undoes it under all of
them. The first key of the list can be given back at once, because its change commutes with those
under the other keys. -/
theorem Sorted.alterAll_cancel (h : Sorted es) {ks : List K}
    (hdistinct : ks.Pairwise fun a b => compare a b ≠ .eq)
    (hundo : ∀ k ∈ ks, ∃ w, g (get? k es) = some w ∧ f (some w) = get? k es) :
    SortedEntries.alterAll f ks (SortedEntries.alterAll g ks es) = es := by
  induction ks generalizing es with
  | nil => rfl
  | cons k ks ih =>
    rw [List.pairwise_cons] at hdistinct
    rw [List.forall_mem_cons] at hundo
    obtain ⟨w, hg, hf⟩ := hundo.1
    rw [alterAll_cons, alterAll_cons, (h.alter g k).alter_alterAll f g hdistinct.1,
      h.alter_alter hg hf]
    exact ih h hdistinct.2 hundo.2

end DocumentDb.SortedEntries
