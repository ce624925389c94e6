import DocumentDb.SortedEntries

/-!
# `DocumentDb.Proofs.SortedEntries`: what the lookups of a sorted map say

For an order of keys that is a total preorder, a sorted list of entries is a map from
classes of equal keys to values, and `get?` reads it.

* `get?_insert` and `get?_erase` are the two equations of that map. Inserting needs no
  sortedness; erasing does, because only the first entry of a class is taken out.
* `get?_eq_some_iff` ties lookups to membership.
* `Sorted.insert` and `Sorted.erase` keep the keys ascending.
* `insert_of_get?_eq_some`, `exists_insert_of_get?_eq_none` and `erase_eq_filter` say what
  the list of entries looks like afterwards. They serve where a map is read as a list, and
  `erase_insert` and `insert_insert` follow from them: both give back the list as it was,
  with the keys in the form in which they were stored.
* `Sorted.pairwise_walk` is the order in which a walk comes to the entries.
-/

set_option autoImplicit false

namespace DocumentDb.SortedEntries

open Std (TransOrd LawfulEqOrd TransCmp OrientedCmp)

variable {K V : Type} [Ord K]

/-- Nothing is found in an empty list. -/
@[simp] theorem get?_nil (k : K) : get? k ([] : List (K × V)) = none := rfl

/-- An empty list is sorted. -/
@[simp] theorem sorted_nil : Sorted ([] : List (K × V)) := List.Pairwise.nil

instance (es : List (K × V)) : Decidable (Sorted es) :=
  inferInstanceAs (Decidable (List.Pairwise _ es))

/-- A list is sorted if its first key is below all others and the rest is sorted. -/
theorem sorted_cons {e : K × V} {es : List (K × V)} :
    Sorted (e :: es) ↔ (∀ e' ∈ es, compare e.1 e'.1 = .lt) ∧ Sorted es :=
  List.pairwise_cons

/-- The first entry with the key is the one that is found. -/
theorem get?_cons (k : K) (e : K × V) (es : List (K × V)) :
    get? k (e :: es) = if compare k e.1 = .eq then some e.2 else get? k es := rfl

/-- The value that a lookup finds stands in the list under a key equal to the one asked
for. -/
theorem exists_mem_of_get?_eq_some {k : K} {v : V} {es : List (K × V)}
    (h : get? k es = some v) : ∃ k', (k', v) ∈ es ∧ compare k k' = .eq := by
  induction es with
  | nil => simp at h
  | cons e es ih =>
    rw [get?_cons] at h
    split at h
    · rename_i heq
      cases h
      exact ⟨e.1, List.mem_cons_self, heq⟩
    · obtain ⟨k', hmem, heq⟩ := ih h
      exact ⟨k', List.mem_cons_of_mem _ hmem, heq⟩

/-- A lookup finds nothing exactly when no key of the list equals the one asked for. -/
theorem get?_eq_none_iff {k : K} {es : List (K × V)} :
    get? k es = none ↔ ∀ e ∈ es, compare k e.1 ≠ .eq := by
  induction es with
  | nil => simp
  | cons e es ih =>
    rw [get?_cons, List.forall_mem_cons]
    split
    · rename_i heq
      simp [heq]
    · rename_i hne
      simp [hne, ih]

/-- There is an entry in a list after an insertion. -/
theorem insert_ne_nil (k : K) (v : V) (es : List (K × V)) : insert k v es ≠ [] := by
  cases es with
  | nil => simp [insert]
  | cons e es =>
    rw [insert]
    split <;> simp

/-- An entry of the list after an insertion is the new one, perhaps under the key that was
there, or an old one. -/
theorem mem_insert {k : K} {v : V} {e : K × V} {es : List (K × V)} (h : e ∈ insert k v es) :
    e = (k, v) ∨ (compare k e.1 = .eq ∧ e.2 = v) ∨ e ∈ es := by
  induction es with
  | nil =>
    simp only [insert, List.mem_singleton] at h
    exact Or.inl h
  | cons e' es ih =>
    rw [insert] at h
    split at h
    · rcases List.mem_cons.mp h with h | h
      · exact Or.inl h
      · exact Or.inr (Or.inr h)
    · rename_i heq
      rcases List.mem_cons.mp h with rfl | h
      · exact Or.inr (Or.inl ⟨heq, rfl⟩)
      · exact Or.inr (Or.inr (List.mem_cons_of_mem _ h))
    · rcases List.mem_cons.mp h with rfl | h
      · exact Or.inr (Or.inr List.mem_cons_self)
      · rcases ih h with h | h | h
        · exact Or.inl h
        · exact Or.inr (Or.inl h)
        · exact Or.inr (Or.inr (List.mem_cons_of_mem _ h))

/-- Erasing leaves a part of the list in its order. -/
theorem erase_sublist (k : K) (es : List (K × V)) : (erase k es).Sublist es := by
  induction es with
  | nil => exact List.Sublist.refl _
  | cons e es ih =>
    rw [erase]
    split
    · exact List.sublist_cons_self _ _
    · exact ih.cons_cons _

/-- Erasing keeps a list sorted. -/
theorem Sorted.erase {k : K} {es : List (K × V)} (h : Sorted es) : Sorted (erase k es) :=
  List.Pairwise.sublist (erase_sublist k es) h

/-- Inserting under a new key puts one entry into the list. -/
theorem exists_insert_of_get?_eq_none {k : K} {es : List (K × V)} (v : V)
    (hk : get? k es = none) :
    ∃ before after, es = before ++ after ∧
      insert k v es = before ++ (k, v) :: after := by
  induction es with
  | nil => exact ⟨[], [], rfl, rfl⟩
  | cons e es ih =>
    rw [get?_cons] at hk
    rw [insert]
    split
    · exact ⟨[], e :: es, rfl, rfl⟩
    · rename_i heq
      simp [heq] at hk
    · rename_i hgt
      obtain ⟨before, after, hes, hins⟩ := ih (by simpa [hgt] using hk)
      exact ⟨e :: before, after, by rw [hes]; rfl, by rw [hins]; rfl⟩

/-! ### Walks -/

section walks

omit [Ord K]

variable {reverse : Bool} {es : List (K × V)}

/-- A walk goes over the entries of the list, in whatever direction. -/
theorem mem_walk {e : K × V} : e ∈ walk reverse es ↔ e ∈ es := by
  unfold walk
  split <;> simp

/-- It goes over each of them once. -/
theorem length_walk : (walk reverse es).length = es.length := by
  unfold walk
  split <;> simp

/-- A walk of some entries goes over them as a walk of all does. -/
theorem walk_filter (p : K × V → Bool) :
    walk reverse (es.filter p) = (walk reverse es).filter p := by
  unfold walk
  split
  · rw [List.filter_reverse]
  · rfl

/-- A walk of changed entries gives the changed entries of the walk. -/
theorem walk_map {W : Type} (f : K × V → K × W) :
    (walk reverse es).map f = walk reverse (es.map f) := by
  unfold walk
  split
  · rw [List.map_reverse]
  · rfl

end walks

/-- How a key compares with those that come later in a walk. -/
def direction (reverse : Bool) : Ordering := if reverse then .gt else .lt

/-! ### Preorders of keys -/

variable [TransOrd K]

/-- The keys of a sorted list come in the direction of a walk. -/
theorem Sorted.pairwise_walk {es : List (K × V)} (h : Sorted es) (reverse : Bool) :
    (walk reverse es).Pairwise fun a b => compare a.1 b.1 = direction reverse := by
  cases reverse with
  | false => exact h
  | true => exact List.pairwise_reverse.mpr (h.imp fun hab => OrientedCmp.gt_iff_lt.mpr hab)

/-- What comes later than a later key comes later. -/
theorem direction_trans {a b c : K} {reverse : Bool} (hab : compare a b = direction reverse)
    (hbc : compare b c = direction reverse) : compare a c = direction reverse := by
  cases reverse with
  | false => exact TransCmp.lt_trans hab hbc
  | true => exact TransCmp.gt_trans hab hbc

omit [Std.TransOrd K] in
/-- A key above all others goes to the end. -/
theorem insert_eq_append {k : K} {es : List (K × V)} (v : V)
    (h : ∀ e ∈ es, compare k e.1 = .gt) : insert k v es = es ++ [(k, v)] := by
  induction es with
  | nil => rfl
  | cons e es ih =>
    obtain ⟨k', v'⟩ := e
    have hk : compare k k' = .gt := h _ List.mem_cons_self
    rw [insert, hk]
    simp only [List.cons_append]
    rw [ih fun e he => h e (List.mem_cons_of_mem _ he)]

/-- Equal keys look up the same value. -/
theorem get?_congr {k k' : K} (h : compare k k' = .eq) (es : List (K × V)) :
    get? k es = get? k' es := by
  induction es with
  | nil => rfl
  | cons e es ih => rw [get?_cons, get?_cons, TransCmp.congr_left h, ih]

/-- After an insertion the keys equal to the new one have the new value. -/
theorem get?_insert (k k' : K) (v : V) (es : List (K × V)) :
    get? k' (insert k v es) = if compare k' k = .eq then some v else get? k' es := by
  induction es with
  | nil => rfl
  | cons e es ih =>
    rw [insert]
    split
    · rw [get?_cons]
    · rename_i heq
      rw [get?_cons, get?_cons, TransCmp.congr_right heq]
      split <;> rfl
    · rename_i hgt
      rw [get?_cons, get?_cons, ih]
      by_cases hk : compare k' k = .eq
      · -- a key equal to the new one lies above this entry as well
        have hne : compare k' e.1 ≠ .eq := by
          rw [TransCmp.congr_left hk, hgt]
          decide
        simp [hk, hne]
      · simp [hk]

/-- What was inserted last is found under its key. -/
theorem get?_insert_self (k : K) (v : V) (es : List (K × V)) : get? k (insert k v es) = some v := by
  simp [get?_insert]

/-- Inserting keeps a list sorted. -/
theorem Sorted.insert {k : K} {v : V} {es : List (K × V)} (h : Sorted es) :
    Sorted (insert k v es) := by
  induction es with
  | nil => exact List.pairwise_singleton _ _
  | cons e es ih =>
    obtain ⟨hhead, htail⟩ := sorted_cons.mp h
    rw [SortedEntries.insert]
    split
    · rename_i hlt
      refine sorted_cons.mpr ⟨fun e' he' => ?_, h⟩
      rcases List.mem_cons.mp he' with rfl | he'
      · exact hlt
      · exact TransCmp.lt_trans hlt (hhead e' he')
    · exact sorted_cons.mpr ⟨hhead, htail⟩
    · rename_i hgt
      refine sorted_cons.mpr ⟨fun e' he' => ?_, ih htail⟩
      have hlt : compare e.1 k = .lt := OrientedCmp.gt_iff_lt.mp hgt
      rcases mem_insert he' with rfl | ⟨heq, -⟩ | he'
      · exact hlt
      · exact TransCmp.lt_of_lt_of_eq hlt heq
      · exact hhead e' he'

/-- In a sorted list no key after the head equals the head's key. -/
theorem Sorted.get?_tail_eq_none {e : K × V} {es : List (K × V)} (h : Sorted (e :: es)) {k : K}
    (hk : compare k e.1 = .eq) : get? k es = none := by
  refine get?_eq_none_iff.mpr fun e' he' => ?_
  rw [TransCmp.congr_left hk, (sorted_cons.mp h).1 e' he']
  decide

/-- A lookup reads the value of any entry under an equal key. -/
theorem Sorted.get?_of_mem {k k' : K} {v : V} {es : List (K × V)} (h : Sorted es)
    (hmem : (k', v) ∈ es) (hk : compare k k' = .eq) : get? k es = some v := by
  induction es with
  | nil => simp at hmem
  | cons e es ih =>
    obtain ⟨hhead, htail⟩ := sorted_cons.mp h
    rcases List.mem_cons.mp hmem with rfl | hmem
    · rw [get?_cons, if_pos hk]
    · have hne : compare k e.1 ≠ .eq := by
        rw [TransCmp.congr_left hk, OrientedCmp.gt_iff_lt.mpr (hhead _ hmem)]
        decide
      rw [get?_cons, if_neg hne, ih htail hmem]

/-- What a lookup in a sorted list finds. -/
theorem Sorted.get?_eq_some_iff {k : K} {v : V} {es : List (K × V)} (h : Sorted es) :
    get? k es = some v ↔ ∃ k', (k', v) ∈ es ∧ compare k k' = .eq :=
  ⟨exists_mem_of_get?_eq_some, fun ⟨_, hmem, hk⟩ => h.get?_of_mem hmem hk⟩

/-- After an erasure the keys equal to the erased one have no value. -/
theorem Sorted.get?_erase {es : List (K × V)} (h : Sorted es) (k k' : K) :
    get? k' (SortedEntries.erase k es) = if compare k' k = .eq then none else get? k' es := by
  induction es with
  | nil => simp [SortedEntries.erase]
  | cons e es ih =>
    rw [SortedEntries.erase]
    split
    · rename_i heq
      rw [get?_cons, TransCmp.congr_right (OrientedCmp.eq_symm heq)]
      split
      · rename_i hk
        exact h.get?_tail_eq_none (TransCmp.eq_trans hk heq)
      · rfl
    · rename_i hne
      rw [get?_cons, get?_cons, ih (sorted_cons.mp h).2]
      by_cases hk : compare k' k = .eq
      · rw [if_pos hk, if_pos hk, if_neg]
        rw [TransCmp.congr_left hk]
        exact hne
      · simp [hk]

/-! ### The list after a change -/

/-- Erasing takes out the entries under equal keys. -/
theorem Sorted.erase_eq_filter {es : List (K × V)} (h : Sorted es) (k : K) :
    SortedEntries.erase k es = es.filter fun e => compare k e.1 != .eq := by
  induction es with
  | nil => rfl
  | cons e es ih =>
    rw [SortedEntries.erase]
    split
    · rename_i heq
      have hnone := get?_eq_none_iff.mp (h.get?_tail_eq_none heq)
      rw [List.filter_cons_of_neg (by simp [heq]), List.filter_eq_self.mpr]
      intro e' he'
      simp [hnone e' he']
    · rename_i hne
      rw [List.filter_cons_of_pos (by simpa using hne), ih (sorted_cons.mp h).2]

/-- What stays when a key is erased are the entries of other keys. -/
theorem Sorted.mem_erase {es : List (K × V)} (h : Sorted es) {k : K} {e : K × V} :
    e ∈ SortedEntries.erase k es ↔ e ∈ es ∧ compare k e.1 ≠ .eq := by
  rw [h.erase_eq_filter, List.mem_filter, bne_iff_ne]

/-- Inserting under a key that is there replaces its value in place. -/
theorem Sorted.insert_of_get?_eq_some {es : List (K × V)} (h : Sorted es) {k : K} {v w : V}
    (hk : get? k es = some w) :
    SortedEntries.insert k v es
      = es.map fun e => if compare k e.1 = .eq then (e.1, v) else e := by
  induction es with
  | nil => simp at hk
  | cons e es ih =>
    obtain ⟨hhead, htail⟩ := sorted_cons.mp h
    rw [SortedEntries.insert, List.map_cons]
    rw [get?_cons] at hk
    split
    · rename_i hlt
      -- a key below the head is not in the list
      rw [if_neg (by rw [hlt]; decide)] at hk
      obtain ⟨k', hmem, heq⟩ := exists_mem_of_get?_eq_some hk
      have habove := TransCmp.lt_trans hlt (hhead _ hmem)
      rw [heq] at habove
      cases habove
    · rename_i heq
      rw [if_pos heq]
      have hnone := get?_eq_none_iff.mp (h.get?_tail_eq_none heq)
      have hsame : (es.map fun e' => if compare k e'.1 = .eq then (e'.1, v) else e') = es.map id :=
        List.map_congr_left fun e' he' => if_neg (hnone e' he')
      rw [hsame, List.map_id]
    · rename_i hgt
      have hne : compare k e.1 ≠ .eq := by
        rw [hgt]
        decide
      rw [if_neg hne] at hk ⊢
      rw [ih htail hk]

/-- Inserting what is there already changes nothing. -/
theorem Sorted.insert_eq_self {es : List (K × V)} (h : Sorted es) {k : K} {v : V}
    (hk : get? k es = some v) : SortedEntries.insert k v es = es := by
  rw [h.insert_of_get?_eq_some hk]
  have hsame : ∀ e ∈ es, (if compare k e.1 = .eq then (e.1, v) else e) = e := by
    intro e he
    split
    · rename_i heq
      have hv : get? k es = some e.2 := h.get?_of_mem he heq
      rw [hk, Option.some.injEq] at hv
      rw [hv]
    · rfl
  rw [List.map_congr_left hsame, List.map_id']

/-- Erasing a key that is not there changes nothing. -/
theorem Sorted.erase_eq_self {es : List (K × V)} (h : Sorted es) {k : K}
    (hk : get? k es = none) : SortedEntries.erase k es = es := by
  rw [h.erase_eq_filter, List.filter_eq_self]
  intro e he
  simpa using get?_eq_none_iff.mp hk e he

/-- An entry that was not there is taken out again. -/
theorem Sorted.erase_insert {es : List (K × V)} (h : Sorted es) {k : K} (v : V)
    (hk : get? k es = none) : SortedEntries.erase k (SortedEntries.insert k v es) = es := by
  have hothers : es.filter (fun e => compare k e.1 != .eq) = es := by
    rw [← h.erase_eq_filter, h.erase_eq_self hk]
  rw [h.insert.erase_eq_filter]
  obtain ⟨before, after, rfl, hins⟩ := exists_insert_of_get?_eq_none v hk
  rw [List.filter_append] at hothers
  rw [hins, List.filter_append, List.filter_cons_of_neg (by simp [Std.ReflOrd.compare_self]),
    hothers]

/-- An entry gets its old value again. The key never changed its form. -/
theorem Sorted.insert_insert {es : List (K × V)} (h : Sorted es) {k : K} {v : V} (w : V)
    (hk : get? k es = some v) :
    SortedEntries.insert k v (SortedEntries.insert k w es) = es := by
  have hnew : get? k (SortedEntries.insert k w es) = some w := get?_insert_self k w es
  calc SortedEntries.insert k v (SortedEntries.insert k w es)
      = (SortedEntries.insert k w es).map fun e => if compare k e.1 = .eq then (e.1, v) else e :=
        h.insert.insert_of_get?_eq_some hnew
    _ = es.map fun e => if compare k e.1 = .eq then (e.1, v) else e := by
        rw [h.insert_of_get?_eq_some hk, List.map_map]
        refine List.map_congr_left fun e _ => ?_
        by_cases he : compare k e.1 = .eq <;> simp [he]
    _ = SortedEntries.insert k v es := (h.insert_of_get?_eq_some hk).symm
    _ = es := h.insert_eq_self hk

/-- A sorted list has no entry twice. -/
theorem Sorted.nodup {es : List (K × V)} (h : Sorted es) : es.Nodup := by
  refine List.Pairwise.imp ?_ h
  rintro a _ hlt rfl
  rw [Std.ReflOrd.compare_self] at hlt
  cases hlt

/-- A sorted list is determined by its entries. -/
theorem Sorted.eq_of_mem_iff {es es' : List (K × V)} (h : Sorted es) (h' : Sorted es')
    (hmem : ∀ e, e ∈ es ↔ e ∈ es') : es = es' := by
  have hperm := (List.perm_ext_iff_of_nodup h.nodup h'.nodup).mpr hmem
  refine hperm.eq_of_pairwise (fun a b _ _ hab hba => ?_) h h'
  have hswap : compare b.1 a.1 = (compare a.1 b.1).swap := OrientedCmp.eq_swap
  rw [hswap, hab] at hba
  cases hba

/-! ### Keys that are equal only to themselves -/

section lawful

variable [LawfulEqOrd K]

/-- Where equal keys are identical, an entry of a sorted list is found under its own key. -/
theorem Sorted.get?_eq_some_iff_mem {k : K} {v : V} {es : List (K × V)} (h : Sorted es) :
    get? k es = some v ↔ (k, v) ∈ es := by
  rw [h.get?_eq_some_iff]
  constructor
  · rintro ⟨k', hmem, hk⟩
    rwa [LawfulEqOrd.eq_of_compare hk]
  · exact fun hmem => ⟨k, hmem, Std.ReflOrd.compare_self⟩

omit [TransOrd K] in
/-- The keys of a sorted list are distinct. -/
theorem Sorted.nodup_keys {es : List (K × V)} (h : Sorted es) : (es.map (·.1)).Nodup := by
  refine List.pairwise_map.mpr (List.Pairwise.imp ?_ h)
  intro a b hlt heq
  rw [heq, Std.ReflOrd.compare_self] at hlt
  cases hlt

/-- A sorted map is determined by its lookups. -/
theorem Sorted.ext {es es' : List (K × V)} (h : Sorted es) (h' : Sorted es')
    (hget : ∀ k, get? k es = get? k es') : es = es' :=
  h.eq_of_mem_iff h' fun (k, v) => by
    rw [← h.get?_eq_some_iff_mem, ← h'.get?_eq_some_iff_mem, hget]

/-- Where equal keys are identical, an insertion replaces the entry of its key and keeps all
others. -/
theorem Sorted.mem_insert_iff {es : List (K × V)} (h : Sorted es) {k : K} {v : V} {e : K × V} :
    e ∈ SortedEntries.insert k v es ↔ e = (k, v) ∨ (e ∈ es ∧ e.1 ≠ k) := by
  obtain ⟨k', v'⟩ := e
  rw [← h.insert.get?_eq_some_iff_mem, get?_insert, ← h.get?_eq_some_iff_mem, Prod.mk.injEq]
  by_cases hk : k' = k
  · subst hk
    simp [Std.ReflOrd.compare_self, eq_comm]
  · rw [if_neg (fun heq => hk (LawfulEqOrd.eq_of_compare heq))]
    simp [hk]

/-- Where equal keys are identical, erasing a key takes its entry away and keeps all others. -/
theorem Sorted.mem_erase_iff {es : List (K × V)} (h : Sorted es) {k : K} {e : K × V} :
    e ∈ SortedEntries.erase k es ↔ e ∈ es ∧ e.1 ≠ k := by
  rw [h.mem_erase]
  refine and_congr Iff.rfl (not_congr ⟨fun heq => (LawfulEqOrd.eq_of_compare heq).symm, ?_⟩)
  intro heq
  rw [heq]
  exact Std.ReflOrd.compare_self

/-- An entry that was taken out is put back. -/
theorem Sorted.insert_erase {es : List (K × V)} (h : Sorted es) {k : K} {v : V}
    (hk : get? k es = some v) :
    SortedEntries.insert k v (SortedEntries.erase k es) = es := by
  refine h.erase.insert.ext h fun k' => ?_
  rw [get?_insert, h.get?_erase]
  split
  · rename_i heq
    rw [get?_congr heq, hk]
  · rfl

end lawful

end DocumentDb.SortedEntries
