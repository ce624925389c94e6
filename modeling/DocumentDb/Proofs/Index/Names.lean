import DocumentDb.Collection
import Mathlib.Tactic.IntervalCases

/-!
# `DocumentDb.Proofs.Index.Names`: no two maps get one name

A store finds its maps by name, so an operation on one index leaves the others alone only
because their maps have other names. The names of backing maps end in a generation, which
no two of them share (`generation_eq_of_indexMapName_eq`). They begin with a mark that the
maps of metadata do not have (`indexMapName_ne_metaMapName`), and both begin with a
character that no name of a collection begins with (`ne_indexMapName_of_isName`,
`ne_metaMapName_of_isName`).
-/

set_option autoImplicit false

namespace DocumentDb

/-! ### Texts of generations -/

/-- The number that a hexadecimal digit stands for. -/
def hexDigitValue (c : Char) : Nat := "0123456789abcdef".toList.idxOf c

/-- The number that hexadecimal digits stand for. -/
def hexValue (cs : List Char) : Nat := cs.foldl (fun n c => 16 * n + hexDigitValue c) 0

/-- A hexadecimal digit is read as what it was written for. -/
theorem hexDigitValue_digitChar {n : Nat} (h : n < 16) : hexDigitValue n.digitChar = n := by
  interval_cases n <;> decide

/-- The digits of a number stand for the number. -/
theorem hexValue_toDigits (n : Nat) : hexValue (Nat.toDigits 16 n) = n := by
  induction n using Nat.strongRecOn with
  | ind n ih =>
    by_cases hn : n < 16
    · rw [Nat.toDigits_of_lt_base hn]
      simp [hexValue, hexDigitValue_digitChar hn]
    · rw [Nat.toDigits_of_base_le (by decide) (by omega), hexValue, List.foldl_append]
      change 16 * hexValue (Nat.toDigits 16 (n / 16)) + hexDigitValue (n % 16).digitChar = n
      rw [ih (n / 16) (by omega), hexDigitValue_digitChar (Nat.mod_lt _ (by decide))]
      omega

/-- Leading zeros do not count. -/
theorem hexValue_zeros (k : Nat) (cs : List Char) :
    hexValue (List.replicate k '0' ++ cs) = hexValue cs := by
  induction k with
  | zero => rfl
  | succ k ih => exact ih

/-- A generation is written with 32 digits at least, zeros in front. -/
theorem toList_generationText (g : Nat) :
    (generationText g).toList
      = List.replicate (32 - (Nat.toDigits 16 g).length) '0' ++ Nat.toDigits 16 g := by
  simp [generationText]

/-- A generation is read as what it was written for. -/
theorem hexValue_generationText (g : Nat) : hexValue (generationText g).toList = g := by
  rw [toList_generationText, hexValue_zeros, hexValue_toDigits]

/-- The text of a generation does not hold the separator of a name's parts. -/
theorem separator_not_mem_generationText (g : Nat) : '|' ∉ (generationText g).toList := by
  have hdigits : ∀ n, '|' ∉ Nat.toDigits 16 n := by
    intro n
    induction n using Nat.strongRecOn with
    | ind n ih =>
      have hdigit : ∀ m < 16, '|' ≠ Nat.digitChar m := by decide
      by_cases hn : n < 16
      · rw [Nat.toDigits_of_lt_base hn, List.mem_singleton]
        exact hdigit n hn
      · rw [Nat.toDigits_of_base_le (by decide) (by omega), List.mem_append, List.mem_singleton]
        exact not_or.mpr ⟨ih _ (by omega), hdigit _ (Nat.mod_lt _ (by decide))⟩
  rw [toList_generationText, List.mem_append]
  exact not_or.mpr ⟨fun h => by simp at h, hdigits g⟩

/-! ### Names of maps -/

/-- The name of a backing map starts in one way, and ends with the generation. -/
theorem toList_indexMapName (d : IndexDescriptor) (g : Nat) :
    ∃ start, (indexMapName d g).toList
      = '$' :: 'c' :: 'a' :: 'i' :: 'r' :: 'n' :: '_' :: 'i' :: start ++
      '|' :: (generationText g).toList := by
  refine ⟨"ndex|".toList ++ d.collection.toList ++ "|".toList ++ d.fields.encoded.toList ++
    "|".toList ++ d.kind.render.toList, ?_⟩
  simp [indexMapName, indexMapMark]

/-- The name of a metadata map starts in one way. -/
theorem toList_metaMapName (collection : String) :
    ∃ rest, (metaMapName collection).toList
      = '$' :: 'c' :: 'a' :: 'i' :: 'r' :: 'n' :: '_' :: 'm' :: rest := by
  refine ⟨"eta|".toList ++ collection.toList, ?_⟩
  simp [metaMapName, metaMapMark]

/-- Two names of backing maps of different generations differ. -/
theorem generation_eq_of_indexMapName_eq {d d' : IndexDescriptor} {g g' : Nat}
    (h : indexMapName d g = indexMapName d' g') : g = g' := by
  obtain ⟨start, hs⟩ := toList_indexMapName d g
  obtain ⟨start', hs'⟩ := toList_indexMapName d' g'
  have hlast : ∀ (a cs : List Char), '|' ∉ cs →
      (a ++ '|' :: cs).reverse.takeWhile (· != '|') = cs.reverse := by
    intro a cs hcs
    rw [List.reverse_append, List.reverse_cons, List.append_assoc, List.takeWhile_append_of_pos]
    · simp
    · intro c hc
      exact bne_iff_ne.mpr fun heq => hcs (heq ▸ List.mem_reverse.mp hc)
  have htexts : (generationText g).toList = (generationText g').toList := by
    rw [← List.reverse_inj, ← hlast _ _ (separator_not_mem_generationText g),
      ← hlast _ _ (separator_not_mem_generationText g'), ← hs, ← hs', h]
  rw [← hexValue_generationText g, htexts, hexValue_generationText]

/-- No backing map has the name of a metadata map. -/
theorem indexMapName_ne_metaMapName (d : IndexDescriptor) (g : Nat) (collection : String) :
    indexMapName d g ≠ metaMapName collection := by
  intro h
  obtain ⟨start, hs⟩ := toList_indexMapName d g
  obtain ⟨rest, hr⟩ := toList_metaMapName collection
  rw [h, hr] at hs
  simp at hs

/-- The name of a collection begins like no name of a backing map. -/
theorem head?_of_isName {name : String} (h : Collection.isName name = true) :
    name.toList.head? ≠ some '$' := by
  rw [Collection.isName, Bool.and_eq_true, bne_iff_ne] at h
  exact h.2

/-- No collection has the name of a backing map. -/
theorem ne_indexMapName_of_isName {name : String} (h : Collection.isName name = true)
    (d : IndexDescriptor) (g : Nat) : name ≠ indexMapName d g := by
  rintro rfl
  obtain ⟨start, hs⟩ := toList_indexMapName d g
  exact head?_of_isName h (by rw [hs]; rfl)

/-- No collection has the name of a metadata map. -/
theorem ne_metaMapName_of_isName {name : String} (h : Collection.isName name = true)
    (collection : String) : name ≠ metaMapName collection := by
  rintro rfl
  obtain ⟨rest, hr⟩ := toList_metaMapName collection
  exact head?_of_isName h (by rw [hr]; rfl)

end DocumentDb
