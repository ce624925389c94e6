import DocumentDb.Index.Key
import DocumentDb.RecordId
import DocumentDb.FieldPath
import Mathlib.Tactic.Linarith

/-!
# `DocumentDb.Proofs.KeyOrder`: the orders of the map keys

Every ordered map of the store is a sorted list, and the lookups in it are right only
when the order of its keys is a total preorder. This module proves that for the four
kinds of keys.

* `compareFloats_eq` and `compareIntFloat_eq` place every number on one line. A number
  that is no NaN sits at its exact value in units of `2^-1074`. A NaN sits below or above
  all of them, by its sign, and among the NaNs of that sign by its bits.
* `Key.compare_eq_compareParts` writes the order of index keys as a lexicographic comparison of
  six projections: class, truth value, side and place on the number line, text, and time.
  The instances `Std.TransOrd Key`, `RecordId` and `FieldPath` follow from it and from the
  library's instances for lexicographic orders.
* `Key.compareScalars_eq_some` says that two key values of one class compare by their
  keys, which is what ties conditions on values to walks over keys.
-/

set_option autoImplicit false

namespace DocumentDb

/-! ### Numbers on one line -/

namespace Binary64

/-- There is at least one unit in one. The exponent is not unfolded anywhere below. -/
theorem unitsPerOne_pos : (0 : Int) < (unitsPerOne : Int) := by
  have h : 0 < unitsPerOne := by
    unfold unitsPerOne
    generalize 1074 = n
    exact Nat.two_pow_pos n
  omega

/-- The side of the number line that a float stands on: `-1` and `1` are beyond all
numbers, where the NaNs are. -/
def side (x : Binary64) : Int := if x.isNaN then (if x.sign then -1 else 1) else 0

/-- The place of a float among those on its side. -/
def place (x : Binary64) : Int := if x.isNaN then x.rank else x.units

/-- All bits but the sign fit into 63. -/
theorem unsignedBits_lt (x : Binary64) : x.unsignedBits < 2 ^ 63 :=
  Nat.mod_lt _ (Nat.two_pow_pos 63)

/-- The patterns of the NaNs are the ones above that of infinity. -/
theorem isNaN_iff (x : Binary64) : x.isNaN = true ↔ 2047 * 2 ^ 52 < x.unsignedBits := by
  have h := x.unsignedBits_lt
  simp only [isNaN, exponent, fraction, Bool.and_eq_true, beq_iff_eq, bne_iff_ne, Nat.pow_eq]
  omega

/-- The order of floats is the order of sides, then of places. -/
theorem compareFloats_eq (a b : Binary64) :
    compareFloats a b = (compare a.side b.side).then (compare a.place b.place) := by
  have ha := a.isNaN_iff
  have hb := b.isNaN_iff
  have hla := a.unsignedBits_lt
  have hlb := b.unsignedBits_lt
  cases hna : a.isNaN <;> cases hnb : b.isNaN
  · simp [compareFloats, side, place, hna, hnb]
  all_goals
    cases hsa : a.sign <;> cases hsb : b.sign <;>
      simp only [compareFloats, side, place, rank, hna, hnb, hsa, hsb, Bool.or_true, Bool.true_or,
        if_true, Bool.false_eq_true, if_false, compare, compareOfLessAndEq] <;>
      simp only [hna, hnb, true_iff, false_iff, Bool.false_eq_true] at ha hb <;>
      split <;> simp_all <;> omega

/-- Integers compare as their numbers of units. -/
theorem compare_units_int (m n : Int) :
    compare (m * unitsPerOne) (n * unitsPerOne) = compare m n := by
  have hu := unitsPerOne_pos
  rcases lt_trichotomy m n with hlt | heq | hgt
  · rw [Int.compare_eq_lt.mpr hlt, Int.compare_eq_lt.mpr (Int.mul_lt_mul_of_pos_right hlt hu)]
  · rw [heq, Int.compare_eq_eq.mpr rfl, Int.compare_eq_eq.mpr rfl]
  · rw [Int.compare_eq_gt.mpr hgt, Int.compare_eq_gt.mpr (Int.mul_lt_mul_of_pos_right hgt hu)]

/-- The whole part of a float that is not negative, as bounds on its units. -/
theorem truncate_of_nonneg (x : Binary64) (h : 0 ≤ x.units) :
    x.truncate * unitsPerOne ≤ x.units ∧ x.units < (x.truncate + 1) * unitsPerOne := by
  have hu := unitsPerOne_pos
  rw [truncate, Int.tdiv_eq_ediv_of_nonneg h]
  have hmod := Int.emod_add_mul_ediv x.units unitsPerOne
  have hnonneg := Int.emod_nonneg x.units (Int.ne_of_gt hu)
  have hlt := Int.emod_lt_of_pos x.units hu
  have hcomm := Int.mul_comm (unitsPerOne : Int) (x.units / unitsPerOne)
  constructor
  · omega
  · rw [Int.add_mul]
    omega

/-- The whole part of a negative float, as bounds on its units. -/
theorem truncate_of_neg (x : Binary64) (h : x.units < 0) :
    x.units ≤ x.truncate * unitsPerOne ∧ (x.truncate - 1) * unitsPerOne < x.units := by
  have hu := unitsPerOne_pos
  have hneg : x.truncate = -((-x.units) / unitsPerOne) := by
    rw [truncate, ← Int.tdiv_eq_ediv_of_nonneg (by omega), Int.neg_tdiv, Int.neg_neg]
  have hmod := Int.emod_add_mul_ediv (-x.units) unitsPerOne
  have hnonneg := Int.emod_nonneg (-x.units) (Int.ne_of_gt hu)
  have hlt := Int.emod_lt_of_pos (-x.units) hu
  have hcomm := Int.mul_comm (unitsPerOne : Int) (-x.units / unitsPerOne)
  rw [hneg, Int.sub_mul, Int.neg_mul]
  constructor <;> omega

/-- An integer compares with a float that is no NaN by exact value. -/
theorem compareIntFloat_of_number (i : Int64) (x : Binary64) (h : x.isNaN = false) :
    compareIntFloat i x = compare (i.toInt * unitsPerOne) x.units := by
  have hu := unitsPerOne_pos
  have hlo := i.le_toInt
  have hhi := i.toInt_lt
  simp only [compareIntFloat, h, Bool.false_eq_true, if_false]
  split
  · rename_i hbig
    -- the float is beyond the range of the integers
    exact (Int.compare_eq_lt.mpr
      (lt_of_lt_of_le (Int.mul_lt_mul_of_pos_right hhi hu) hbig)).symm
  split
  · rename_i hsmall
    exact (Int.compare_eq_gt.mpr
      (lt_of_lt_of_le hsmall (Int.mul_le_mul_of_nonneg_right hlo hu.le))).symm
  -- inside the range the whole part decides unless it is the integer itself
  have hbounds : (i.toInt < x.truncate → i.toInt * unitsPerOne < x.units) ∧
      (x.truncate < i.toInt → x.units < i.toInt * unitsPerOne) := by
    rcases lt_or_ge x.units 0 with hneg | hnonneg
    · obtain ⟨hle, hlt⟩ := truncate_of_neg x hneg
      constructor
      · intro habove
        have hstep : i.toInt ≤ x.truncate - 1 := by omega
        exact lt_of_le_of_lt (Int.mul_le_mul_of_nonneg_right hstep hu.le) hlt
      · intro hbelow
        exact lt_of_le_of_lt hle (Int.mul_lt_mul_of_pos_right hbelow hu)
    · obtain ⟨hle, hlt⟩ := truncate_of_nonneg x hnonneg
      constructor
      · intro habove
        exact lt_of_lt_of_le (Int.mul_lt_mul_of_pos_right habove hu) hle
      · intro hbelow
        have hstep : x.truncate + 1 ≤ i.toInt := by omega
        exact lt_of_lt_of_le hlt (Int.mul_le_mul_of_nonneg_right hstep hu.le)
  rcases lt_trichotomy i.toInt x.truncate with hlt | heq | hgt
  · rw [Int.compare_eq_lt.mpr hlt, Int.compare_eq_lt.mpr (hbounds.1 hlt)]
  · rw [heq, Int.compare_eq_eq.mpr rfl]
  · rw [Int.compare_eq_gt.mpr hgt, Int.compare_eq_gt.mpr (hbounds.2 hgt)]

/-- The order of an integer and a float is the order of sides, then of places. -/
theorem compareIntFloat_eq (i : Int64) (x : Binary64) :
    compareIntFloat i x
      = (compare 0 x.side).then (compare (i.toInt * unitsPerOne) x.place) := by
  cases h : x.isNaN with
  | false =>
    have hside : compare 0 x.side = .eq := by
      rw [side, h]
      rfl
    have hplace : x.place = x.units := by
      rw [place, h]
      rfl
    rw [compareIntFloat_of_number i x h, hside, hplace]
    rfl
  | true =>
    -- the side of a NaN decides
    rw [compareIntFloat, side, h]
    cases x.sign <;> rfl

end Binary64

/-! ### Index keys -/

namespace Key

/-- The truth value of a key, false if it is none. -/
def truth (k : Key) : Bool := k.value.asBool?.getD false

/-- The text of a key, empty if it is none. -/
def text (k : Key) : String := k.value.asString?.getD ""

/-- The side of the number line that a key stands on. -/
def side (k : Key) : Int :=
  match k.value with
  | .float x => x.side
  | _ => 0

/-- The place of a number key on its side, in units of `2^-1074`. -/
def place (k : Key) : Int :=
  match k.value with
  | .int n => n.toInt * Binary64.unitsPerOne
  | .float x => x.place
  | _ => 0

/-- Seconds and nanoseconds of a time key. -/
def seconds (k : Key) : Int :=
  match k.value with
  | .dateTime t => t.seconds
  | _ => 0

@[inherit_doc seconds]
def nanos (k : Key) : Nat :=
  match k.value with
  | .dateTime t => t.nanos
  | _ => 0

/-- The order of keys, projection by projection. -/
def compareParts : Key → Key → Ordering :=
  compareLex (compareOn fun k => k.keyClass.rank) <|
  compareLex (compareOn truth) <|
  compareLex (compareOn side) <|
  compareLex (compareOn place) <|
  compareLex (compareOn text) <|
  compareLex (compareOn seconds) (compareOn nanos)

/-- Two keys of one class compare by their values. -/
theorem compareScalars_eq_some (a b : Key) (h : a.keyClass = b.keyClass)
    (hnull : a.keyClass ≠ .null) :
    Value.compareScalars a.value b.value = some (a.compare b) := by
  have hself : Ord.compare b.keyClass b.keyClass = .eq := by cases b.keyClass <;> rfl
  simp only [Key.compare, h, hself]
  obtain ⟨a, ha⟩ := a
  obtain ⟨b, hb⟩ := b
  cases a <;> cases b <;>
    simp_all [keyClass, value, Value.keyClass, Value.compareScalars]

/-- Keys of two classes order by class. -/
theorem compare_of_keyClass_ne {a b : Key} (h : a.keyClass ≠ b.keyClass) :
    a.compare b = Ord.compare a.keyClass.rank b.keyClass.rank ∧ a.compare b ≠ .eq := by
  have hclasses : Ord.compare a.keyClass b.keyClass ≠ .eq := by
    revert h
    cases a.keyClass <;> cases b.keyClass <;> decide
  have hcompare : a.compare b = Ord.compare a.keyClass b.keyClass := by
    rw [Key.compare]
    split
    · contradiction
    · rfl
  exact ⟨hcompare, hcompare ▸ hclasses⟩

/-- The order of keys is the lexicographic order of their parts. -/
theorem compare_eq_compareParts (a b : Key) : a.compare b = compareParts a b := by
  have hparts : compareParts a b = (Ord.compare a.keyClass b.keyClass).then
      ((Ord.compare a.truth b.truth).then <| (Ord.compare a.side b.side).then <|
        (Ord.compare a.place b.place).then <| (Ord.compare a.text b.text).then <|
        (Ord.compare a.seconds b.seconds).then (Ord.compare a.nanos b.nanos)) := rfl
  rw [hparts]
  cases hclass : Ord.compare a.keyClass b.keyClass with
  | lt => simp [Key.compare, hclass]
  | gt => simp [Key.compare, hclass]
  | eq =>
    -- within a class all parts but the class's own are the same for all keys
    simp only [Key.compare, hclass, Ordering.eq_then]
    obtain ⟨a, ha⟩ := a
    obtain ⟨b, hb⟩ := b
    cases a <;> cases b <;>
      first
        | contradiction
        | exact absurd hclass (by decide)
        | simp only [Value.compareScalars, truth, side, place, text, seconds, nanos, value,
            Value.asBool?, Value.asString?, Option.getD_some, Option.getD_none,
            Std.ReflOrd.compare_self, Ordering.eq_then, Ordering.then_eq]
    case int.int m n => exact (Binary64.compare_units_int m.toInt n.toInt).symm
    case int.float n x => exact Binary64.compareIntFloat_eq n x
    case float.int x n =>
      rw [Binary64.compareIntFloat_eq, Ordering.swap_then, ← Std.OrientedOrd.eq_swap,
        ← Std.OrientedOrd.eq_swap]
    case float.float x y => exact Binary64.compareFloats_eq x y
    case dateTime.dateTime t u => rfl

instance : Std.TransOrd Key := by
  have h : (Ord.compare : Key → Key → Ordering) = compareParts := by
    funext a b
    exact compare_eq_compareParts a b
  rw [Std.TransOrd, h]
  exact inferInstanceAs (Std.TransCmp (compareLex _ _))

/-- Comparing keys the other way round gives the opposite. -/
theorem compare_swap (a b : Key) : a.compare b = (b.compare a).swap :=
  Std.OrientedOrd.eq_swap (α := Key)

/-- A key is level with itself. -/
theorem compare_self (a : Key) : a.compare a = .eq := Std.ReflOrd.compare_self (α := Key)

end Key

/-! ### Directions -/

/-- An outcome in a direction. -/
def directed (reverse : Bool) (o : Ordering) : Ordering := if reverse then o.swap else o

instance (reverse : Bool) {α : Type} {cmp : α → α → Ordering} [Std.TransCmp cmp] :
    Std.TransCmp fun a b => directed reverse (cmp a b) := by
  cases reverse with
  | false => exact inferInstanceAs (Std.TransCmp cmp)
  | true =>
    have hswap : (fun a b => directed true (cmp a b)) = fun a b => cmp b a := by
      funext a b
      exact Std.OrientedCmp.eq_swap.symm
    rw [hswap]
    infer_instance

/-! ### Record ids and field paths -/

namespace RecordId

instance : Std.TransOrd RecordId :=
  inferInstanceAs (Std.TransCmp (compareOn RecordId.toUInt64))

instance : Std.LawfulEqOrd RecordId where
  eq_of_compare {a b} h := by
    obtain ⟨a⟩ := a
    obtain ⟨b⟩ := b
    exact congrArg RecordId.mk (Std.LawfulEqOrd.eq_of_compare h)

end RecordId

namespace FieldPath

/-- Field paths compare as the lists of their fields. -/
theorem compareFields_eq (as bs : List String) :
    compareFields as bs = List.compareLex Ord.compare as bs := by
  induction as generalizing bs with
  | nil => cases bs <;> rfl
  | cons a as ih =>
    cases bs with
    | nil => rfl
    | cons b bs => rw [compareFields, List.compareLex_cons_cons, ih]

/-- Paths compare as their lists of fields. -/
theorem compare_eq_compareOn :
    (Ord.compare : FieldPath → FieldPath → Ordering) = compareOn FieldPath.fields := by
  funext a b
  exact compareFields_eq a.fields b.fields

instance : Std.TransOrd FieldPath := by
  rw [Std.TransOrd, compare_eq_compareOn]
  infer_instance

instance : Std.LawfulEqOrd FieldPath where
  eq_of_compare {a b} h := by
    rw [compare_eq_compareOn] at h
    obtain ⟨a⟩ := a
    obtain ⟨b⟩ := b
    exact congrArg FieldPath.mk (Std.LawfulEqOrd.eq_of_compare h)

end FieldPath

end DocumentDb
