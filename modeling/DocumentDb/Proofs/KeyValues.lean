import DocumentDb.Proofs.KeyOrder
import DocumentDb.Proofs.Index.Tree
import Mathlib.Algebra.Order.Ring.Rat
import Mathlib.Order.WithBot
import Mathlib.Tactic.FieldSimp
import Mathlib.Tactic.NormNum
import Mathlib.Tactic.Positivity
import Mathlib.Tactic.Ring

/-!
# `DocumentDb.Proofs.KeyValues`: keys compare by exact value

The order of number keys is computed on bit patterns, with the whole part of a float cut off and
the edges of the 64-bit integers told apart. This module says what it computes.

`Binary64.exactValue` reads the three fields of a pattern as the standard does: a rational number
`(-1)^s · (1 + f/2^52) · 2^(e - 1023)`, the same without the leading one for `e = 0`, and an
infinity when all exponent bits are set. Nothing in it counts in units of `2^-1074`.
`Binary64.measures` then ties the two views: the units of a float are its exact value, scaled, and
those of an infinity are above or below the units of every finite number. `compare_of_measures`
carries an order of units over to an order of values, for all four pairs of integers and floats at
once.

`Key.compare_total_exact` puts the facts about the order of keys together.
-/

set_option autoImplicit false

namespace DocumentDb

/-- A rational number, or one of the two infinities. -/
abbrev ExtendedRat : Type := WithBot (WithTop ℚ)

namespace Binary64

/-- The number that the fields of a finite double stand for. -/
def finiteValue (x : Binary64) : ℚ :=
  (if x.sign then -1 else 1) *
    if x.exponent = 0 then (x.fraction : ℚ) / 2 ^ 52 * 2 ^ (-1022 : ℤ)
    else (1 + (x.fraction : ℚ) / 2 ^ 52) * 2 ^ ((x.exponent : ℤ) - 1023)

/-- The exact value of a double that is no NaN. -/
def exactValue (x : Binary64) : ExtendedRat :=
  if x.isInfinite then (if x.sign then ⊥ else ⊤) else ((x.finiteValue : WithTop ℚ) : ExtendedRat)

/-- The exact value of an integer. -/
def ofInteger (i : Int64) : ExtendedRat := (((i.toInt : ℚ) : WithTop ℚ) : ExtendedRat)

/-! ### Units and values -/

/-- A power of two. The exponents here are in the thousands, and under this name no unification
multiplies them out. -/
def twoPow (n : Nat) : Nat := Nat.pow 2 n

/-- Powers of two are positive. -/
theorem twoPow_pos (n : Nat) : 0 < twoPow n := Nat.two_pow_pos n

/-- The power of a sum is the product of the powers. -/
theorem twoPow_add (m n : Nat) : twoPow (m + n) = twoPow m * twoPow n := Nat.pow_add 2 m n

/-- Powers of two grow with their exponents. -/
theorem twoPow_mono {m n : Nat} (h : m ≤ n) : twoPow m ≤ twoPow n :=
  Nat.pow_le_pow_right (by decide) h

/-- Powers of two grow strictly with their exponents. -/
theorem twoPow_lt {m n : Nat} (h : m < n) : twoPow m < twoPow n :=
  Nat.pow_lt_pow_right (by decide) h

/-- As a rational number, a power of two is the usual one. -/
theorem cast_twoPow (n : Nat) : (twoPow n : ℚ) = 2 ^ (n : ℤ) := by
  rw [zpow_natCast]
  exact Nat.cast_pow 2 n

/-- One has `2^1074` units. -/
theorem unitsPerOne_eq : unitsPerOne = twoPow 1074 := by
  unfold unitsPerOne
  generalize 1074 = n
  rfl

/-- The magnitude is the significand, scaled by a power of two. -/
theorem magnitude_eq_twoPow (x : Binary64) : x.magnitude = x.significand * twoPow x.scale := rfl

/-- The units of infinity. -/
def infinityUnits : Nat := twoPow 52 * twoPow 2046

/-- Whether `n` units of `2^-1074` stand for `v`: a rational number by its multiple, an infinity by
the number of units that its pattern has. -/
inductive Measures (n : Int) : ExtendedRat → Prop
  | finite (q : ℚ) (value : (n : ℚ) = q * unitsPerOne) (above : -(infinityUnits : Int) < n)
      (below : n < infinityUnits) : Measures n ((q : WithTop ℚ) : ExtendedRat)
  | top (units : n = infinityUnits) : Measures n ⊤
  | bot (units : n = -infinityUnits) : Measures n ⊥

/-- One has some units, as a rational number. -/
theorem unitsPerOne_pos_rat : (0 : ℚ) < unitsPerOne := by
  exact_mod_cast unitsPerOne_pos

/-- Infinity has some units. -/
theorem infinityUnits_pos : 0 < infinityUnits := Nat.mul_pos (twoPow_pos _) (twoPow_pos _)

/-- More units are a greater value. -/
theorem Measures.lt {n m : Int} {v w : ExtendedRat} (hn : Measures n v) (hm : Measures m w)
    (h : n < m) : v < w := by
  have hpos := infinityUnits_pos
  cases hn with
  | finite q hq hlow hhigh =>
    cases hm with
    | finite r hr _ _ =>
      have hscaled : q * unitsPerOne < r * unitsPerOne := by
        rw [← hq, ← hr]
        exact_mod_cast h
      have hqr : q < r := lt_of_mul_lt_mul_right hscaled unitsPerOne_pos_rat.le
      exact WithBot.coe_lt_coe.mpr (WithTop.coe_lt_coe.mpr hqr)
    | top _ => exact WithBot.coe_lt_coe.mpr (WithTop.coe_lt_top q)
    | bot hunits => omega
  | top hunits => cases hm <;> omega
  | bot hunits =>
    cases hm with
    | finite r _ _ _ => exact WithBot.bot_lt_coe _
    | top _ => exact WithBot.bot_lt_coe _
    | bot hother => omega

/-- As many units are the same value. -/
theorem Measures.eq {n : Int} {v w : ExtendedRat} (hn : Measures n v) (hm : Measures n w) :
    v = w := by
  have hpos := infinityUnits_pos
  cases hn with
  | finite q hq _ _ =>
    cases hm with
    | finite r hr _ _ =>
      have hqr : q = r := mul_right_cancel₀ unitsPerOne_pos_rat.ne' (hq.symm.trans hr)
      rw [hqr]
    | top _ => omega
    | bot _ => omega
  | top _ => cases hm <;> first | rfl | omega
  | bot _ => cases hm <;> first | rfl | omega

/-- Numbers of units compare as the values they stand for. -/
theorem compare_of_measures {n m : Int} {v w : ExtendedRat} (hn : Measures n v)
    (hm : Measures m w) : compare n m = compare v w := by
  rcases lt_trichotomy n m with hlt | heq | hgt
  · rw [compare_lt_iff_lt.mpr hlt, compare_lt_iff_lt.mpr (hn.lt hm hlt)]
  · subst heq
    rw [compare_eq_iff_eq.mpr rfl, compare_eq_iff_eq.mpr (hn.eq hm)]
  · rw [compare_gt_iff_gt.mpr hgt, compare_gt_iff_gt.mpr (hm.lt hn hgt)]

/-! ### The units of floats and of integers -/

/-- The exponent has 11 bits. -/
theorem exponent_le (x : Binary64) : x.exponent ≤ 2047 := by
  have h := x.unsignedBits_lt
  simp only [exponent, Nat.pow_eq]
  omega

/-- The fraction has 52 bits. -/
theorem fraction_lt (x : Binary64) : x.fraction < 2 ^ 52 := Nat.mod_lt _ (Nat.two_pow_pos 52)

/-- Every finite double is below infinity. -/
theorem magnitude_lt (x : Binary64) (h : x.exponent ≠ 2047) : x.magnitude < infinityUnits := by
  have hexponent := x.exponent_le
  have hsignificand : x.significand < twoPow 53 := by
    have hfraction := x.fraction_lt
    show _ < 2 ^ 53
    simp only [significand, Nat.pow_eq]
    split <;> omega
  have hscale : x.scale ≤ 2045 := by
    simp only [scale]
    omega
  calc x.magnitude < twoPow 53 * twoPow x.scale :=
        Nat.mul_lt_mul_of_pos_right hsignificand (twoPow_pos _)
    _ ≤ twoPow 53 * twoPow 2045 := Nat.mul_le_mul_left _ (twoPow_mono hscale)
    _ = infinityUnits := by
        rw [infinityUnits, ← twoPow_add, ← twoPow_add]

/-- The magnitude of an infinite double is that of infinity. -/
theorem magnitude_of_isInfinite (x : Binary64) (h : x.isInfinite = true) :
    x.magnitude = infinityUnits := by
  simp only [isInfinite, Bool.and_eq_true, beq_iff_eq] at h
  have hsignificand : x.significand = twoPow 52 := by
    rw [significand, h.1, h.2]
    rfl
  have hscale : x.scale = 2046 := by rw [scale, h.1]
  rw [magnitude_eq_twoPow, hsignificand, hscale, infinityUnits]

/-- The magnitude of a finite double is the absolute value of its number, scaled. -/
theorem magnitude_eq (x : Binary64) :
    (x.magnitude : ℚ) =
      (if x.exponent = 0 then (x.fraction : ℚ) / 2 ^ 52 * 2 ^ (-1022 : ℤ)
        else (1 + (x.fraction : ℚ) / 2 ^ 52) * 2 ^ ((x.exponent : ℤ) - 1023)) * unitsPerOne := by
  have htwo : (2 : ℚ) ≠ 0 := by norm_num
  have hunits : (unitsPerOne : ℚ) = 2 ^ 52 * 2 ^ (1022 : ℤ) := by
    rw [unitsPerOne_eq, twoPow_add 52 1022, Nat.cast_mul, cast_twoPow 1022]
    norm_num [twoPow]
  by_cases hzero : x.exponent = 0
  · -- the fraction stands alone, without a leading one
    have hmagnitude : x.magnitude = x.fraction := by
      simp only [magnitude, significand, scale, hzero, if_true, Nat.zero_sub, Nat.pow_eq, pow_zero,
        mul_one]
    calc (x.magnitude : ℚ) = (x.fraction : ℚ) / 2 ^ 52 * 2 ^ 52 := by
          rw [hmagnitude]
          field_simp
      _ = (x.fraction : ℚ) / 2 ^ 52 * (2 ^ (-1022 : ℤ) * 2 ^ (1022 : ℤ)) * 2 ^ 52 := by
          rw [zpow_neg, inv_mul_cancel₀ (zpow_ne_zero _ htwo), mul_one]
      _ = _ := by
          rw [if_pos hzero, hunits]
          ring
  · -- the fraction stands behind a leading one
    have hmagnitude : x.magnitude = (2 ^ 52 + x.fraction) * twoPow x.scale := by
      rw [magnitude_eq_twoPow]
      simp only [significand, hzero, if_false, Nat.pow_eq]
    have hscale : (x.scale : ℤ) = ((x.exponent : ℤ) - 1023) + 1022 := by
      simp only [scale]
      omega
    calc (x.magnitude : ℚ) = (2 ^ 52 + x.fraction) * 2 ^ (x.scale : ℤ) := by
          rw [hmagnitude, Nat.cast_mul, cast_twoPow]
          push_cast
          ring
      _ = (1 + (x.fraction : ℚ) / 2 ^ 52) * 2 ^ 52
            * (2 ^ ((x.exponent : ℤ) - 1023) * 2 ^ (1022 : ℤ)) := by
          rw [hscale, zpow_add₀ htwo]
          field_simp
      _ = _ := by
          rw [if_neg hzero, hunits]
          ring

/-- The units of a float stand for its exact value. -/
theorem measures (x : Binary64) (h : x.isNaN = false) : Measures x.units x.exactValue := by
  have hpos := infinityUnits_pos
  cases hinfinite : x.isInfinite with
  | true =>
    have hmagnitude := x.magnitude_of_isInfinite hinfinite
    cases hsign : x.sign with
    | true =>
      rw [exactValue, if_pos hinfinite, if_pos hsign]
      exact .bot (by rw [units, if_pos hsign, hmagnitude])
    | false =>
      rw [exactValue, if_pos hinfinite, hsign, if_neg Bool.false_ne_true]
      exact .top (by rw [units, hsign, if_neg Bool.false_ne_true, hmagnitude])
  | false =>
    -- with all exponent bits set a pattern is an infinity or a NaN
    have hexponent : x.exponent ≠ 2047 := by
      intro hall
      cases hfraction : x.fraction == 0 <;>
        simp [isNaN, isInfinite, bne, hall, hfraction] at h hinfinite
    have hlt := x.magnitude_lt hexponent
    have hvalue := x.magnitude_eq
    rw [exactValue, hinfinite, if_neg Bool.false_ne_true]
    cases hsign : x.sign with
    | true =>
      have hunits : x.units = -(x.magnitude : Int) := by rw [units, if_pos hsign]
      refine .finite _ ?_ (by omega) (by omega)
      rw [hunits, Int.cast_neg, Int.cast_natCast, hvalue, finiteValue, if_pos hsign]
      ring
    | false =>
      have hunits : x.units = (x.magnitude : Int) := by
        rw [units, hsign, if_neg Bool.false_ne_true]
      refine .finite _ ?_ (by omega) (by omega)
      rw [hunits, Int.cast_natCast, hvalue, finiteValue, hsign, if_neg Bool.false_ne_true, one_mul]

/-- The units of an integer stand for it. -/
theorem measures_ofInteger (i : Int64) : Measures (i.toInt * unitsPerOne) (ofInteger i) := by
  have hlow := i.le_toInt
  have hhigh := i.toInt_lt
  have hu := unitsPerOne_pos
  have hrange : (2 : Int) ^ 63 * unitsPerOne < infinityUnits := by
    have hpow : 2 ^ 63 * twoPow 1074 < twoPow 1024 * twoPow 1074 :=
      Nat.mul_lt_mul_of_pos_right (twoPow_lt (by decide : 63 < 1024)) (twoPow_pos _)
    have hsplit : infinityUnits = twoPow 1024 * twoPow 1074 := by
      rw [infinityUnits, ← twoPow_add, ← twoPow_add]
    rw [hsplit, unitsPerOne_eq]
    exact_mod_cast hpow
  refine .finite _ (by push_cast; rfl) ?_ ?_
  · have hstep := Int.mul_le_mul_of_nonneg_right hlow hu.le
    rw [Int.neg_mul] at hstep
    omega
  · have hstep := Int.mul_lt_mul_of_pos_right hhigh hu
    omega

/-- An integer and a float that is no NaN compare by their exact values. -/
theorem compareIntFloat_exact (i : Int64) (x : Binary64) (h : x.isNaN = false) :
    compareIntFloat i x = compare (ofInteger i) x.exactValue := by
  rw [compareIntFloat_of_number i x h]
  exact compare_of_measures (measures_ofInteger i) (x.measures h)

end Binary64

/-! ### Keys -/

namespace Key

/-- Null can be a key. -/
theorem isKey_null : Value.null.isKey = true := rfl

/-- The lowest key. -/
def null : Key := ⟨.null, isKey_null⟩

/-- The key of an integer. -/
def ofInt (i : Int64) : Key := ⟨.int i, rfl⟩

/-- The key of a float. -/
def ofFloat (x : Binary64) : Key := ⟨.float x, rfl⟩

/-- The order of keys is a total preorder. It ranks null lowest and the classes apart from each
other, it is exact between integers and floats in both positions, and its ties are an
equivalence. -/
theorem compare_total_exact :
    (∀ a b : Key, a.compare b = (b.compare a).swap) ∧
    (∀ a b c : Key, (a.compare b).isLE → (b.compare c).isLE → (a.compare c).isLE) ∧
    (∀ a b : Key, a.keyClass ≠ b.keyClass →
      a.compare b ≠ .eq ∧ a.compare b = Ord.compare a.keyClass.rank b.keyClass.rank) ∧
    (∀ a : Key, a.keyClass ≠ .null → null.compare a = .lt) ∧
    (∀ (i : Int64) (x : Binary64), x.isNaN = false →
      (ofInt i).compare (ofFloat x) = Ord.compare (Binary64.ofInteger i) x.exactValue ∧
      (ofFloat x).compare (ofInt i) = Ord.compare x.exactValue (Binary64.ofInteger i)) ∧
    Equivalence (fun a b : Key => a.same b = true) := by
  refine ⟨?_, ?_, ?_, ?_, ?_, ?_⟩
  · intro a b
    exact Std.OrientedOrd.eq_swap (a := a) (b := b)
  · intro a b c hab hbc
    exact Std.TransOrd.isLE_trans (a := a) (b := b) (c := c) hab hbc
  · intro a b h
    exact (compare_of_keyClass_ne h).symm
  · intro a h
    rw [(compare_of_keyClass_ne (a := null) (Ne.symm h)).1]
    show Ord.compare 0 a.keyClass.rank = .lt
    revert h
    cases a.keyClass <;> decide
  · intro i x h
    have hexact := Binary64.compareIntFloat_exact i x h
    constructor
    · exact hexact
    · show (Binary64.compareIntFloat i x).swap = _
      rw [hexact, ← Std.OrientedOrd.eq_swap]
  · exact ⟨same_refl, same_symm, same_trans⟩

/-- `2^53 + 1` is above the float `2^53`, to which it would be rounded, and the largest integer is
below the float `2^63`. Both the computed orders and the orders of the exact values say so, and a
text and a truth value are apart by their classes. -/
theorem compare_total_exact_at_edges :
    ((ofInt 9007199254740993).compare (ofFloat ⟨0x4340000000000000⟩) = .gt ∧
      Ord.compare (Binary64.ofInteger 9007199254740993)
        (Binary64.exactValue ⟨0x4340000000000000⟩) = .gt) ∧
    ((ofFloat ⟨0x43E0000000000000⟩).compare (ofInt 9223372036854775807) = .gt ∧
      Ord.compare (Binary64.exactValue ⟨0x43E0000000000000⟩)
        (Binary64.ofInteger 9223372036854775807) = .gt) ∧
    (Key.compare ⟨.string "a", rfl⟩ ⟨.bool true, rfl⟩ ≠ .eq ∧
      Key.compare null ⟨.string "a", rfl⟩ = .lt) := by
  obtain ⟨-, -, hclasses, hnull, hexact, -⟩ := compare_total_exact
  have hodd : (ofInt 9007199254740993).compare (ofFloat ⟨0x4340000000000000⟩) = .gt := by
    decide +kernel
  have hlimit : (ofFloat ⟨0x43E0000000000000⟩).compare (ofInt 9223372036854775807) = .gt := by
    decide +kernel
  refine ⟨⟨hodd, ?_⟩, ⟨hlimit, ?_⟩, ?_, ?_⟩
  · exact (hexact 9007199254740993 ⟨0x4340000000000000⟩ (by decide +kernel)).1.symm.trans hodd
  · exact (hexact 9223372036854775807 ⟨0x43E0000000000000⟩ (by decide +kernel)).2.symm.trans hlimit
  · exact (hclasses ⟨.string "a", rfl⟩ ⟨.bool true, rfl⟩ (by decide)).1
  · exact hnull ⟨.string "a", rfl⟩ (by decide)

end Key

end DocumentDb
