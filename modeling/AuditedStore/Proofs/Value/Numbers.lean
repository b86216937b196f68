import AuditedStore.Proofs.Binary64.Exact
import AuditedStore.Proofs.Value.Order

/-!
# Numbers by their exact values

Integers and finite binary64 numbers are compared as the rational numbers that they stand for,
although an integer is rounded first: rounding does not pass the other number, and if it meets
that number, then this is an integer and is compared as one.  The exceptions are negative zero,
which stands before the integer zero, and the numbers that are not finite, which stand before or
behind all integers.
-/

namespace AuditedStore

namespace Binary64

/-- No integer is rounded to negative zero. -/
theorem ofInt_ne_negativeZero (i : Int) :
  ofInt i ≠ negativeZero
  := by
  intro h
  have hkey : (ofInt i).key = -1 := by
    rw [h]
    decide +kernel
  rcases Int.lt_or_le i 0 with hi | hi
  · have hmono : (ofInt i).key ≤ (ofInt (-1)).key := key_ofInt_mono (by omega)
    have hone : (ofInt (-1)).key < -1 := by decide +kernel
    omega
  · have hmono : (ofInt 0).key ≤ (ofInt i).key := key_ofInt_mono hi
    have hzero : (ofInt 0).key = 0 := by decide +kernel
    omega

theorem toRat_pastInt64 :
  pastInt64.toRat = 2 ^ 63
  := by
  have hunits : pastInt64.units = 2 ^ 63 * 2 ^ unitExponent := by decide +kernel
  have hsign : pastInt64.isNegative = false := by decide +kernel
  rw [toRat_of_units hunits, hsign]
  norm_num

theorem toRat_ofInt_least :
  (ofInt (-2 ^ 63)).toRat = -2 ^ 63
  := by
  have hunits : (ofInt (-2 ^ 63)).units = 2 ^ 63 * 2 ^ unitExponent := by decide +kernel
  have hsign : (ofInt (-2 ^ 63)).isNegative = true := by decide +kernel
  rw [toRat_of_units hunits, hsign]
  norm_num

/-- The number of a word of 64 bits that is not past all words is a word, and is converted to it. -/
theorem toRat_ofInt64 {i : Int64} (h : (ofInt i.toInt).key < pastInt64.key) :
  (ofInt i.toInt).toRat = ((ofInt i.toInt).toInt64.toInt : ℚ)
  := by
  obtain ⟨k, hk⟩ := exists_units_ofInt (isFinite_ofInt64 i)
  apply toRat_eq_toInt64 (isFinite_ofInt64 i) hk
  · rw [← toRat_ofInt_least]
    apply toRat_le_toRat (ofInt_ne_negativeZero _) (key_ofInt_mono i.le_toInt)
  · rw [← toRat_pastInt64]
    apply toRat_lt_toRat (ofInt_ne_negativeZero _) h

end Binary64

namespace Value

open Binary64 (negativeZero)

variable {i : Int64} {x : Binary64} {a b : Value} {q r : ℚ}

/-! ### An integer and a binary64 number -/

theorem compare_intCast (i j : Int) :
  compare (i : ℚ) j = compare i j
  := by
  rcases Int.lt_trichotomy i j with h | rfl | h
  · rw [Int.compare_eq_lt.mpr h, compare_lt_iff_lt.mpr (by exact_mod_cast h)]
  · rw [Int.compare_eq_eq.mpr rfl, compare_eq_iff_eq.mpr rfl]
  · rw [Int.compare_eq_gt.mpr h, compare_gt_iff_gt.mpr (by exact_mod_cast h)]

/-- Where rounding an integer gives the other number, the integer part decides exactly. -/
theorem compare_toInt64_ofInt (i : Int64) :
  (if Binary64.pastInt64.key ≤ (Binary64.ofInt i.toInt).key then .lt
    else compare i.toInt (Binary64.ofInt i.toInt).toInt64.toInt)
    = compare (i.toInt : ℚ) (Binary64.ofInt i.toInt).toRat
  := by
  split
  · next hpast =>
      symm
      apply compare_lt_iff_lt.mpr
      calc
        (i.toInt : ℚ) < 2 ^ 63 := by exact_mod_cast i.toInt_lt
        _ = Binary64.pastInt64.toRat := Binary64.toRat_pastInt64.symm
        _ ≤ (Binary64.ofInt i.toInt).toRat :=
            Binary64.toRat_le_toRat (Binary64.ofInt_ne_negativeZero _) hpast
  · next hpast => rw [Binary64.toRat_ofInt64 (Int.not_le.mp hpast), compare_intCast]

/-- An integer is compared with a binary64 number by their exact values. -/
theorem compareIntFloat_eq_compare (i : Int64) (hfinite : x.isFinite = true)
    (hzero : x ≠ negativeZero) :
  compareIntFloat i x = compare (i.toInt : ℚ) x.toRat
  := by
  have hnearest := Binary64.isNearest_ofInt (Binary64.isFinite_ofInt64 i)
  have hround : (Binary64.ofInt i.toInt).totalCompare x
      = compare (Binary64.ofInt i.toInt).toRat x.toRat :=
    Binary64.totalCompare_eq_compare (Binary64.ofInt_ne_negativeZero _) hzero
  rw [compareIntFloat]
  cases h : (Binary64.ofInt i.toInt).totalCompare x with
  | lt =>
      rw [hround] at h
      symm
      apply compare_lt_iff_lt.mpr (hnearest.lt_of_toRat_lt hfinite (compare_lt_iff_lt.mp h))
  | eq =>
      obtain rfl := Binary64.eq_of_key_eq (Int.compare_eq_eq.mp h)
      exact compare_toInt64_ofInt i
  | gt =>
      rw [hround] at h
      symm
      apply compare_gt_iff_gt.mpr (hnearest.toRat_lt_of_lt hfinite (compare_gt_iff_gt.mp h))

theorem compareIntFloat_of_key_lt (h : (Binary64.ofInt i.toInt).key < x.key) :
  compareIntFloat i x = .lt
  := by rw [compareIntFloat, Binary64.totalCompare, Int.compare_eq_lt.mpr h]

theorem compareIntFloat_of_lt_key (h : x.key < (Binary64.ofInt i.toInt).key) :
  compareIntFloat i x = .gt
  := by rw [compareIntFloat, Binary64.totalCompare, Int.compare_eq_gt.mpr h]

/-- Negative zero stands before zero and behind all negative integers. -/
theorem compareIntFloat_negativeZero (i : Int64) :
  compareIntFloat i negativeZero = if i.toInt < 0 then .lt else .gt
  := by
  have hkey : negativeZero.key = -1 := by decide +kernel
  split
  · next hi =>
      have hmono : (Binary64.ofInt i.toInt).key ≤ (Binary64.ofInt (-1)).key :=
        Binary64.key_ofInt_mono (by omega)
      have hone : (Binary64.ofInt (-1)).key < -1 := by decide +kernel
      apply compareIntFloat_of_key_lt
      omega
  · next hi =>
      have hmono : (Binary64.ofInt 0).key ≤ (Binary64.ofInt i.toInt).key :=
        Binary64.key_ofInt_mono (by omega)
      have hzero : (Binary64.ofInt 0).key = 0 := by decide +kernel
      apply compareIntFloat_of_lt_key
      omega

/-- Integers stand between the numbers that are not finite. -/
theorem compareIntFloat_of_not_isFinite (i : Int64) (h : x.isFinite = false) :
  compareIntFloat i x = if x.isNegative then .gt else .lt
  := by
  obtain ⟨hlow, hhigh⟩ := (Binary64.isFinite_iff_key _).mp (Binary64.isFinite_ofInt64 i)
  have hkey : x.key = if x.isNegative then -(x.magnitude : Int) - 1 else x.magnitude := rfl
  rw [Binary64.isFinite, decide_eq_false_iff_not] at h
  split
  · next hsign =>
      rw [if_pos hsign] at hkey
      apply compareIntFloat_of_lt_key
      omega
  · next hsign =>
      rw [if_neg hsign] at hkey
      apply compareIntFloat_of_key_lt
      omega

/-! ### Numbers of both kinds -/

/-- A number other than negative zero, and its exact value. -/
inductive HasValue : Value → ℚ → Prop
  | int (i : Int64) : HasValue (int i) i.toInt
  | float (x : Binary64) (hfinite : x.isFinite = true) (hzero : x ≠ negativeZero) :
      HasValue (float x) x.toRat

/-- Numbers other than negative zero are compared by their exact values. -/
theorem compareTo_of_hasValue (ha : a.HasValue q) (hb : b.HasValue r) :
  a.compareTo b = compare q r
  := by
  cases ha with
  | int i =>
      cases hb with
      | int j => exact (compare_intCast i.toInt j.toInt).symm
      | float y hfinite hzero => exact compareIntFloat_eq_compare i hfinite hzero
  | float x hfinite hzero =>
      cases hb with
      | int j =>
          rw [compareTo, compareIntFloat_eq_compare j hfinite hzero]
          symm
          apply Std.OrientedOrd.eq_swap
      | float y _ hzero' => exact Binary64.totalCompare_eq_compare hzero hzero'

/-- Two values are compared, in either order and for equality, as two rational numbers are. -/
structure ComparesAs (a b : Value) (q r : ℚ) : Prop where
  compareTo_eq : a.compareTo b = compare q r
  compareTo_eq' : b.compareTo a = compare r q
  beq_iff : a == b ↔ q = r
  beq_iff' : b == a ↔ r = q

theorem ComparesAs.of_compareTo (h : a.compareTo b = compare q r) :
  a.ComparesAs b q r
  := by
  have h' : b.compareTo a = compare r q := by
    rw [compareTo_swap a b, h]
    symm
    apply Std.OrientedOrd.eq_swap
  constructor
  · exact h
  · exact h'
  · apply (compareTo_eq_eq_iff a b).symm.trans
    rw [h, compare_eq_iff_eq]
  · apply (compareTo_eq_eq_iff b a).symm.trans
    rw [h', compare_eq_iff_eq]

/-- A value stands strictly before another one. -/
structure Precedes (a b : Value) : Prop where
  compareTo_eq : a.compareTo b = .lt
  compareTo_eq' : b.compareTo a = .gt

theorem Precedes.of_compareTo (h : a.compareTo b = .lt) :
  a.Precedes b
  := by
  constructor
  · exact h
  · rw [compareTo_swap a b, h]
    rfl

/-! ### The exceptions -/

theorem precedes_negativeZero :
  (float negativeZero).Precedes (int 0)
  := by
  apply Precedes.of_compareTo
  rw [compareTo, compareIntFloat_negativeZero]
  rfl

/-- Negative zero is compared as zero with all integers but zero. -/
theorem comparesAs_negativeZero (hi : i ≠ 0) :
  (int i).ComparesAs (float negativeZero) i.toInt 0
  := by
  apply ComparesAs.of_compareTo
  have hcast : compare (i.toInt : ℚ) 0 = compare i.toInt 0 := by
    exact_mod_cast compare_intCast i.toInt 0
  rw [compareTo, compareIntFloat_negativeZero, hcast]
  split
  · next hlt => rw [Int.compare_eq_lt.mpr hlt]
  · next hge =>
      have hne : i.toInt ≠ 0 := by
        intro h
        apply hi
        apply Int64.toInt_inj.mp h
      rw [Int.compare_eq_gt.mpr (by omega)]

/-- A number that is not finite stands on the side of its sign. -/
theorem precedes_of_not_isFinite (i : Int64) (h : x.isFinite = false) :
  if x.isNegative then (float x).Precedes (int i) else (int i).Precedes (float x)
  := by
  have hcompare := compareIntFloat_of_not_isFinite i h
  split
  · next hsign =>
      rw [if_pos hsign] at hcompare
      apply Precedes.of_compareTo
      rw [compareTo, hcompare]
      rfl
  · next hsign =>
      rw [if_neg hsign] at hcompare
      apply Precedes.of_compareTo
      rw [compareTo, hcompare]

/-- An integer and a finite binary64 number other than negative zero are compared as their exact
values are.  Negative zero stands strictly before the integer zero, and is compared as zero with
all other integers.  Infinities and NaNs stand before all integers if their sign bit is set, and
behind them if it is not. -/
theorem comparesAs_int_float (i : Int64) (x : Binary64) :
  (x.isFinite = true → x ≠ negativeZero → (int i).ComparesAs (float x) i.toInt x.toRat)
  ∧ (float negativeZero).Precedes (int 0)
  ∧ (i ≠ 0 → (int i).ComparesAs (float negativeZero) i.toInt 0)
  ∧ (x.isFinite = false →
      if x.isNegative then (float x).Precedes (int i) else (int i).Precedes (float x))
  := by
  refine ⟨fun hfinite hzero => ?_, precedes_negativeZero, comparesAs_negativeZero,
    precedes_of_not_isFinite i⟩
  apply ComparesAs.of_compareTo
  apply compareTo_of_hasValue (.int i) (.float x hfinite hzero)

theorem toRat_two_pow_53 :
  Binary64.toRat ⟨0x4340000000000000⟩ = 9007199254740992
  := by
  have hunits : Binary64.units ⟨0x4340000000000000⟩
      = 9007199254740992 * 2 ^ Binary64.unitExponent := by decide +kernel
  have hsign : Binary64.isNegative ⟨0x4340000000000000⟩ = false := by decide +kernel
  rw [Binary64.toRat_of_units hunits, hsign]
  norm_num

/-- Integers that are rounded to another integer, one of them past all words, and the exceptions. -/
theorem comparesAs_int_float_past_precision :
  (int 9007199254740993).ComparesAs (float ⟨0x4340000000000000⟩) 9007199254740993 9007199254740992
  ∧ (int 9223372036854775807).ComparesAs (float Binary64.pastInt64) 9223372036854775807 (2 ^ 63)
  ∧ (int (-1)).ComparesAs (float negativeZero) (-1) 0
  ∧ (float ⟨0xFFF8000000000001⟩).Precedes (int Int64.minValue)
  := by
  refine ⟨?_, ?_, ?_, ?_⟩
  · rw [← toRat_two_pow_53]
    exact (comparesAs_int_float 9007199254740993 ⟨0x4340000000000000⟩).1 (by decide +kernel)
      (by decide +kernel)
  · rw [← Binary64.toRat_pastInt64]
    exact (comparesAs_int_float 9223372036854775807 Binary64.pastInt64).1 (by decide +kernel)
      (by decide +kernel)
  · exact_mod_cast (comparesAs_int_float (-1) negativeZero).2.2.1 (by decide)
  · exact (comparesAs_int_float Int64.minValue ⟨0xFFF8000000000001⟩).2.2.2 (by decide +kernel)

end Value

end AuditedStore
