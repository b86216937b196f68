import AuditedStore.Binary64.Order
import AuditedStore.Binary64.Rounding
import Mathlib.Data.Nat.Log
import Mathlib.Order.MinMax

/-!
# Rounding is monotone

A larger quotient never has a smaller nearest number.  At one scale that is so because
halves always go to the same neighbour; from one scale to the next because a significand
that is rounded up past its width is the least one of the next scale.
-/

namespace AuditedStore.Binary64

variable {num num' den : Nat}

/-! ### Quotients -/

theorem div_le_roundDiv (num den : Nat) :
  num / den ≤ roundDiv num den
  := by
  simp only [roundDiv]
  split_ifs
  all_goals omega

theorem roundDiv_le_succ_div (num den : Nat) :
  roundDiv num den ≤ num / den + 1
  := by
  simp only [roundDiv]
  split_ifs
  all_goals omega

theorem roundDiv_mono (h : num ≤ num') :
  roundDiv num den ≤ roundDiv num' den
  := by
  rcases (Nat.div_le_div_right h : num / den ≤ num' / den).lt_or_eq with hlt | heq
  · calc
      roundDiv num den ≤ num / den + 1 := roundDiv_le_succ_div num den
      _ ≤ num' / den := hlt
      _ ≤ roundDiv num' den := div_le_roundDiv num' den
  · have hmod : num % den ≤ num' % den := by
      have hnum := Nat.div_add_mod num den
      have hnum' := Nat.div_add_mod num' den
      rw [heq] at hnum
      omega
    simp only [roundDiv, heq]
    split_ifs
    all_goals omega

/-! ### Magnitudes -/

theorem scaleOf_mono {t t' : Nat} (h : t ≤ t') :
  scaleOf t ≤ scaleOf t'
  := by
  rw [scaleOf, scaleOf, Nat.log2_eq_log_two, Nat.log2_eq_log_two]
  apply Nat.sub_le_sub_right (Nat.log_mono_right h)

/-- At its scale, a value has at most 53 significant bits. -/
theorem div_two_pow_scaleOf_lt (t : Nat) :
  t / 2 ^ scaleOf t < 2 ^ 53
  := by
  rw [Nat.div_lt_iff_lt_mul (Nat.two_pow_pos _), ← Nat.pow_add]
  apply Nat.lt_of_lt_of_le (Nat.lt_log2_self (n := t))
  apply Nat.pow_le_pow_right (by decide)
  rw [scaleOf]
  omega

/-- A value whose scale is not the least one has all its 53 significant bits. -/
theorem le_div_two_pow_scaleOf {t : Nat} (h : 0 < scaleOf t) :
  2 ^ 52 ≤ t / 2 ^ scaleOf t
  := by
  rw [scaleOf] at h
  have ht : t ≠ 0 := by
    rintro rfl
    simp at h
  rw [Nat.le_div_iff_mul_le (Nat.two_pow_pos _), ← Nat.pow_add]
  apply Nat.le_trans _ (Nat.log2_self_le ht)
  apply Nat.pow_le_pow_right (by decide)
  rw [scaleOf]
  omega

theorem nearestMagnitude_mono (h : num ≤ num') :
  nearestMagnitude num den ≤ nearestMagnitude num' den
  := by
  have hunits : num * 2 ^ unitExponent ≤ num' * 2 ^ unitExponent := Nat.mul_le_mul_right _ h
  rw [nearestMagnitude, nearestMagnitude]
  generalize num * 2 ^ unitExponent = n at hunits ⊢
  generalize num' * 2 ^ unitExponent = n' at hunits ⊢
  have hquot : n / den ≤ n' / den := Nat.div_le_div_right hunits
  apply min_le_min_right
  rcases (scaleOf_mono hquot).eq_or_lt with heq | hlt
  · rw [heq]
    apply Nat.add_le_add_left (roundDiv_mono hunits)
  · -- On a larger scale, the least significand already makes up for the step of the scale.
    have hlow := roundDiv_le_succ_div n (den * 2 ^ scaleOf (n / den))
    have hhigh := div_le_roundDiv n' (den * 2 ^ scaleOf (n' / den))
    rw [← Nat.div_div_eq_div_mul] at hlow hhigh
    have hwidth := div_two_pow_scaleOf_lt (n / den)
    have hfull := le_div_two_pow_scaleOf (Nat.zero_lt_of_lt hlt)
    omega

theorem nearestMagnitude_lt (num den : Nat) :
  nearestMagnitude num den < 2 ^ 63
  := Nat.lt_of_le_of_lt (min_le_right _ _) (by decide)

/-! ### Numbers -/

theorem isNegative_ofMagnitude (negative : Bool) {magnitude : Nat} (h : magnitude < 2 ^ 63) :
  (ofMagnitude negative magnitude).isNegative = negative
  := by
  cases negative with
  | false =>
      simp only [isNegative, ofMagnitude, Bool.false_eq_true, if_false, UInt64.toNat_ofNat',
        decide_eq_false_iff_not]
      omega
  | true =>
      simp only [isNegative, ofMagnitude, if_true, UInt64.toNat_ofNat', decide_eq_true_eq]
      omega

theorem magnitude_ofMagnitude (negative : Bool) {magnitude : Nat} (h : magnitude < 2 ^ 63) :
  (ofMagnitude negative magnitude).magnitude = magnitude
  := by
  simp only [Binary64.magnitude, ofMagnitude, UInt64.toNat_ofNat']
  split
  · omega
  · omega

theorem key_ofMagnitude (negative : Bool) {magnitude : Nat} (h : magnitude < 2 ^ 63) :
  (ofMagnitude negative magnitude).key = if negative then -(magnitude : Int) - 1 else magnitude
  := by rw [key, isNegative_ofMagnitude negative h, magnitude_ofMagnitude negative h]

theorem key_ofRatio (negative : Bool) (num den : Nat) :
  (ofRatio negative num den).key
    = if negative then -(nearestMagnitude num den : Int) - 1 else nearestMagnitude num den
  := key_ofMagnitude negative (nearestMagnitude_lt num den)

/-- A larger integer never has a smaller nearest number. -/
theorem key_ofInt_mono {i j : Int} (h : i ≤ j) :
  (ofInt i).key ≤ (ofInt j).key
  := by
  rw [ofInt, ofInt, key_ofRatio, key_ofRatio]
  simp only [decide_eq_true_eq]
  split
  · split
    · have hmag : nearestMagnitude j.natAbs 1 ≤ nearestMagnitude i.natAbs 1 :=
        nearestMagnitude_mono (by omega)
      omega
    · omega
  · rw [if_neg (by omega)]
    have hmag : nearestMagnitude i.natAbs 1 ≤ nearestMagnitude j.natAbs 1 :=
      nearestMagnitude_mono (by omega)
    omega

/-! ### Finite numbers -/

theorem isFinite_iff_key (x : Binary64) :
  x.isFinite = true ↔ -(infiniteMagnitude : Int) - 1 < x.key ∧ x.key < infiniteMagnitude
  := by
  rw [isFinite, key, decide_eq_true_eq]
  split
  · omega
  · omega

/-- The numbers nearest to integers of 64 bits and a sign are finite. -/
theorem isFinite_ofInt {i : Int} (hlow : -2 ^ 64 ≤ i) (hhigh : i ≤ 2 ^ 64) :
  (ofInt i).isFinite = true
  := by
  rw [isFinite_iff_key]
  constructor
  · calc
      -(infiniteMagnitude : Int) - 1 < (ofInt (-2 ^ 64)).key := by decide +kernel
      _ ≤ (ofInt i).key := key_ofInt_mono hlow
  · calc
      (ofInt i).key ≤ (ofInt (2 ^ 64)).key := key_ofInt_mono hhigh
      _ < infiniteMagnitude := by decide +kernel

theorem isFinite_ofInt64 (i : Int64) :
  (ofInt i.toInt).isFinite = true
  := by
  have hlow := i.le_toInt
  have hhigh := i.toInt_lt
  apply isFinite_ofInt
  · omega
  · omega

end AuditedStore.Binary64
