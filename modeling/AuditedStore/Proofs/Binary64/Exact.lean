import AuditedStore.Proofs.Binary64.Rounding
import Mathlib.Algebra.Order.Field.Basic
import Mathlib.Algebra.Order.Field.Rat
import Mathlib.Data.Nat.Dist
import Mathlib.Tactic.FieldSimp
import Mathlib.Tactic.Linarith
import Mathlib.Tactic.Ring

/-!
# Exact values

A finite binary64 number stands for a rational number.  The number of a quotient is nearest to
it among all finite numbers, and of two nearest ones it is the even one.  Numbers other than
negative zero are ordered as their values are; so rounding never passes a finite number, and what
is nearest to an integer stands for an integer again.
-/

namespace AuditedStore.Binary64

/-- The zero with its sign bit set. -/
def negativeZero : Binary64 := ⟨0x8000000000000000⟩

/-- A finite number in units of `2 ^ -1074`. -/
def signedUnits (x : Binary64) : Int := if x.isNegative then -(x.units : Int) else x.units

/-- The exact value of a finite number. -/
def toRat (x : Binary64) : ℚ := x.signedUnits / 2 ^ unitExponent

variable {x y : Binary64} {num den k s r : Nat} {q : ℚ}

/-! ### Significands and scales -/

theorem magnitude_eq (x : Binary64) :
  x.magnitude = x.scale * 2 ^ 52 + x.significand
  := by
  rw [significand, scale]
  omega

theorem significand_lt (x : Binary64) :
  x.significand < 2 ^ 53
  := by
  rw [significand, scale]
  omega

/-- The leading bit is set but in subnormal numbers. -/
theorem le_significand (h : 0 < x.scale) :
  2 ^ 52 ≤ x.significand
  := by
  rw [significand]
  rw [scale] at h ⊢
  omega

/-- A significand that is rounded up past its width is the least one of the next scale. -/
theorem units_eq (hx : x.magnitude = s * 2 ^ 52 + r) (hs : s = 0 ∨ 2 ^ 52 ≤ r) (hr : r ≤ 2 ^ 53) :
  x.units = r * 2 ^ s
  := by
  rcases hr.lt_or_eq with hr | rfl
  · have hscale : x.scale = s := by
      rw [scale]
      omega
    have hsignificand : x.significand = r := by
      rw [significand, hscale]
      omega
    rw [units, hscale, hsignificand]
  · have hscale : x.scale = s + 1 := by
      rw [scale]
      omega
    have hsignificand : x.significand = 2 ^ 52 := by
      rw [significand, hscale]
      omega
    rw [units, hscale, hsignificand, Nat.pow_succ]
    omega

/-- Numbers of a smaller scale are below all those of a scale that have its leading bit. -/
theorem units_lt_of_scale_lt (h : x.scale < s) :
  x.units < 2 ^ 52 * 2 ^ s
  := by
  calc
    x.significand * 2 ^ x.scale
    _ < 2 ^ 53 * 2 ^ x.scale := Nat.mul_lt_mul_of_pos_right x.significand_lt (Nat.two_pow_pos _)
    _ = 2 ^ 52 * 2 ^ (x.scale + 1) := by
        rw [Nat.pow_succ 2 x.scale]
        omega
    _ ≤ 2 ^ 52 * 2 ^ s := Nat.mul_le_mul_left _ (Nat.pow_le_pow_right (by decide) h)

/-- Numbers of a larger scale are multiples of the unit of a scale. -/
theorem exists_units_eq (h : s ≤ x.scale) :
  ∃ k, x.units = k * 2 ^ s
  := by
  use x.significand * 2 ^ (x.scale - s)
  rw [Nat.mul_assoc, ← Nat.pow_add, Nat.sub_add_cancel h, units]

/-- Larger magnitudes stand for larger values. -/
theorem units_lt_units (h : x.magnitude < y.magnitude) :
  x.units < y.units
  := by
  have hscale : x.scale ≤ y.scale := by
    rw [scale, scale]
    omega
  rcases hscale.lt_or_eq with hlt | heq
  · calc
      x.units < 2 ^ 52 * 2 ^ y.scale := units_lt_of_scale_lt hlt
      _ ≤ y.units := Nat.mul_le_mul_right _ (le_significand (Nat.zero_lt_of_lt hlt))
  · have hx := x.magnitude_eq
    have hy := y.magnitude_eq
    rw [units, units, heq]
    rw [heq] at hx
    apply Nat.mul_lt_mul_of_pos_right _ (Nat.two_pow_pos _)
    omega

/-! ### Nearest multiples -/

/-- Rounding a quotient gives the nearest multiple of the divisor. -/
theorem dist_roundDiv_le (hden : 0 < den) (num k : Nat) :
  Nat.dist num (roundDiv num den * den) ≤ Nat.dist num (k * den)
  := by
  have hdiv := Nat.div_add_mod' num den
  have hmod := Nat.mod_lt num hden
  have hside : k * den ≤ num / den * den ∨ num / den * den + den ≤ k * den := by
    rcases Nat.lt_or_ge (num / den) k with hlt | hge
    · right
      rw [← Nat.succ_mul]
      apply Nat.mul_le_mul_right den hlt
    · left
      apply Nat.mul_le_mul_right den hge
  rw [Nat.dist, Nat.dist, roundDiv]
  split_ifs
  all_goals
    try rw [Nat.succ_mul]
    omega

/-- Where another multiple is as near, rounding gives the even one. -/
theorem even_roundDiv (hden : 0 < den) (hk : k ≠ roundDiv num den)
    (h : Nat.dist num (roundDiv num den * den) = Nat.dist num (k * den)) :
  roundDiv num den % 2 = 0
  := by
  have hdiv := Nat.div_add_mod' num den
  have hmod := Nat.mod_lt num hden
  have hside : k * den + den ≤ num / den * den ∨ k = num / den ∨ k = num / den + 1
      ∨ num / den * den + 2 * den ≤ k * den := by
    rcases Nat.lt_or_ge k (num / den) with hlt | hge
    · left
      rw [← Nat.succ_mul]
      apply Nat.mul_le_mul_right den hlt
    · rcases Nat.lt_or_ge (num / den + 1) k with hlt | hle
      · right; right; right
        rw [← Nat.add_mul]
        apply Nat.mul_le_mul_right den hlt
      · omega
  have hsucc : (num / den + 1) * den = num / den * den + den := Nat.succ_mul _ _
  rw [Nat.dist, Nat.dist] at h
  rw [roundDiv] at h hk ⊢
  split_ifs at h hk ⊢
  all_goals
    rcases hside with hside | rfl | rfl | hside
    all_goals omega

/-! ### Rounded quotients -/

theorem isNegative_ofRatio (negative : Bool) (num den : Nat) :
  (ofRatio negative num den).isNegative = negative
  := isNegative_ofMagnitude negative (nearestMagnitude_lt num den)

theorem magnitude_ofRatio (negative : Bool) (num den : Nat) :
  (ofRatio negative num den).magnitude = nearestMagnitude num den
  := magnitude_ofMagnitude negative (nearestMagnitude_lt num den)

section Quotient

variable {negative : Bool}

/-- A quotient in units of `2 ^ -1074` is `unitsOver num / den`. -/
def unitsOver (num : Nat) : Nat := num * 2 ^ unitExponent

/-- The scale at which a quotient is rounded. -/
def scaleOver (num den : Nat) : Nat := scaleOf (unitsOver num / den)

/-- The significand of a quotient, before it is carried to the next scale. -/
def significandOver (num den : Nat) : Nat :=
  roundDiv (unitsOver num) (den * 2 ^ scaleOver num den)

theorem le_significandOver (h : 0 < scaleOver num den) :
  2 ^ 52 ≤ significandOver num den
  := by
  apply (le_div_two_pow_scaleOf h).trans
  rw [Nat.div_div_eq_div_mul]
  apply div_le_roundDiv

theorem significandOver_le (num den : Nat) :
  significandOver num den ≤ 2 ^ 53
  := by
  apply (roundDiv_le_succ_div _ _).trans
  rw [← Nat.div_div_eq_div_mul]
  apply div_two_pow_scaleOf_lt

theorem magnitude_ofRatio_of_isFinite (hfinite : (ofRatio negative num den).isFinite = true) :
  (ofRatio negative num den).magnitude = scaleOver num den * 2 ^ 52 + significandOver num den
  := by
  have hlt : nearestMagnitude num den < infiniteMagnitude := by
    rw [← magnitude_ofRatio negative]
    apply of_decide_eq_true hfinite
  rw [magnitude_ofRatio]
  rw [nearestMagnitude] at hlt ⊢
  apply min_eq_left
  apply ((min_lt_iff.mp hlt).resolve_right (Nat.lt_irrefl _)).le

theorem units_ofRatio (hfinite : (ofRatio negative num den).isFinite = true) :
  (ofRatio negative num den).units = significandOver num den * 2 ^ scaleOver num den
  := by
  apply units_eq (magnitude_ofRatio_of_isFinite hfinite) _ (significandOver_le num den)
  rcases Nat.eq_zero_or_pos (scaleOver num den) with h | h
  · apply Or.inl h
  · apply Or.inr (le_significandOver h)

/-- Numbers of a smaller scale are farther away than the least number of the scale. -/
theorem dist_lt_of_scale_lt (hden : 0 < den) (h : y.scale < scaleOver num den) :
  Nat.dist (unitsOver num) (significandOver num den * (den * 2 ^ scaleOver num den))
    < Nat.dist (unitsOver num) (y.units * den)
  := by
  have hstep : 0 < den * 2 ^ scaleOver num den := Nat.mul_pos hden (Nat.two_pow_pos _)
  have hleast : 2 ^ 52 * (den * 2 ^ scaleOver num den) ≤ unitsOver num := by
    apply (Nat.le_div_iff_mul_le hstep).mp
    rw [← Nat.div_div_eq_div_mul]
    apply le_div_two_pow_scaleOf (Nat.zero_lt_of_lt h)
  have hbelow : y.units * den < 2 ^ 52 * (den * 2 ^ scaleOver num den) := by
    rw [Nat.mul_comm den, ← Nat.mul_assoc]
    apply Nat.mul_lt_mul_of_pos_right (units_lt_of_scale_lt h) hden
  have hnearest := dist_roundDiv_le hstep (unitsOver num) (2 ^ 52)
  rw [significandOver]
  apply Nat.lt_of_le_of_lt hnearest
  rw [Nat.dist, Nat.dist]
  omega

variable (hden : 0 < den) (hfinite : (ofRatio negative num den).isFinite = true)
include hden hfinite

/-- No number is nearer to a quotient than the one that it is rounded to. -/
theorem dist_units_ofRatio_le (y : Binary64) :
  Nat.dist (unitsOver num) ((ofRatio negative num den).units * den)
    ≤ Nat.dist (unitsOver num) (y.units * den)
  := by
  rw [units_ofRatio hfinite, Nat.mul_assoc, Nat.mul_comm _ den]
  rcases Nat.lt_or_ge y.scale (scaleOver num den) with h | h
  · apply (dist_lt_of_scale_lt hden h).le
  · obtain ⟨k, hk⟩ := exists_units_eq h
    rw [hk, Nat.mul_assoc, Nat.mul_comm _ den]
    apply dist_roundDiv_le (Nat.mul_pos hden (Nat.two_pow_pos _))

/-- Where another number is as near to a quotient, it is rounded to the even one. -/
theorem even_significand_ofRatio (y : Binary64)
    (hne : y.units ≠ (ofRatio negative num den).units)
    (h : Nat.dist (unitsOver num) ((ofRatio negative num den).units * den)
      = Nat.dist (unitsOver num) (y.units * den)) :
  (ofRatio negative num den).significand % 2 = 0
  := by
  rw [units_ofRatio hfinite] at hne h
  rw [Nat.mul_assoc, Nat.mul_comm _ den] at h
  rcases Nat.lt_or_ge y.scale (scaleOver num den) with hscale | hscale
  · exact absurd h (dist_lt_of_scale_lt hden hscale).ne
  · obtain ⟨k, hk⟩ := exists_units_eq hscale
    rw [hk, Nat.mul_assoc, Nat.mul_comm _ den] at h
    have heven : significandOver num den % 2 = 0 := by
      apply even_roundDiv (Nat.mul_pos hden (Nat.two_pow_pos _)) _ h
      rintro rfl
      exact hne hk
    have hmagnitude := magnitude_ofRatio_of_isFinite hfinite
    rw [magnitude_eq] at hmagnitude
    omega

end Quotient

/-! ### Nearest numbers -/

/-- A finite number to which `q` is rounded: no finite number is nearer to `q`, and if one of
another value is as near, then the number is the even one. -/
structure IsNearest (x : Binary64) (q : ℚ) : Prop where
  isFinite : x.isFinite = true
  le : ∀ y : Binary64, y.isFinite = true → |x.toRat - q| ≤ |y.toRat - q|
  even : ∀ y : Binary64, y.isFinite = true → |y.toRat - q| = |x.toRat - q| → y.toRat ≠ x.toRat →
    x.significand % 2 = 0

/-- A quotient with a sign. -/
def quotient (negative : Bool) (num den : Nat) : ℚ := (if negative then -(num : ℚ) else num) / den

/-- The distance of a number from a quotient, in units of `2 ^ -1074` and parts of `den`. -/
def distance (x : Binary64) (negative : Bool) (num den : Nat) : Nat :=
  (x.signedUnits * den - if negative then -(unitsOver num : Int) else unitsOver num).natAbs

theorem abs_toRat_sub_quotient (hden : 0 < den) (x : Binary64) (negative : Bool) (num : Nat) :
  |x.toRat - quotient negative num den| = x.distance negative num den / (2 ^ unitExponent * den)
  := by
  have hden' : (0 : ℚ) < den := by exact_mod_cast hden
  have hunits : (0 : ℚ) < 2 ^ unitExponent * den := by positivity
  have hscaled : (x.toRat - quotient negative num den) * (2 ^ unitExponent * den)
      = (x.signedUnits * den - if negative then -(unitsOver num : Int) else unitsOver num : Int) := by
    rw [toRat, quotient, unitsOver]
    cases negative with
    | false =>
        simp only [Bool.false_eq_true, if_false]
        push_cast
        field_simp
    | true =>
        simp only [if_true]
        push_cast
        field_simp
  rw [eq_div_iff hunits.ne', distance, Nat.cast_natAbs, Int.cast_abs, ← hscaled, abs_mul,
    abs_of_pos hunits]

/-- A number is as far from a quotient of its sign as their absolute values are. -/
theorem distance_of_isNegative_eq (x : Binary64) (num den : Nat) :
  x.distance x.isNegative num den = Nat.dist (unitsOver num) (x.units * den)
  := by
  rw [distance, signedUnits, Nat.dist]
  cases x.isNegative with
  | false =>
      simp only [Bool.false_eq_true, if_false]
      omega
  | true =>
      simp only [if_true, Int.neg_mul]
      omega

/-- Between a number and a quotient of the other sign lie their absolute values. -/
theorem distance_of_isNegative_ne (x : Binary64) (num den : Nat) :
  x.distance (!x.isNegative) num den = unitsOver num + x.units * den
  := by
  rw [distance, signedUnits]
  cases x.isNegative with
  | false =>
      simp only [Bool.false_eq_true, if_false, Bool.not_false, if_true]
      omega
  | true =>
      simp only [if_true, Bool.not_true, Bool.false_eq_true, if_false, Int.neg_mul]
      omega

section Nearest

variable {negative : Bool} (hden : 0 < den) (hfinite : (ofRatio negative num den).isFinite = true)

theorem distance_ofRatio (negative : Bool) (num den : Nat) :
  (ofRatio negative num den).distance negative num den
    = Nat.dist (unitsOver num) ((ofRatio negative num den).units * den)
  := by
  have h := (ofRatio negative num den).distance_of_isNegative_eq num den
  rwa [isNegative_ofRatio] at h

include hden hfinite

/-- The number of a quotient is at most as far from it as zero is. -/
theorem dist_units_ofRatio_le_unitsOver :
  Nat.dist (unitsOver num) ((ofRatio negative num den).units * den) ≤ unitsOver num
  := by
  have hzero : zero.units = 0 := rfl
  have h := dist_units_ofRatio_le hden hfinite zero
  rwa [hzero, Nat.zero_mul, Nat.dist_zero_right] at h

theorem distance_ofRatio_le (y : Binary64) :
  (ofRatio negative num den).distance negative num den ≤ y.distance negative num den
  := by
  rw [distance_ofRatio]
  rcases Bool.eq_or_eq_not negative y.isNegative with h | h
  · rw [h, y.distance_of_isNegative_eq, ← h]
    apply dist_units_ofRatio_le hden hfinite
  · rw [h, y.distance_of_isNegative_ne, ← h]
    apply (dist_units_ofRatio_le_unitsOver hden hfinite).trans (Nat.le_add_right _ _)

theorem even_significand_of_distance
    (h : y.distance negative num den = (ofRatio negative num den).distance negative num den)
    (hne : y.signedUnits ≠ (ofRatio negative num den).signedUnits) :
  (ofRatio negative num den).significand % 2 = 0
  := by
  rw [distance_ofRatio] at h
  rcases Bool.eq_or_eq_not negative y.isNegative with hsign | hsign
  · apply even_significand_ofRatio hden hfinite y
    · intro hunits
      apply hne
      rw [signedUnits, signedUnits, isNegative_ofRatio, hunits, hsign]
    · rw [← h, hsign, y.distance_of_isNegative_eq]
  · -- Of the other sign, only zero could be as near.
    have hzero := dist_units_ofRatio_le_unitsOver hden hfinite
    rw [hsign, y.distance_of_isNegative_ne, ← hsign] at h
    have hy : y.units = 0 := by
      apply (Nat.mul_eq_zero.mp _).resolve_right hden.ne'
      omega
    rw [hy, Nat.zero_mul, Nat.add_zero] at h
    apply even_significand_ofRatio hden hfinite y
    · intro hunits
      apply hne
      rw [signedUnits, signedUnits, ← hunits, hy]
      simp
    · rw [hy, Nat.zero_mul, Nat.dist_zero_right]
      exact h.symm

/-- A quotient is rounded to a nearest number, and to the even one of two. -/
theorem isNearest_ofRatio :
  (ofRatio negative num den).IsNearest (quotient negative num den)
  := by
  have hden' : (0 : ℚ) < den := by exact_mod_cast hden
  have hunits : (0 : ℚ) < 2 ^ unitExponent * den := by positivity
  constructor
  · exact hfinite
  · intro y _
    rw [abs_toRat_sub_quotient hden, abs_toRat_sub_quotient hden]
    apply div_le_div_of_nonneg_right _ hunits.le
    exact_mod_cast distance_ofRatio_le hden hfinite y
  · intro y _ h hne
    rw [abs_toRat_sub_quotient hden, abs_toRat_sub_quotient hden, div_left_inj' hunits.ne'] at h
    apply even_significand_of_distance hden hfinite (y := y)
    · exact_mod_cast h
    · intro heq
      apply hne
      rw [toRat, toRat, heq]

end Nearest

/-- An integer is rounded to a nearest number. -/
theorem isNearest_ofInt {i : Int} (hfinite : (ofInt i).isFinite = true) :
  (ofInt i).IsNearest i
  := by
  have hquotient : quotient (decide (i < 0)) i.natAbs 1 = i := by
    rw [quotient, Nat.cast_one, div_one, Nat.cast_natAbs]
    by_cases hi : i < 0
    · rw [decide_eq_true hi, if_pos rfl, abs_of_neg hi, Int.cast_neg, neg_neg]
    · rw [decide_eq_false hi, if_neg Bool.false_ne_true, abs_of_nonneg (not_lt.mp hi)]
  rw [← hquotient]
  apply isNearest_ofRatio Nat.one_pos hfinite

/-! ### The order of values -/

namespace IsNearest

/-- Rounding up does not pass a finite number. -/
theorem lt_of_toRat_lt (h : x.IsNearest q) (hy : y.isFinite = true) (hlt : x.toRat < y.toRat) :
  q < y.toRat
  := by
  by_contra hge
  have hle := h.le y hy
  rw [abs_of_nonpos (by linarith), abs_of_nonpos (by linarith)] at hle
  linarith

/-- Rounding down does not pass a finite number. -/
theorem toRat_lt_of_lt (h : x.IsNearest q) (hy : y.isFinite = true) (hlt : y.toRat < x.toRat) :
  y.toRat < q
  := by
  by_contra hge
  have hle := h.le y hy
  rw [abs_of_nonneg (by linarith), abs_of_nonneg (by linarith)] at hle
  linarith

end IsNearest

theorem units_pos (h : 0 < x.magnitude) :
  0 < x.units
  := Nat.zero_lt_of_lt (units_lt_units (x := zero) h)

theorem eq_negativeZero (hnegative : x.isNegative = true) (hmagnitude : x.magnitude = 0) :
  x = negativeZero
  := by
  apply eq_of_key_eq
  rw [key, hnegative, hmagnitude]
  rfl

theorem signedUnits_lt_signedUnits (hx : x ≠ negativeZero) (h : x.key < y.key) :
  x.signedUnits < y.signedUnits
  := by
  rw [key, key] at h
  rw [signedUnits, signedUnits]
  cases hxsign : x.isNegative with
  | false =>
      cases hysign : y.isNegative with
      | false =>
          simp only [hxsign, hysign, Bool.false_eq_true, if_false] at h ⊢
          exact_mod_cast units_lt_units (by exact_mod_cast h)
      | true =>
          simp only [hxsign, hysign, Bool.false_eq_true, if_false, if_true] at h
          omega
  | true =>
      cases hysign : y.isNegative with
      | false =>
          have hpos : 0 < x.units := by
            apply units_pos
            apply Nat.pos_of_ne_zero
            intro hmagnitude
            exact hx (eq_negativeZero hxsign hmagnitude)
          simp only [Bool.false_eq_true, if_false, if_true]
          omega
      | true =>
          simp only [hxsign, hysign, if_true] at h ⊢
          have hlt : y.units < x.units := units_lt_units (by omega)
          omega

theorem toRat_lt_toRat (hx : x ≠ negativeZero) (h : x.key < y.key) :
  x.toRat < y.toRat
  := by
  rw [toRat, toRat]
  apply div_lt_div_of_pos_right _ (by positivity)
  exact_mod_cast signedUnits_lt_signedUnits hx h

theorem toRat_le_toRat (hx : x ≠ negativeZero) (h : x.key ≤ y.key) :
  x.toRat ≤ y.toRat
  := by
  rcases Int.lt_or_eq_of_le h with h | h
  · apply (toRat_lt_toRat hx h).le
  · rw [eq_of_key_eq h]

/-- Numbers other than negative zero are ordered as their values are. -/
theorem totalCompare_eq_compare (hx : x ≠ negativeZero) (hy : y ≠ negativeZero) :
  x.totalCompare y = compare x.toRat y.toRat
  := by
  rw [totalCompare]
  rcases Int.lt_trichotomy x.key y.key with h | h | h
  · rw [Int.compare_eq_lt.mpr h, compare_lt_iff_lt.mpr (toRat_lt_toRat hx h)]
  · rw [Int.compare_eq_eq.mpr h, eq_of_key_eq h, compare_eq_iff_eq.mpr rfl]
  · rw [Int.compare_eq_gt.mpr h, compare_gt_iff_gt.mpr (toRat_lt_toRat hy h)]

/-! ### Integers -/

theorem roundDiv_mul_self (hden : 0 < den) (k : Nat) :
  roundDiv (k * den) den = k
  := by
  rw [roundDiv, Nat.mul_div_cancel _ hden, Nat.mul_mod_left, if_pos (by omega)]

/-- The number of an integer is an integer: up to a scale it is exact, and from there on all
numbers are integers. -/
theorem exists_units_ofInt {i : Int} (hfinite : (ofInt i).isFinite = true) :
  ∃ k, (ofInt i).units = k * 2 ^ unitExponent
  := by
  have hunits : (ofInt i).units = significandOver i.natAbs 1 * 2 ^ scaleOver i.natAbs 1 :=
    units_ofRatio hfinite
  rcases Nat.le_total (scaleOver i.natAbs 1) unitExponent with h | h
  · use i.natAbs
    have hexact : unitsOver i.natAbs
        = i.natAbs * 2 ^ (unitExponent - scaleOver i.natAbs 1) * 2 ^ scaleOver i.natAbs 1 := by
      rw [Nat.mul_assoc, ← Nat.pow_add, Nat.sub_add_cancel h, unitsOver]
    rw [hunits, significandOver, Nat.one_mul, hexact, roundDiv_mul_self (Nat.two_pow_pos _),
      ← hexact, unitsOver]
  · use significandOver i.natAbs 1 * 2 ^ (scaleOver i.natAbs 1 - unitExponent)
    rw [hunits, Nat.mul_assoc, ← Nat.pow_add, Nat.sub_add_cancel h]

theorem toRat_of_units (h : x.units = k * 2 ^ unitExponent) :
  x.toRat = (if x.isNegative then -(k : Int) else k : Int)
  := by
  rw [toRat, signedUnits, h]
  split
  · push_cast
    field_simp
  · push_cast
    field_simp

/-- A number that is a whole number of 64 bits is converted to it. -/
theorem toRat_eq_toInt64 (hfinite : x.isFinite = true) (h : x.units = k * 2 ^ unitExponent)
    (hlow : -2 ^ 63 ≤ x.toRat) (hhigh : x.toRat < 2 ^ 63) :
  x.toRat = (x.toInt64.toInt : ℚ)
  := by
  have hnan : x.isNaN = false := by
    rw [isFinite, decide_eq_true_eq] at hfinite
    rw [isNaN, decide_eq_false_iff_not]
    omega
  have hwhole : x.units / 2 ^ unitExponent = k := by
    rw [h, Nat.mul_div_cancel _ (Nat.two_pow_pos _)]
  rw [toRat_of_units h] at hlow hhigh ⊢
  rw [toInt64, hnan, hwhole]
  simp only [Bool.false_eq_true, if_false]
  congr 1
  split
  · next hsign =>
      rw [if_pos hsign] at hlow
      have hk : (k : Int) ≤ 2 ^ 63 := by
        have hk : -2 ^ 63 ≤ (-(k : Int)) := by exact_mod_cast hlow
        omega
      rw [Int64.toInt_ofInt_of_le]
      all_goals omega
  · next hsign =>
      rw [if_neg hsign] at hhigh
      have hk : (k : Int) < 2 ^ 63 := by exact_mod_cast hhigh
      rw [Int64.toInt_ofInt_of_le]
      all_goals omega

end AuditedStore.Binary64
