import AuditedStore.Binary64.Basic

/-!
# The total order of binary64 numbers

All bit patterns are ordered by their key: numbers with a sign bit stand below those
without, larger magnitudes stand further out.  So `-0` is below `0`, and NaNs stand beyond
the infinities of their sign.  Two numbers have the same key only if they have the same
bits.
-/

namespace AuditedStore.Binary64

/-- The place of a number in the total order. -/
def key (x : Binary64) : Int :=
  if x.isNegative then -(x.magnitude : Int) - 1 else x.magnitude

/-- Compares two numbers in the total order. -/
def totalCompare (x y : Binary64) : Ordering := compare x.key y.key

/-- The key of a number determines its bits. -/
theorem eq_of_key_eq {x y : Binary64} (h : x.key = y.key) :
  x = y
  := by
  have hx := x.bits.toNat_lt
  have hy := y.bits.toNat_lt
  have : x.bits.toNat = y.bits.toNat := by
    unfold key isNegative magnitude at h
    simp only [decide_eq_true_eq] at h
    omega
  cases x; cases y
  simp_all [UInt64.toNat_inj]

end AuditedStore.Binary64
