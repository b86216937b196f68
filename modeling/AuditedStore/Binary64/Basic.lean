import AuditedStore.Numeral

/-!
# Binary64 numbers

A binary64 number is its 64 bits: a sign, eleven bits of exponent and 52 bits of
fraction.  The bits without the sign are the magnitude; it grows with the absolute value,
so it is also the place of the number among the nonnegative ones.  A finite number is
`± significand * 2 ^ scale` in units of `2 ^ -1074`, and `units` is that integer.
-/

namespace AuditedStore

/-- A floating-point number, given by its bits. -/
structure Binary64 where
  bits : UInt64
deriving DecidableEq, Repr, Inhabited

namespace Binary64

/-- The magnitude of the infinities. -/
def infiniteMagnitude : Nat := 0x7ff * 2 ^ 52

/-- The exponent of the unit in which finite numbers are integers. -/
def unitExponent : Nat := 1074

/-- The number with the given sign and magnitude. -/
def ofMagnitude (negative : Bool) (magnitude : Nat) : Binary64 :=
  ⟨UInt64.ofNat (if negative then 2 ^ 63 + magnitude else magnitude)⟩

/-- Whether the sign bit is set. -/
def isNegative (x : Binary64) : Bool := 2 ^ 63 ≤ x.bits.toNat

/-- The bits without the sign. -/
def magnitude (x : Binary64) : Nat := x.bits.toNat % 2 ^ 63

/-- Neither infinite nor a NaN. -/
def isFinite (x : Binary64) : Bool := x.magnitude < infiniteMagnitude

/-- Whether the number is a NaN. -/
def isNaN (x : Binary64) : Bool := infiniteMagnitude < x.magnitude

/-- The exponent bits, less one when they are not all zero. -/
def scale (x : Binary64) : Nat := x.magnitude / 2 ^ 52 - 1

/-- The fraction bits, with the leading bit that subnormal numbers lack. -/
def significand (x : Binary64) : Nat := x.magnitude - x.scale * 2 ^ 52

/-- The absolute value of a finite number, in units of `2 ^ -1074`. -/
def units (x : Binary64) : Nat := x.significand * 2 ^ x.scale

/-- Positive zero. -/
def zero : Binary64 := ⟨0⟩

/-- The NaN without sign and payload. -/
def nan : Binary64 := ofMagnitude false (infiniteMagnitude + 2 ^ 51)

/-- The infinity of the given sign. -/
def infinity (negative : Bool) : Binary64 := ofMagnitude negative infiniteMagnitude

/-- A NaN of the given sign. -/
def signedNaN (negative : Bool) : Binary64 := ofMagnitude negative (infiniteMagnitude + 2 ^ 51)

end Binary64

end AuditedStore
