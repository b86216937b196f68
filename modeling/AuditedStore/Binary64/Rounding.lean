import AuditedStore.Binary64.Basic

/-!
# Rounding to binary64

`roundDiv` rounds a quotient of natural numbers to the nearest integer, a half going to
the even neighbour.  `ofRatio` rounds a nonnegative quotient to the nearest binary64
number by rounding its significand so; `ofInt` and `ofDecimal` are special cases.
`toInt64` goes back to integers, toward zero.
-/

namespace AuditedStore.Binary64

/-- The integer nearest to `num / den`; of two nearest ones the even one. -/
def roundDiv (num den : Nat) : Nat :=
  let q := num / den
  let twice := 2 * (num % den)
  if twice < den then q
  else if den < twice then q + 1
  else if q % 2 = 0 then q else q + 1

/-- The scale at which a value of `t` whole units has at most 53 significant bits. -/
def scaleOf (t : Nat) : Nat := t.log2 - 52

/-- The magnitude of the number nearest to `num / den`.  Values beyond the largest finite
number have the magnitude of infinity. -/
def nearestMagnitude (num den : Nat) : Nat :=
  let n := num * 2 ^ unitExponent
  let s := scaleOf (n / den)
  min (s * 2 ^ 52 + roundDiv n (den * 2 ^ s)) infiniteMagnitude

/-- The number nearest to `± num / den`. -/
def ofRatio (negative : Bool) (num den : Nat) : Binary64 :=
  ofMagnitude negative (nearestMagnitude num den)

/-- The number nearest to an integer. -/
def ofInt (i : Int) : Binary64 := ofRatio (i < 0) i.natAbs 1

/-- Decimal exponents above this one give infinity, and those below its negative give
zero, whatever the first digit. -/
def decimalReach : Int := 400

/-- The number nearest to `± coefficient * 10 ^ exponent`. -/
def ofDecimal (negative : Bool) (coefficient : Nat) (exponent : Int) : Binary64 :=
  let width : Int := coefficient.log2 / 3 + 1
  if coefficient = 0 then ofMagnitude negative 0
  else if decimalReach < exponent + coefficient.log2 / 4 then infinity negative
  else if exponent + width < -decimalReach then ofMagnitude negative 0
  else if 0 ≤ exponent then ofRatio negative (coefficient * 10 ^ exponent.toNat) 1
  else ofRatio negative coefficient (10 ^ (-exponent).toNat)

/-- The integer part of a number, clamped to the range of 64-bit integers; a NaN gives
zero. -/
def toInt64 (x : Binary64) : Int64 :=
  if x.isNaN then 0
  else
    let whole := x.units / 2 ^ unitExponent
    if x.isNegative then Int64.ofInt (-(min whole (2 ^ 63) : Nat))
    else Int64.ofInt (min whole (2 ^ 63 - 1) : Nat)

end AuditedStore.Binary64
