/-!
# Decimal numerals

Writing natural numbers and integers in decimal and reading them back.  The digits of a
number have no leading zero; reading accepts leading zeros and, for integers, a sign.
-/

namespace AuditedStore

-- Where powers in monoids are in scope they would come first, and a limit such as `2 ^ 63`
-- would not be the same term in all modules.

/-- Powers of natural numbers. -/
@[default_instance 20000]
instance (priority := 2000) powNat : Pow Nat Nat := instPowNat

/-- Powers of integers. -/
@[default_instance 20000]
instance (priority := 2000) powInt : Pow Int Nat := instPowNat

namespace Numeral

/-- The decimal digit of `d < 10`. -/
def digitChar (d : Nat) : Char := Char.ofNat ('0'.toNat + d)

/-- Whether `c` is one of the ten ASCII digits. -/
def isDigit (c : Char) : Bool := '0' ≤ c && c ≤ '9'

/-- The value of an ASCII digit. -/
def digitValue (c : Char) : Nat := c.toNat - '0'.toNat

/-- The decimal digits of `n`, most significant first and without a leading zero. -/
def digits (n : Nat) : List Char :=
  if n < 10 then [digitChar n] else digits (n / 10) ++ [digitChar (n % 10)]
termination_by n
decreasing_by omega

/-- The number whose decimal digits are `cs`. -/
def value (cs : List Char) : Nat := cs.foldl (fun n c => 10 * n + digitValue c) 0

/-- Reads one or more digits. -/
def readNat? (cs : List Char) : Option Nat :=
  if !cs.isEmpty && cs.all isDigit then some (value cs) else none

/-- Reads an optional sign and one or more digits. -/
def readInt? : List Char → Option Int
  | '-' :: cs => (readNat? cs).map fun n => -(n : Int)
  | '+' :: cs => (readNat? cs).map fun n => (n : Int)
  | cs => (readNat? cs).map fun n => (n : Int)

/-- A natural number in decimal. -/
def ofNat (n : Nat) : String := String.ofList (digits n)

/-- An integer in decimal, with a minus sign if it is negative. -/
def ofInt (i : Int) : String :=
  if i < 0 then String.ofList ('-' :: digits i.natAbs) else ofNat i.natAbs

/-- `n` in decimal with zeros in front up to `width` digits. -/
def padded (width n : Nat) : String :=
  let ds := digits n
  String.ofList (List.replicate (width - ds.length) '0' ++ ds)

/-- Reads a signed decimal integer that fits 64 bits. -/
def readInt64? (s : String) : Option Int64 :=
  (readInt? s.toList).bind fun i =>
    if -2 ^ 63 ≤ i ∧ i < 2 ^ 63 then some (Int64.ofInt i) else none

end Numeral

end AuditedStore
