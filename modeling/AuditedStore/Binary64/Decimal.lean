import AuditedStore.Binary64.Rounding
import AuditedStore.Numeral
import AuditedStore.Text

/-!
# Decimal text of binary64 numbers

`shortest` gives the fewest decimal digits that round back to a number, and of those the
nearest to it; `toText` writes them positionally, without an exponent and without a
fraction for integers.  `read?` reads decimal text with an optional sign, fraction and
exponent, and the names of infinity and NaN in any letter case, rounding to nearest.
-/

namespace AuditedStore.Binary64

/-- The reals that round to a finite number, in quarters of a unit, and whether the two
ends belong to them. -/
structure RoundingRange where
  value : Nat
  low : Nat
  high : Nat
  closed : Bool

/-- The rounding range of a finite number other than zero.  Below a power of two the
neighbour is half as far as above. -/
def roundingRange (x : Binary64) : RoundingRange where
  value := 4 * x.units
  low := 4 * x.units - (if x.significand = 2 ^ 52 then 1 else 2) * 2 ^ x.scale
  high := 4 * x.units + 2 * 2 ^ x.scale
  closed := x.significand % 2 = 0

/-- Whether `num / den` quarters of a unit lie in the range. -/
def RoundingRange.contains (r : RoundingRange) (num den : Nat) : Bool :=
  if r.closed then r.low * den ≤ num && num ≤ r.high * den
  else r.low * den < num && num < r.high * den

/-- The denominator of a quarter of a unit. -/
def quarterDenominator : Nat := 2 ^ (unitExponent + 2)

/-- The least `n` with `den ≤ num * 10 ^ n`, or `fuel`. -/
def placesBelowOne (num den : Nat) : Nat → Nat
  | 0 => 0
  | fuel + 1 => if den ≤ num then 0 else placesBelowOne (num * 10) den fuel + 1

/-- The number of digits before the point of `num / den`; zero or less when the value is
below one, where it is the negated number of zeros after the point. -/
def pointPosition (num den : Nat) : Int :=
  if den ≤ num then (Numeral.digits (num / den)).length
  else 1 - (placesBelowOne num den 400 : Int)

/-- The multiple of `10 ^ exponent` nearest to `num / den` that `accepts` lets pass, as the
factor; of two equally near ones the upper. -/
def nearestOnGrid (accepts : Nat → Bool) (num den : Nat) (exponent : Int) : Option Nat :=
  let n := num * 10 ^ (-exponent).toNat
  let d := den * 10 ^ exponent.toNat
  let q := n / d
  match accepts q, accepts (q + 1) with
  | true, true => some (if 2 * (n % d) < d then q else q + 1)
  | true, false => some q
  | false, true => some (q + 1)
  | false, false => none

/-- The first grid of at least `count` digits that has an accepted multiple. -/
def firstGrid (r : RoundingRange) (point : Int) : (count fuel : Nat) → Option (Nat × Int)
  | _, 0 => none
  | count, fuel + 1 =>
    let exponent := point - count
    let accepts (q : Nat) :=
      r.contains (q * 10 ^ exponent.toNat * quarterDenominator) (10 ^ (-exponent).toNat)
    match nearestOnGrid accepts r.value quarterDenominator exponent with
    | some q => some (q, exponent)
    | none => firstGrid r point (count + 1) fuel

/-- The shortest decimal `q * 10 ^ exponent` that rounds to a finite number. -/
def shortest (x : Binary64) : Nat × Int :=
  if x.magnitude = 0 then (0, 0)
  else
    let r := x.roundingRange
    (firstGrid r (pointPosition r.value quarterDenominator) 1 20).getD (0, 0)

/-- The text of `q * 10 ^ exponent` without exponent and without needless zeros. -/
def positional (q : Nat) (exponent : Int) : List Char :=
  let ds := Numeral.digits q
  if 0 ≤ exponent then
    if q = 0 then ds else ds ++ List.replicate exponent.toNat '0'
  else
    let places := (-exponent).toNat
    let ds := List.replicate (places + 1 - ds.length) '0' ++ ds
    let whole := ds.take (ds.length - places)
    let fraction := ((ds.drop (ds.length - places)).reverse.dropWhile (· == '0')).reverse
    if fraction.isEmpty then whole else whole ++ '.' :: fraction

/-- The text of a number. -/
def toText (x : Binary64) : String :=
  if x.isNaN then "NaN"
  else
    let body := if x.isFinite then positional x.shortest.1 x.shortest.2 else ['i', 'n', 'f']
    String.ofList (if x.isNegative then '-' :: body else body)

/-- Reads the exponent after a coefficient, if there is one. -/
def readExponent? : List Char → Option Int
  | [] => some 0
  | c :: cs => if c == 'e' || c == 'E' then Numeral.readInt? cs else none

/-- Reads digits with an optional point and exponent; at least one digit stands before the
exponent. -/
def readUnsigned? (negative : Bool) (cs : List Char) : Option Binary64 :=
  let whole := cs.takeWhile Numeral.isDigit
  let rest := cs.dropWhile Numeral.isDigit
  let (fraction, rest) := match rest with
    | '.' :: rest => (rest.takeWhile Numeral.isDigit, rest.dropWhile Numeral.isDigit)
    | rest => ([], rest)
  if whole.isEmpty && fraction.isEmpty then none
  else (readExponent? rest).map fun exponent =>
    ofDecimal negative (Numeral.value (whole ++ fraction)) (exponent - fraction.length)

/-- Reads a number without its sign. -/
def readBody? (negative : Bool) (cs : List Char) : Option Binary64 :=
  let name := String.ofList (cs.map Char.toLower)
  if name == "inf" || name == "infinity" then some (infinity negative)
  else if name == "nan" then some (signedNaN negative)
  else readUnsigned? negative cs

/-- Reads a number from decimal text. -/
def read? (s : String) : Option Binary64 :=
  match s.toList with
  | '-' :: cs => readBody? true cs
  | '+' :: cs => readBody? false cs
  | cs => readBody? false cs

end AuditedStore.Binary64
