import AuditedStore.Text

/-!
# Tables of characters

Sets of characters as lists of ranges of code points, and partial maps between characters
as lists of runs.  Tables are written as text, in hexadecimal: a range is `41-5A` or a
single code point, a run gives its first and last code point, the step between them and
the image of the first.  The tables are those of version 16 of the Unicode standard; what
follows from other tables is computed from them.
-/

namespace AuditedStore.Unicode

/-- The number written by hexadecimal digits. -/
def hexValue (cs : List Char) : Nat :=
  cs.foldl (fun n c => 16 * n + (Text.hexDigit? c).getD 0) 0

/-- The words of a text, which blanks and ends of lines separate. -/
def tableWords (text : String) : List (List Char) :=
  (Text.pieces Text.isBlankChar text.toList).filter (!·.isEmpty)

/-- The rows of a text: words of hexadecimal numbers with colons between them. -/
def hexRows (text : String) : List (List Nat) :=
  (tableWords text).map fun word => (Text.pieces (· == ':') word).map hexValue

/-- The greatest code point. -/
def lastCodePoint : Nat := 0x10FFFF

/-- A set of characters as ranges of code points, both ends included. -/
structure RangeTable where
  ranges : List (Nat × Nat)
deriving Inhabited

namespace RangeTable

/-- Reads a table from its text. -/
def ofText (text : String) : RangeTable where
  ranges := (tableWords text).map fun word =>
    match Text.pieces (· == '-') word with
    | [first, last] => (hexValue first, hexValue last)
    | _ => (hexValue word, hexValue word)

/-- The table of the first numbers of rows. -/
def ofHeads (rows : List (List Nat)) : RangeTable where
  ranges := rows.filterMap fun row => row.head?.map fun n => (n, n)

/-- Whether a table has a character. -/
def contains (t : RangeTable) (c : Char) : Bool :=
  t.ranges.any fun (first, last) => first ≤ c.toNat && c.toNat ≤ last

/-- Joins ranges that overlap or touch, given in the order of their first code points
after a range from `first` to `last`. -/
def joinFrom (first last : Nat) : List (Nat × Nat) → List (Nat × Nat)
  | [] => [(first, last)]
  | (a, b) :: ranges =>
    if a ≤ last + 1 then joinFrom first (max last b) ranges
    else (first, last) :: joinFrom a b ranges

/-- Ranges in the order of their first code points. -/
def ascending (ranges : List (Nat × Nat)) : List (Nat × Nat) :=
  ranges.mergeSort fun r s => r.1 ≤ s.1

/-- The characters of any of the tables, with as few ranges as possible. -/
def unionAll (ts : List RangeTable) : RangeTable where
  ranges :=
    match ascending (ts.flatMap (·.ranges)) with
    | [] => []
    | (first, last) :: ranges => joinFrom first last ranges

/-- The code points from `next` on that are in none of the ranges, which are given in the
order of their first code points. -/
def gapsFrom (next : Nat) : List (Nat × Nat) → List (Nat × Nat)
  | [] => if next ≤ lastCodePoint then [(next, lastCodePoint)] else []
  | (first, last) :: ranges =>
    let gaps := gapsFrom (max next (last + 1)) ranges
    if next < first then (next, first - 1) :: gaps else gaps

/-- The characters that are not in a table. -/
def complement (t : RangeTable) : RangeTable where
  ranges := gapsFrom 0 (ascending t.ranges)

/-- The characters of `t` that are not in `u`. -/
def without (t u : RangeTable) : RangeTable := complement (unionAll [complement t, u])

/-- The table with a name that satisfies `p`, among tables under a short and a long name. -/
def named? (ts : List (String × String × RangeTable)) (p : String → Bool) : Option RangeTable :=
  (ts.find? fun (short, long, _) => p short || p long).map (·.2.2)

end RangeTable

/-- A run of code points at a fixed distance, mapped to code points at the same
distance. -/
structure CaseRun where
  first : Nat
  last : Nat
  step : Nat
  target : Nat

namespace CaseRun

/-- The run of a row of four numbers. -/
def ofRow? : List Nat → Option CaseRun
  | [first, last, step, target] => some ⟨first, last, step, target⟩
  | _ => none

/-- Reads runs from their text. -/
def listOfText (text : String) : List CaseRun := (hexRows text).filterMap ofRow?

/-- The code points of the run. -/
def codePoints (r : CaseRun) : List Nat :=
  List.range' r.first ((r.last - r.first) / r.step + 1) r.step

/-- The image of a code point of the run. -/
def image? (r : CaseRun) (n : Nat) : Option Nat :=
  if r.first ≤ n ∧ n ≤ r.last ∧ (n - r.first) % r.step = 0 then some (r.target + (n - r.first))
  else none

/-- The code point of the run with a given image. -/
def source? (r : CaseRun) (image : Nat) : Option Nat :=
  if r.target ≤ image ∧ (image - r.target) % r.step = 0 ∧ r.first + (image - r.target) ≤ r.last
  then some (r.first + (image - r.target)) else none

/-- The characters that runs map. -/
def sources (rs : List CaseRun) : RangeTable :=
  .unionAll [⟨rs.flatMap fun r => r.codePoints.map fun n => (n, n)⟩]

/-- The image of a character under the first run that has it, else the character. -/
def applyAll (rs : List CaseRun) (c : Char) : Char :=
  ((rs.findSome? (·.image? c.toNat)).map Char.ofNat).getD c

end CaseRun

end AuditedStore.Unicode
