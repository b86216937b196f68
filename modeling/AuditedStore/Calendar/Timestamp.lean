import AuditedStore.Calendar.Instant
import AuditedStore.Text

/-!
# Timestamps

The text of an instant is its date, the letter `T`, its time of day with as many of three,
six or nine decimals as it needs, and the mark of universal time.  Reading also accepts a
blank for the `T`, blanks around numbers, numbers of fewer digits, and an offset from
universal time, which is subtracted.
-/

namespace AuditedStore.Instant

/-! ### Writing -/

/-- A year: four digits, or a sign and at least four digits beyond that range. -/
def yearText (year : Int) : String :=
  if 0 ≤ year ∧ year ≤ 9999 then Numeral.padded 4 year.toNat
  else if year < 0 then "-" ++ Numeral.padded 4 year.natAbs
  else "+" ++ Numeral.padded 4 year.natAbs

/-- The decimals of a second. -/
def fractionText (nanos : Nat) : String :=
  if nanos = 0 then ""
  else if nanos % 1000000 = 0 then "." ++ Numeral.padded 3 (nanos / 1000000)
  else if nanos % 1000 = 0 then "." ++ Numeral.padded 6 (nanos / 1000)
  else "." ++ Numeral.padded 9 nanos

/-- The text of a date. -/
def dateText (d : Date) : String :=
  yearText d.year ++ "-" ++ Numeral.padded 2 d.month ++ "-" ++ Numeral.padded 2 d.day

/-- The text of a time of day; within a leap second the second is one more. -/
def timeText (second nanos : Nat) : String :=
  let carry := nanos / nanosPerSecond
  Numeral.padded 2 (second / 3600) ++ ":" ++ Numeral.padded 2 (second / 60 % 60) ++ ":"
    ++ Numeral.padded 2 (second % 60 + carry) ++ fractionText (nanos % nanosPerSecond)

/-- The text of an instant before the mark of universal time. -/
def clockText (t : Instant) : String := dateText t.date ++ "T" ++ timeText t.secondOfDay t.nanos

/-- The text of an instant. -/
def toText (t : Instant) : String := t.clockText ++ "Z"

/-- The text of an instant with a numeric offset of zero. -/
def toOffsetText (t : Instant) : String := t.clockText ++ "+00:00"

/-! ### Reading -/

/-- Reads one to `most` digits. -/
def readDigits? (most : Nat) (cs : List Char) : Option (Nat × List Char) :=
  let ds := (cs.take most).takeWhile Numeral.isDigit
  if ds.isEmpty then none else some (Numeral.value ds, cs.drop ds.length)

/-- Reads a number of one or two digits in a range, after blanks. -/
def readPart? (least most : Nat) (cs : List Char) : Option (Nat × List Char) := do
  let (n, cs) ← readDigits? 2 (Text.trimLeft cs)
  if least ≤ n ∧ n ≤ most then pure (n, cs) else none

/-- The largest and smallest years that can be read. -/
def yearLimit : Nat := 2 ^ 31

/-- Reads a year: up to four digits, or any number of them after a sign. -/
def readYear? (cs : List Char) : Option (Int × List Char) := do
  let (y, cs) ← match Text.trimLeft cs with
    | '-' :: cs => (readDigits? cs.length cs).map fun (n, cs) => (-(n : Int), cs)
    | '+' :: cs => (readDigits? cs.length cs).map fun (n, cs) => ((n : Int), cs)
    | cs => (readDigits? 4 cs).map fun (n, cs) => ((n : Int), cs)
  if y.natAbs < yearLimit then pure (y, cs) else none

/-- Reads a mark, after blanks. -/
def readMark? (mark : Char) (cs : List Char) : Option (List Char) :=
  match Text.trimLeft cs with
  | c :: cs => if c = mark then some cs else none
  | [] => none

/-- Reads the decimals of a second, of which nine count. -/
def readFraction? : List Char → Option (Nat × List Char)
  | '.' :: cs => do
    let (n, _) ← readDigits? 9 cs
    let width := ((cs.take 9).takeWhile Numeral.isDigit).length
    pure (n * 10 ^ (9 - width), cs.dropWhile Numeral.isDigit)
  | cs => some (0, cs)

/-- Reads the digits of an offset: two for hours, two for minutes, with colons or blanks
between them. -/
def readOffsetDigits? (cs : List Char) : Option (Int × List Char) :=
  match cs with
  | a :: b :: cs =>
    match cs.dropWhile fun c => c == ':' || Text.isBlankChar c with
    | c :: d :: cs =>
      if Numeral.isDigit a && Numeral.isDigit b && Numeral.isDigit c && Numeral.isDigit d
        && c < '6'
      then
        let hours := Numeral.value [a, b]
        let minutes := Numeral.value [c, d]
        some ((hours * 3600 + minutes * 60 : Nat), cs)
      else none
    | _ => none
  | _ => none

/-- Reads an offset from universal time, in seconds. -/
def readOffset? (cs : List Char) : Option (Int × List Char) :=
  if (cs.take 3).map Char.toUpper == ['U', 'T', 'C'] then some (0, cs.drop 3)
  else match cs with
    | 'Z' :: cs => some (0, cs)
    | 'z' :: cs => some (0, cs)
    | '+' :: cs => readOffsetDigits? cs
    | '-' :: cs => (readOffsetDigits? cs).map fun (n, cs) => (-n, cs)
    | '\u2212' :: cs => (readOffsetDigits? cs).map fun (n, cs) => (-n, cs)
    | _ => none

/-- The years that instants may have. -/
def isYearInRange (year : Int) : Bool := -262143 ≤ year && year ≤ 262142

/-- The instant of a date and time of day; a sixtieth second is the leap second after the
one before it. -/
def ofParts? (d : Date) (hour minute second nanos : Nat) (offset : Int) : Option Instant :=
  if d.isValid && isYearInRange d.year && offset.natAbs < secondsPerDay.toNat then
    let leap := second / 60
    let t : Instant :=
      { seconds := d.toDays * secondsPerDay + hour * 3600 + minute * 60 + (second - leap) - offset
        nanos := nanos + leap * nanosPerSecond }
    if isYearInRange t.date.year then some t else none
  else none

/-- Reads an instant. -/
def read? (s : String) : Option Instant := do
  let (year, cs) ← readYear? s.toList
  let cs ← readMark? '-' cs
  let (month, cs) ← readPart? 1 12 cs
  let cs ← readMark? '-' cs
  let (day, cs) ← readPart? 1 31 cs
  let cs ← match cs with
    | c :: cs => if c == 'T' || c == 't' || c == ' ' then some cs else none
    | [] => none
  let (hour, cs) ← readPart? 0 23 cs
  let cs ← readMark? ':' cs
  let (minute, cs) ← readPart? 0 59 cs
  let cs ← readMark? ':' cs
  let (second, cs) ← readPart? 0 60 cs
  let (nanos, cs) ← readFraction? cs
  let (offset, cs) ← readOffset? (Text.trimLeft cs)
  if cs.all Text.isBlankChar then ofParts? ⟨year, month, day⟩ hour minute second nanos offset
  else none

end AuditedStore.Instant
