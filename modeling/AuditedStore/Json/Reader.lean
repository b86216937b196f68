import AuditedStore.Binary64.Decimal
import AuditedStore.Json.Tree

/-!
# Reading JSON texts

`Json.read?` reads a text that is one JSON value with white space around it.  Members of an
object are kept as they stand, also when a name is repeated.  Numbers without fraction and
exponent that fit 64 bits are integers; a number beyond the range of binary64 becomes the
largest finite one.
-/

namespace AuditedStore.Json

/-- White space between the tokens of JSON. -/
def isSpace (c : Char) : Bool := c == ' ' || c == '\n' || c == '\t' || c == '\r'

/-- Skips white space. -/
def skipSpace (cs : List Char) : List Char := cs.dropWhile isSpace

/-- Reads four hexadecimal digits. -/
def readUnit? : List Char → Option (Nat × List Char)
  | a :: b :: c :: d :: cs => do
    let a ← Text.hexDigit? a
    let b ← Text.hexDigit? b
    let c ← Text.hexDigit? c
    let d ← Text.hexDigit? d
    pure (((a * 16 + b) * 16 + c) * 16 + d, cs)
  | _ => none

/-- Reads the character after `\u`; one beyond the first plane is written as two units. -/
def readUnicode? (cs : List Char) : Option (Char × List Char) := do
  let (high, cs) ← readUnit? cs
  if 0xD800 ≤ high ∧ high < 0xDC00 then
    match cs with
    | '\\' :: 'u' :: cs =>
      let (low, cs) ← readUnit? cs
      if 0xDC00 ≤ low ∧ low < 0xE000 then
        pure (Char.ofNat (0x10000 + (high - 0xD800) * 0x400 + (low - 0xDC00)), cs)
      else none
    | _ => none
  else if 0xDC00 ≤ high ∧ high < 0xE000 then none
  else pure (Char.ofNat high, cs)

/-- The character of an escape of one letter. -/
def escaped? : Char → Option Char
  | '"' => some '"'
  | '\\' => some '\\'
  | '/' => some '/'
  | 'b' => some '\x08'
  | 'f' => some '\x0c'
  | 'n' => some '\n'
  | 'r' => some '\r'
  | 't' => some '\t'
  | _ => none

/-- Reads a text after its opening quote. -/
def readString? (read : List Char) : (fuel : Nat) → List Char → Option (String × List Char)
  | 0, _ => none
  | _ + 1, [] => none
  | _ + 1, '"' :: cs => some (String.ofList read.reverse, cs)
  | fuel + 1, '\\' :: 'u' :: cs =>
    (readUnicode? cs).bind fun (c, cs) => readString? (c :: read) fuel cs
  | fuel + 1, '\\' :: c :: cs => (escaped? c).bind fun c => readString? (c :: read) fuel cs
  | fuel + 1, c :: cs => if c.toNat < 0x20 then none else readString? (c :: read) fuel cs

/-- The finite number nearest to a decimal one. -/
def finiteNumber (negative : Bool) (coefficient : Nat) (exponent : Int) : Number :=
  let x := Binary64.ofDecimal negative coefficient exponent
  if h : x.isFinite = true then .fraction x h
  else if negative then .fraction ⟨0xFFEFFFFFFFFFFFFF⟩ (by decide)
  else .fraction ⟨0x7FEFFFFFFFFFFFFF⟩ (by decide)

/-- Reads the digits of an integer: zero, or digits of which the first is not zero. -/
def readWhole? (cs : List Char) : Option (List Char × List Char) :=
  match cs with
  | '0' :: cs => some (['0'], cs)
  | cs =>
    let ds := cs.takeWhile Numeral.isDigit
    if ds.isEmpty then none else some (ds, cs.dropWhile Numeral.isDigit)

/-- Reads one or more digits. -/
def readDigits? (cs : List Char) : Option (List Char × List Char) :=
  let ds := cs.takeWhile Numeral.isDigit
  if ds.isEmpty then none else some (ds, cs.dropWhile Numeral.isDigit)

/-- Reads an exponent, if there is one. -/
def readExponent? : List Char → Option (Option Int × List Char)
  | c :: cs =>
    if c == 'e' || c == 'E' then do
      let (negative, cs) := match cs with
        | '-' :: cs => (true, cs)
        | '+' :: cs => (false, cs)
        | cs => (false, cs)
      let (ds, cs) ← readDigits? cs
      let n : Int := Numeral.value ds
      pure (some (if negative then -n else n), cs)
    else some (none, c :: cs)
  | [] => some (none, [])

/-- Reads a fraction, if there is one. -/
def readFraction? : List Char → Option (Option (List Char) × List Char)
  | '.' :: cs => (readDigits? cs).map fun (ds, cs) => (some ds, cs)
  | cs => some (none, cs)

/-- Reads a number. -/
def readNumber? (cs : List Char) : Option (Number × List Char) := do
  let (negative, cs) := match cs with
    | '-' :: cs => (true, cs)
    | cs => (false, cs)
  let (whole, cs) ← readWhole? cs
  let (fraction, cs) ← readFraction? cs
  let (exponent, cs) ← readExponent? cs
  let digits := whole ++ fraction.getD []
  let n := Numeral.value digits
  let inexact := finiteNumber negative n (exponent.getD 0 - (fraction.getD []).length)
  if fraction.isNone && exponent.isNone && !(negative && n == 0) then
    pure ((Number.ofInt? (if negative then -(n : Int) else n)).getD inexact, cs)
  else pure (inexact, cs)

mutual

/-- Reads a value. -/
def readTree? : (fuel : Nat) → List Char → Option (Tree × List Char)
  | 0, _ => none
  | fuel + 1, cs =>
    match skipSpace cs with
    | [] => none
    | 'n' :: 'u' :: 'l' :: 'l' :: cs => some (.null, cs)
    | 't' :: 'r' :: 'u' :: 'e' :: cs => some (.bool true, cs)
    | 'f' :: 'a' :: 'l' :: 's' :: 'e' :: cs => some (.bool false, cs)
    | '"' :: cs => (readString? [] (cs.length + 1) cs).map fun (s, cs) => (.string s, cs)
    | '[' :: cs =>
      match skipSpace cs with
      | ']' :: cs => some (.array [], cs)
      | cs => (readItems? fuel cs).map fun (ts, cs) => (.array ts, cs)
    | '\x7b' :: cs =>
      match skipSpace cs with
      | '\x7d' :: cs => some (.object [], cs)
      | cs => (readMembers? fuel cs).map fun (es, cs) => (.object es, cs)
    | cs => (readNumber? cs).map fun (n, cs) => (.number n, cs)

/-- Reads the items of an array up to its closing bracket. -/
def readItems? : (fuel : Nat) → List Char → Option (List Tree × List Char)
  | 0, _ => none
  | fuel + 1, cs => do
    let (t, cs) ← readTree? fuel cs
    match skipSpace cs with
    | ',' :: cs => (readItems? fuel cs).map fun (ts, cs) => (t :: ts, cs)
    | ']' :: cs => some ([t], cs)
    | _ => none

/-- Reads the members of an object up to its closing brace. -/
def readMembers? : (fuel : Nat) → List Char → Option (List (String × Tree) × List Char)
  | 0, _ => none
  | fuel + 1, cs =>
    match skipSpace cs with
    | '"' :: cs => do
      let (name, cs) ← readString? [] (cs.length + 1) cs
      match skipSpace cs with
      | ':' :: cs =>
        let (t, cs) ← readTree? fuel cs
        match skipSpace cs with
        | ',' :: cs => (readMembers? fuel cs).map fun (es, cs) => ((name, t) :: es, cs)
        | '\x7d' :: cs => some ([(name, t)], cs)
        | _ => none
      | _ => none
    | _ => none

end

/-- Reads a text that is one JSON value. -/
def read? (text : String) : Option Tree :=
  let cs := text.toList
  match readTree? (cs.length + 1) cs with
  | some (t, rest) => if (skipSpace rest).isEmpty then some t else none
  | none => none

end AuditedStore.Json
