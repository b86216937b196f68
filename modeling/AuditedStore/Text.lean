/-!
# Text

Blank characters, trimming, cutting a text into pieces, and ASCII letter case.  A
character is blank when it has the Unicode property `White_Space`.  Each operation on
`String` is the operation of the same meaning on `List Char`, so that it can be
reasoned about by recursion on the characters.
-/

namespace AuditedStore.Text

/-- The characters with the Unicode property `White_Space`. -/
def isBlankChar (c : Char) : Bool :=
  let n := c.toNat
  (9 ≤ n && n ≤ 13) || n == 0x20 || n == 0x85 || n == 0xA0 || n == 0x1680
    || (0x2000 ≤ n && n ≤ 0x200A) || n == 0x2028 || n == 0x2029 || n == 0x202F
    || n == 0x205F || n == 0x3000

/-- The characters after the leading blank ones. -/
def trimLeft (cs : List Char) : List Char := cs.dropWhile isBlankChar

/-- The characters before the trailing blank ones. -/
def trimRight (cs : List Char) : List Char := (cs.reverse.dropWhile isBlankChar).reverse

/-- A text without the blank characters at its two ends. -/
def trim (s : String) : String := String.ofList (trimRight (trimLeft s.toList))

/-- A text is blank when all its characters are. -/
def isBlank (s : String) : Bool := s.toList.all isBlankChar

/-- The pieces of `cs` between the characters that satisfy `p`; there is one piece more
than there are such characters. -/
def pieces (p : Char → Bool) : List Char → List (List Char)
  | [] => [[]]
  | c :: cs =>
    if p c then [] :: pieces p cs
    else match pieces p cs with
      | [] => [[c]]
      | w :: ws => (c :: w) :: ws

theorem pieces_ne_nil (p : Char → Bool) (cs : List Char) :
  pieces p cs ≠ []
  := by
  cases cs with
  | nil => simp [pieces]
  | cons c cs =>
    unfold pieces
    split
    · simp
    · split <;> simp

/-- The pieces of a text between the occurrences of `sep`. -/
def split (sep : Char) (s : String) : List String :=
  (pieces (· == sep) s.toList).map String.ofList

/-- The longest runs of characters that are not blank. -/
def words (s : String) : List String :=
  ((pieces isBlankChar s.toList).filter (!·.isEmpty)).map String.ofList

/-- A text with its ASCII letters in lower case. -/
def asciiLower (s : String) : String := String.ofList (s.toList.map Char.toLower)

/-- Two texts that differ at most in the case of ASCII letters. -/
def sameIgnoringCase (s t : String) : Bool := asciiLower s == asciiLower t

/-- Reads a Boolean, in any letter case and with blanks around it. -/
def readBool? (s : String) : Option Bool :=
  let s := asciiLower (trim s)
  if s = "true" then some true else if s = "false" then some false else none

/-- Whether `s` begins with `front`. -/
def beginsWith (s front : String) : Bool := front.toList.isPrefixOf s.toList

/-- Whether `s` ends with `back`. -/
def endsWith (s back : String) : Bool := back.toList.isSuffixOf s.toList

/-- `s` without `back` at its end, if it ends so. -/
def dropEnd? (s back : String) : Option String :=
  if endsWith s back then
    some (String.ofList (s.toList.take (s.toList.length - back.toList.length)))
  else none

/-- What stands before and after the first occurrence of `mark` in `cs`. -/
def cutChars (mark : List Char) : List Char → Option (List Char × List Char)
  | [] => if mark.isEmpty then some ([], []) else none
  | c :: cs =>
    if mark.isPrefixOf (c :: cs) then some ([], (c :: cs).drop mark.length)
    else (cutChars mark cs).map fun (before, after) => (c :: before, after)

/-- What stands before and after the first occurrence of `mark` in `s`. -/
def cut (mark s : String) : Option (String × String) :=
  (cutChars mark.toList s.toList).map fun (before, after) =>
    (String.ofList before, String.ofList after)

/-- The value of a hexadecimal digit of either case. -/
def hexDigit? (c : Char) : Option Nat :=
  if '0' ≤ c ∧ c ≤ '9' then some (c.toNat - '0'.toNat)
  else if 'a' ≤ c ∧ c ≤ 'f' then some (c.toNat - 'a'.toNat + 10)
  else if 'A' ≤ c ∧ c ≤ 'F' then some (c.toNat - 'A'.toNat + 10)
  else none

end AuditedStore.Text
