import AuditedStore.Unicode.Age
import AuditedStore.Unicode.Segmentation

/-!
# Character classes

A character class is an expression for a set of characters, and `CharClass.contains` is its
meaning.  Closing a class under letter case is an operation of the expression: `folded r`
holds the characters with a case variant in `r`.  Classes are named by the Unicode general
categories, scripts and binary properties, and by the values of ages, of script extensions and
of the properties of segmentation.  Names are read without regard to letter case, spaces,
hyphens, underscores and a leading `is`.
-/

namespace AuditedStore.Pattern

/-- An expression for a set of characters. -/
inductive CharClass where
  | range (first last : Char)
  | table (t : Unicode.RangeTable)
  | union (r s : CharClass)
  | intersection (r s : CharClass)
  | complement (r : CharClass)
  | folded (r : CharClass)
  | asciiFolded (r : CharClass)

namespace CharClass

/-- The other case of an ASCII letter, and other characters themselves. -/
def asciiOtherCase (c : Char) : Char := if c.isLower then c.toUpper else c.toLower

/-- The meaning of a class. -/
def contains : CharClass → Char → Bool
  | range first last, c => first ≤ c && c ≤ last
  | table t, c => t.contains c
  | union r s, c => r.contains c || s.contains c
  | intersection r s, c => r.contains c && s.contains c
  | complement r, c => !r.contains c
  | folded r, c => (Unicode.caseVariants c).any r.contains
  | asciiFolded r, c => r.contains c || r.contains (asciiOtherCase c)

/-- The class of one character. -/
def single (c : Char) : CharClass := range c c

/-- The class without characters. -/
def empty : CharClass := range 'b' 'a'

/-- The class of all characters. -/
def any : CharClass := complement empty

/-- The characters of `r` that are not in `s`. -/
def difference (r s : CharClass) : CharClass := intersection r (complement s)

/-- The characters of exactly one of the two classes. -/
def symmetricDifference (r s : CharClass) : CharClass :=
  union (difference r s) (difference s r)

/-- The characters of any of the classes. -/
def unionAll : List CharClass → CharClass
  | [] => empty
  | [r] => r
  | r :: rs => union r (unionAll rs)

/-- The complement when `negated` is set. -/
def negatedIf (negated : Bool) (r : CharClass) : CharClass :=
  if negated then complement r else r

/-- Whether a class of bytes holds ASCII characters only. -/
def isAscii (r : CharClass) : Bool :=
  (List.range 128).all fun i => !r.contains (Char.ofNat (128 + i))

/-- The characters with the same simple case folding as `c`. -/
def anyCase (c : Char) : CharClass :=
  unionAll ((c :: (Unicode.caseVariants c).filter (· != c)).map single)

/-- An estimate of the space that a class takes in a compiled pattern. -/
def weight : CharClass → Nat
  | range _ last => if last.toNat < 128 then 8 else 60
  | table t => 63 * t.ranges.length
  | union r s => r.weight + s.weight
  | intersection r s => r.weight + s.weight
  | complement r => 900 + r.weight
  | folded r => r.weight
  | asciiFolded r => r.weight

/-! ### Named classes -/

/-- The decimal digits of all scripts. -/
def decimalDigit : CharClass := table Unicode.Category.decimalNumber

/-- The white space characters. -/
def whiteSpace : CharClass := table Unicode.Property.whiteSpace

/-- The characters of words: letters, marks, decimal digits, connectors and joiners. -/
def word : CharClass :=
  table <| .unionAll
    [ Unicode.Property.alphabetic, Unicode.Category.nonspacingMark,
      Unicode.Category.spacingMark, Unicode.Category.enclosingMark,
      Unicode.Category.decimalNumber, Unicode.Category.connectorPunctuation,
      Unicode.Property.joinControl ]

/-- The ASCII decimal digits. -/
def asciiDigit : CharClass := range '0' '9'

/-- The ASCII letters. -/
def asciiLetter : CharClass := union (range 'a' 'z') (range 'A' 'Z')

/-- The ASCII white space characters. -/
def asciiSpace : CharClass := union (range '\t' '\r') (single ' ')

/-- The ASCII letters, digits and the underscore. -/
def asciiWord : CharClass := unionAll [asciiLetter, asciiDigit, single '_']

/-- The classes with a name between `[:` and `:]`. -/
def posix? : String → Option CharClass
  | "alnum" => some (union asciiLetter asciiDigit)
  | "alpha" => some asciiLetter
  | "ascii" => some (range '\x00' '\x7f')
  | "blank" => some (union (single '\t') (single ' '))
  | "cntrl" => some (union (range '\x00' '\x1f') (single '\x7f'))
  | "digit" => some asciiDigit
  | "graph" => some (range '!' '~')
  | "lower" => some (range 'a' 'z')
  | "print" => some (range ' ' '~')
  | "punct" => some (unionAll [range '!' '/', range ':' '@', range '[' '\x60', range '\x7b' '~'])
  | "space" => some asciiSpace
  | "upper" => some (range 'A' 'Z')
  | "word" => some asciiWord
  | "xdigit" => some (unionAll [asciiDigit, range 'A' 'F', range 'a' 'f'])
  | _ => none

/-- The form in which names of properties are compared. -/
def looseName (name : String) : String :=
  let significant (cs : List Char) :=
    (cs.filter fun c => c.toNat < 128 && !(c == ' ' || c == '_' || c == '-')).map Char.toLower
  match name.toList with
  | a :: b :: rest =>
    if a.toLower == 'i' && b.toLower == 's' then
      if significant rest == ['c'] then "isc" else String.ofList (significant rest)
    else String.ofList (significant (a :: b :: rest))
  | cs => String.ofList (significant cs)

/-- The class with a loose name, among tables under a short and a long name. -/
def among? (ts : List (String × String × Unicode.RangeTable)) (name : String) :
    Option CharClass :=
  (Unicode.RangeTable.named? ts fun n => looseName n == name).map table

/-- The groups of general categories: short name, long name and members. -/
def categoryGroups : List (String × String × List String) :=
  [ ("C", "Other", ["Cc", "Cf", "Co"]),
    ("L", "Letter", ["Lu", "Ll", "Lt", "Lm", "Lo"]),
    ("LC", "Cased_Letter", ["Lu", "Ll", "Lt"]),
    ("M", "Mark", ["Mn", "Mc", "Me"]),
    ("N", "Number", ["Nd", "Nl", "No"]),
    ("P", "Punctuation", ["Pc", "Pd", "Ps", "Pe", "Pi", "Pf", "Po"]),
    ("S", "Symbol", ["Sm", "Sc", "Sk", "So"]),
    ("Z", "Separator", ["Zs", "Zl", "Zp"]) ]

/-- The characters with a general category. -/
def assigned : CharClass := table (.unionAll (Unicode.Category.all.map fun (_, _, t) => t))

/-- The characters without a general category. -/
def unassigned : CharClass := complement assigned

/-- Further names of general categories. -/
def categoryAlias : String → String
  | "cntrl" => "cc"
  | "digit" => "nd"
  | "punct" => "p"
  | "combiningmark" => "m"
  | name => name

/-- The general category, or group of them, with a loose name. -/
def category? (name : String) : Option CharClass :=
  let name := categoryAlias name
  let named (n : String) := looseName n == name
  if name == "any" then some any
  else if name == "ascii" then some (range '\x00' '\x7f')
  else if name == "assigned" then some assigned
  else if name == "cn" || name == "unassigned" then some unassigned
  else match categoryGroups.find? fun (short, long, _) => named short || named long with
    | some (short, _, members) =>
      let r := table <| .unionAll <| members.filterMap fun m =>
        Unicode.RangeTable.named? Unicode.Category.all (· == m)
      some (if short == "C" then union unassigned r else r)
    | none => among? Unicode.Category.all name

/-- Further names of scripts. -/
def scriptAlias : String → String
  | "qaac" => "coptic"
  | "qaai" => "inherited"
  | name => name

/-- The script with a loose name. -/
def script? (name : String) : Option CharClass :=
  (Unicode.Script.find? fun n => looseName n == scriptAlias name).map table

/-- The characters that the script with a loose name uses. -/
def scriptExtension? (name : String) : Option CharClass :=
  (Unicode.Script.extended? fun n => looseName n == scriptAlias name).map table

/-- Further names of binary properties. -/
def propertyAlias : String → String
  | "space" => "whitespace"
  | name => name

/-- The binary property with a loose name. -/
def property? (name : String) : Option CharClass :=
  let name := propertyAlias name
  among? Unicode.Property.all name <|> among? Unicode.Property.derived name

/-- The class named by a property, a general category or a script. -/
def named? (name : String) : Option CharClass :=
  let name := looseName name
  property? name <|> category? name <|> script? name

/-- The class of a value of a property. -/
def valued? (property value : String) : Option CharClass :=
  let value := looseName value
  match looseName property with
  | "gc" | "generalcategory" | "category" => category? value
  | "sc" | "script" => script? value
  | "scx" | "scriptextensions" => scriptExtension? value
  | "age" => (Unicode.Age.upTo? fun n => looseName n == value).map table
  | "gcb" | "graphemeclusterbreak" => among? Unicode.GraphemeBreak.all value
  | "wb" | "wordbreak" => among? Unicode.WordBreak.all value
  | "sb" | "sentencebreak" => among? Unicode.SentenceBreak.all value
  | _ => none

end CharClass

end AuditedStore.Pattern
