import AuditedStore.Unicode.DerivedProperty
import AuditedStore.Unicode.Script

/-!
# Segmentation

The values of the properties by which texts are divided into grapheme clusters, words and
sentences.  Most are general categories or binary properties with a few exceptions.
-/

namespace AuditedStore.Unicode

/-! ### Grapheme clusters -/

namespace GraphemeBreak

/-- The characters with the value `Control`. -/
def control : RangeTable := .ofText
  "0-9 B-C E-1F 7F-9F AD 61C 180E 200B 200E-200F 2028-202E 2060-206F FEFF FFF0-FFFB
  13430-1343F 1BCA0-1BCA3 1D173-1D17A E0000-E001F E0080-E00FF E01F0-E0FFF"

/-- The characters with the value `Extend`. -/
def extend : RangeTable := .unionAll [Property.graphemeExtend, Property.emojiModifier]

/-- The characters with the value `Prepend`. -/
def prepend : RangeTable := .ofText
  "600-605 6DD 70F 890-891 8E2 D4E 110BD 110CD 111C2-111C3 113D1 1193F 11941 11A84-11A89 11D46
  11F02"

/-- The characters with the value `SpacingMark`. -/
def spacingMark : RangeTable := .unionAll
  [ Category.spacingMark.without <| .unionAll
    [ Property.graphemeExtend, .ofText
        "102B-102C 1038 1062-1064 1067-106D 1083 1087-108C 108F 109A-109C 1A61 1A63-1A64 AA7B
        AA7D 11720-11721" ],
    .ofText "E33 EB3" ]

/-- The Hangul syllables of a leading consonant and a vowel, which are the first of 28 each. -/
def syllable : RangeTable where
  ranges := (List.range 399).map fun i => (0xAC00 + 28 * i, 0xAC00 + 28 * i)

/-- The Hangul syllables that end in a consonant. -/
def closedSyllable : RangeTable := (RangeTable.ofText "AC00-D7A3").without syllable

/-- The tables under the short and the long name of their value. -/
def all : List (String × String × RangeTable) :=
  [ ("CN", "Control", control),
    ("CR", "CR", .ofText "D"),
    ("EX", "Extend", extend),
    ("L", "L", .ofText "1100-115F A960-A97C"),
    ("LF", "LF", .ofText "A"),
    ("LV", "LV", syllable),
    ("LVT", "LVT", closedSyllable),
    ("PP", "Prepend", prepend),
    ("RI", "Regional_Indicator", Property.regionalIndicator),
    ("SM", "SpacingMark", spacingMark),
    ("T", "T", .ofText "11A8-11FF D7CB-D7FB"),
    ("V", "V", .ofText "1160-11A7 D7B0-D7C6 16D63 16D67-16D6A"),
    ("ZWJ", "ZWJ", .ofText "200D") ]

end GraphemeBreak

/-! ### Words -/

namespace WordBreak

/-- The characters of the script with a short name. -/
def script (short : String) : RangeTable := (Script.find? (· == short)).getD ⟨[]⟩

/-- The characters with the value `Extend`. -/
def extend : RangeTable :=
  .unionAll [Property.graphemeExtend, Category.spacingMark, Property.emojiModifier]

/-- The characters with the value `Format`. -/
def format : RangeTable := .ofText
  "AD 61C 180E 200E-200F 202A-202E 2060-2064 2066-206F FEFF FFF9-FFFB 13430-1343F 1BCA0-1BCA3
  1D173-1D17A E0001"

/-- The characters with the value `Hebrew_Letter`. -/
def hebrewLetter : RangeTable :=
  Category.otherLetter.without (script "Hebr").complement

/-- The characters with the value `Katakana`. -/
def katakana : RangeTable := .ofText
  "3031-3035 309B-309C 30A0-30FA 30FC-30FF 31F0-31FF 32D0-32FE 3300-3357 FF66-FF9D 1AFF0-1AFF3
  1AFF5-1AFFB 1AFFD-1AFFE 1B000 1B120-1B122 1B155 1B164-1B167"

/-- The letters of scripts whose words are not divided by spaces. -/
def undividedLetter : RangeTable := .ofText
  "E01-E30 E32-E33 E40-E46 E81-E82 E84 E86-E8A E8C-EA3 EA5 EA7-EB0 EB2-EB3 EBD EC0-EC4 EC6
  EDC-EDF 1000-102A 103F 1050-1055 105A-105D 1061 1065-1066 106E-1070 1075-1081 108E 1780-17B3
  17D7 17DC 1950-196D 1970-1974 1980-19AB 19B0-19C9 1A20-1A54 1AA7 A9E0-A9E4 A9E6-A9EF
  A9FA-A9FE AA60-AA76 AA7A AA7E-AAAF AAB1 AAB5-AAB6 AAB9-AABD AAC0 AAC2 AADB-AADD 11700-1171A
  11740-11746"

/-- The characters with the value `ALetter`. -/
def letter : RangeTable := .unionAll
  [ Property.alphabetic.without <| .unionAll
    [ Property.ideographic, script "Hira", hebrewLetter, katakana,
      undividedLetter, extend ],
    .ofText
      "B8 2C2-2C5 2D2-2D7 2DE-2DF 2E5-2EB 2ED 2EF-2FF 55A-55C 55E 58A 5F3 70F A708-A716
      A720-A721 A789-A78A AB5B" ]

/-- The characters with the value `MidLetter`. -/
def midLetter : RangeTable := .ofText
  "3A B7 387 55F 5F4 2027 FE13 FE55 FF1A"

/-- The characters with the value `MidNum`. -/
def midNumber : RangeTable := .ofText
  "2C 3B 37E 589 60C-60D 66C 7F8 2044 FE50 FE54 FF0C FF1B"

/-- The characters with the value `MidNumLet`. -/
def midNumberLetter : RangeTable := .ofText
  "2E 2018-2019 2024 FE52 FF07 FF0E"

/-- The characters with the value `Numeric`. -/
def numeric : RangeTable := .unionAll
  [Category.decimalNumber, .ofText "600-605 66B 6DD 890-891 8E2 19DA 110BD 110CD"]

/-- The tables under the short and the long name of their value. -/
def all : List (String × String × RangeTable) :=
  [ ("CR", "CR", .ofText "D"),
    ("DQ", "Double_Quote", .ofText "22"),
    ("EX", "ExtendNumLet", .unionAll [Category.connectorPunctuation, .ofText "202F"]),
    ("Extend", "Extend", extend),
    ("FO", "Format", format),
    ("HL", "Hebrew_Letter", hebrewLetter),
    ("KA", "Katakana", katakana),
    ("LE", "ALetter", letter),
    ("LF", "LF", .ofText "A"),
    ("MB", "MidNumLet", midNumberLetter),
    ("ML", "MidLetter", midLetter),
    ("MN", "MidNum", midNumber),
    ("NL", "Newline", .ofText "B-C 85 2028-2029"),
    ("NU", "Numeric", numeric),
    ("RI", "Regional_Indicator", Property.regionalIndicator),
    ("SQ", "Single_Quote", .ofText "27"),
    ("WSegSpace", "WSegSpace", .ofText "20 1680 2000-2006 2008-200A 205F 3000"),
    ("ZWJ", "ZWJ", .ofText "200D") ]

end WordBreak

/-! ### Sentences -/

namespace SentenceBreak

/-- The characters with the value `ATerm`. -/
def ambiguousTerminal : RangeTable := .ofText "2E 2024 FE52 FF0E"

/-- The characters with the value `Close`. -/
def close : RangeTable := .ofText
  "22 27-29 5B 5D 7B 7D AB BB F3A-F3D 169B-169C 2018-201F 2039-203A 2045-2046 207D-207E
  208D-208E 2308-230B 2329-232A 275B-2760 2768-2775 27C5-27C6 27E6-27EF 2983-2998 29D8-29DB
  29FC-29FD 2E00-2E0D 2E1C-2E1D 2E20-2E29 2E42 2E55-2E5C 3008-3011 3014-301B 301D-301F
  FD3E-FD3F FE17-FE18 FE35-FE44 FE47-FE48 FE59-FE5E FF08-FF09 FF3B FF3D FF5B FF5D FF5F-FF60
  FF62-FF63 1F676-1F678"

/-- The characters with the value `Extend`. -/
def extend : RangeTable :=
  .unionAll [Property.graphemeExtend, Category.spacingMark, .ofText "200D"]

/-- The characters with the value `Format`. -/
def format : RangeTable := .ofText
  "AD 61C 70F 180E 200B 200E-200F 202A-202E 2060-2064 2066-206F FEFF FFF9-FFFB 13430-1343F
  1BCA0-1BCA3 1D173-1D17A E0001"

/-- The characters with the value `Lower`. -/
def lower : RangeTable := Property.lowercase.without <| .unionAll
  [Property.graphemeExtend, .ofText "10D0-10FA 10FD-10FF"]

/-- The characters with the value `Upper`. -/
def upper : RangeTable :=
  (RangeTable.unionAll [Property.uppercase, Category.titlecaseLetter]).without
    (.ofText "1C90-1CBA 1CBD-1CBF")

/-- The characters with the value `OLetter`. -/
def otherLetter : RangeTable :=
  (RangeTable.unionAll [Property.alphabetic, .ofText "5F3"]).without
    (.unionAll [lower, upper, extend])

/-- The characters with the value `Numeric`. -/
def numeric : RangeTable := .unionAll
  [Category.decimalNumber, .ofText "600-605 66B-66C 6DD 890-891 8E2 19DA 110BD 110CD"]

/-- The characters with the value `SContinue`. -/
def continuation : RangeTable := .ofText
  "2C-2D 3A-3B 37E 55D 60C-60D 7F8 1802 1808 2013-2014 3001 FE10-FE11 FE13-FE14 FE31-FE32
  FE50-FE51 FE54-FE55 FE58 FE63 FF0C-FF0D FF1A-FF1B FF64"

/-- The characters with the value `Sp`. -/
def space : RangeTable :=
  Property.whiteSpace.without (.ofText "A D 85 2028-2029")

/-- The tables under the short and the long name of their value. -/
def all : List (String × String × RangeTable) :=
  [ ("AT", "ATerm", ambiguousTerminal),
    ("CL", "Close", close),
    ("CR", "CR", .ofText "D"),
    ("EX", "Extend", extend),
    ("FO", "Format", format),
    ("LE", "OLetter", otherLetter),
    ("LF", "LF", .ofText "A"),
    ("LO", "Lower", lower),
    ("NU", "Numeric", numeric),
    ("SC", "SContinue", continuation),
    ("SE", "Sep", .ofText "85 2028-2029"),
    ("SP", "Sp", space),
    ("ST", "STerm", Property.sentenceTerminal.without ambiguousTerminal),
    ("UP", "Upper", upper) ]

end SentenceBreak

end AuditedStore.Unicode
