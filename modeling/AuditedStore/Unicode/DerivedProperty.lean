import AuditedStore.Unicode.CaseMapping
import AuditedStore.Unicode.Category
import AuditedStore.Unicode.Property

/-!
# Derived properties

Binary properties of characters that follow from the general categories, the mappings of
letter case and other properties.
-/

namespace AuditedStore.Unicode.Property

open Category

/-! ### Letter case -/

/-- The characters with the property `Case_Ignorable`. -/
def caseIgnorable : RangeTable := .unionAll
  [ nonspacingMark, enclosingMark, format, modifierLetter, modifierSymbol,
    .ofText
      "27 2E 3A B7 387 55F 5F4 2018-2019 2024 2027 FE13 FE52 FE55 FF07 FF0E FF1A" ]

/-- The characters with the property `Changes_When_Lowercased`. -/
def changesWhenLowercased : RangeTable := .unionAll
  [ .ofText "41-5A", CaseRun.sources lowerRuns, .ofHeads longLower ]

/-- The characters with the property `Changes_When_Uppercased`. -/
def changesWhenUppercased : RangeTable := .unionAll
  [ .ofText "61-7A", CaseRun.sources upperRuns, .ofHeads longUpper ]

/-- The characters with the property `Changes_When_Titlecased`: unlike its upper case, the title
case of digraphs with a small second letter and of Georgian letters is the character itself. -/
def changesWhenTitlecased : RangeTable := .unionAll
  [ changesWhenUppercased.without (.unionAll [titlecaseLetter, .ofText "10D0-10FA 10FD-10FF"]),
    .ofText "1C4 1C7 1CA 1F1" ]

/-- The characters with the property `Changes_When_Casefolded`.  The folding is that of texts,
which may give several characters, and of decomposed characters. -/
def changesWhenCasefolded : RangeTable := .unionAll
  [ (CaseRun.sources foldRuns).without (.ofText "13A0-13F5 1FBE 1FD3 1FE3"),
    .ofText
      "DF 130 149 587 13F8-13FD 1E9A 1F80-1F87 1F90-1F97 1FA0-1FA7 1FB2-1FB4 1FB7 1FC2-1FC4
      1FC7 1FF2-1FF4 1FF7 AB70-ABBF FB00-FB05 FB13-FB17" ]

/-- The characters with the property `Changes_When_Casemapped`. -/
def changesWhenCasemapped : RangeTable := .unionAll
  [changesWhenLowercased, changesWhenUppercased, changesWhenTitlecased]

/-! ### Graphemes -/

/-- The characters with the property `Grapheme_Extend`. -/
def graphemeExtend : RangeTable := .unionAll [nonspacingMark, enclosingMark, otherGraphemeExtend]

/-- The characters with the property `Grapheme_Base`. -/
def graphemeBase : RangeTable :=
  (RangeTable.unionAll (Category.all.map (·.2.2))).without <| .unionAll
    [control, format, privateUse, lineSeparator, paragraphSeparator, graphemeExtend]

/-! ### Identifiers -/

/-- The characters with the property `XID_Start`. -/
def closedIdentifierStart : RangeTable := identifierStart.without <| .ofText
  "37A E33 EB3 309B-309C FC5E-FC63 FDFA-FDFB FE70 FE72 FE74 FE76 FE78 FE7A FE7C FE7E FF9E-FF9F"

/-- The characters with the property `XID_Continue`. -/
def closedIdentifierContinue : RangeTable := identifierContinue.without <| .ofText
  "37A 309B-309C FC5E-FC63 FDFA-FDFB FE70 FE72 FE74 FE76 FE78 FE7A FE7C FE7E"

/-! ### Contributions to other properties -/

/-- The characters with the property `Other_Alphabetic`. -/
def otherAlphabetic : RangeTable := alphabetic.without <| .unionAll
  [ uppercaseLetter, lowercaseLetter, titlecaseLetter, modifierLetter, otherLetter,
    letterNumber ]

/-- The characters with the property `Other_Default_Ignorable_Code_Point`. -/
def otherDefaultIgnorableCodePoint : RangeTable :=
  defaultIgnorableCodePoint.without (.unionAll [format, variationSelector])

/-- The characters with the property `Other_ID_Continue`. -/
def otherIdentifierContinue : RangeTable := identifierContinue.without <| .unionAll
  [identifierStart, nonspacingMark, spacingMark, decimalNumber, connectorPunctuation]

/-- The characters with the property `Other_Lowercase`. -/
def otherLowercase : RangeTable := lowercase.without lowercaseLetter

/-- The characters with the property `Other_Math`. -/
def otherMath : RangeTable := math.without mathSymbol

/-- The characters with the property `Other_Uppercase`. -/
def otherUppercase : RangeTable := uppercase.without uppercaseLetter

/-- The tables of the derived properties under the short and the long name of their property. -/
def derived : List (String × String × RangeTable) :=
  [ ("CI", "Case_Ignorable", caseIgnorable),
    ("CWCF", "Changes_When_Casefolded", changesWhenCasefolded),
    ("CWCM", "Changes_When_Casemapped", changesWhenCasemapped),
    ("CWL", "Changes_When_Lowercased", changesWhenLowercased),
    ("CWT", "Changes_When_Titlecased", changesWhenTitlecased),
    ("CWU", "Changes_When_Uppercased", changesWhenUppercased),
    ("Gr_Base", "Grapheme_Base", graphemeBase),
    ("Gr_Ext", "Grapheme_Extend", graphemeExtend),
    ("OAlpha", "Other_Alphabetic", otherAlphabetic),
    ("ODI", "Other_Default_Ignorable_Code_Point", otherDefaultIgnorableCodePoint),
    ("OIDC", "Other_ID_Continue", otherIdentifierContinue),
    ("OLower", "Other_Lowercase", otherLowercase),
    ("OMath", "Other_Math", otherMath),
    ("OUpper", "Other_Uppercase", otherUppercase),
    ("XIDC", "XID_Continue", closedIdentifierContinue),
    ("XIDS", "XID_Start", closedIdentifierStart) ]

end AuditedStore.Unicode.Property
