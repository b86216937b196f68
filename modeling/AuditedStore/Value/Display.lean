import AuditedStore.Value.Basic

/-!
# The text of values

Values as they are shown in messages: texts in quotes without escapes, numbers in their
shortest decimal form, arrays in brackets and objects in braces.
-/

namespace AuditedStore.Value

/-- The parts of a list with commas between them. -/
def commaSeparated (parts : List String) : String := ", ".intercalate parts

/-- A text in quotes. -/
def quoted (s : String) : String := "\"" ++ s ++ "\""

/-- A text in braces. -/
def braced (s : String) : String := "\x7b" ++ s ++ "\x7d"

mutual

/-- The text of a value. -/
def display : Value → String
  | null => "null"
  | bool b => if b then "true" else "false"
  | int i => Numeral.ofInt i.toInt
  | float x => x.toText
  | string s => quoted s
  | array items => "[" ++ commaSeparated (displayItems items) ++ "]"
  | object fields => braced (commaSeparated (displayFields fields))

/-- The texts of the items of an array. -/
def displayItems : List Value → List String
  | [] => []
  | v :: vs => v.display :: displayItems vs

/-- The texts of the fields of an object, each with its name. -/
def displayFields : List (String × Value) → List String
  | [] => []
  | (k, v) :: es => (quoted k ++ ": " ++ v.display) :: displayFields es

end

end AuditedStore.Value
