import AuditedStore.Assoc
import AuditedStore.Binary64.Decimal

/-!
# Values

The dynamic values that documents hold: null, Booleans, 64-bit integers, binary64 numbers,
texts, arrays, and objects whose fields are kept in ascending order of their names.
-/

namespace AuditedStore

/-- A stored value. -/
inductive Value where
  | null
  | bool (b : Bool)
  | int (i : Int64)
  | float (x : Binary64)
  | string (s : String)
  | array (items : List Value)
  | object (fields : List (String × Value))

/-- The fields of an object, by name. -/
abbrev Fields := Assoc Value

namespace Value

instance : Inhabited Value := ⟨null⟩

/-- Whether a value is null. -/
def isNull : Value → Bool
  | null => true
  | _ => false

/-- The text of a text. -/
def string? : Value → Option String
  | string s => some s
  | _ => none

/-- The Boolean of a Boolean. -/
def bool? : Value → Option Bool
  | bool b => some b
  | _ => none

/-- The integer of an integer. -/
def int? : Value → Option Int64
  | int i => some i
  | _ => none

/-- The number of a number, rounded to nearest if it is an integer. -/
def float? : Value → Option Binary64
  | float x => some x
  | int i => some (Binary64.ofInt i.toInt)
  | _ => none

/-- The items of an array. -/
def array? : Value → Option (List Value)
  | array items => some items
  | _ => none

/-- Whether a value is an array. -/
def isArray (v : Value) : Bool := v.array?.isSome

end Value

end AuditedStore
