import AuditedStore.Value.Order

/-!
# Comparing values with operands

Operands of filters are often texts.  Before a stored value is compared with one, the text
is read as a value of the stored kind: a Boolean, a number, or null.  Values of different
kinds cannot be compared.
-/

namespace AuditedStore

/-- Reads a number: an integer if it is one that fits 64 bits, else a binary64 number. -/
def Value.readNumber? (s : String) : Option Value :=
  let s := Text.trim s
  ((Numeral.readInt64? s).map Value.int).or ((Binary64.read? s).map Value.float)

namespace Query

/-- The operand as a value that can be compared with `actual`. -/
def coerce? (actual operand : Value) : Option Value :=
  match actual, operand with
  | .bool _, .string s => (Text.readBool? s).map .bool
  | .int _, .string s => Value.readNumber? s
  | .float _, .string s => Value.readNumber? s
  | .null, .string s => if Text.sameIgnoringCase s "null" then some .null else some operand
  | _, _ => some operand

/-- Compares a stored value with an operand, if they can be compared. -/
def looseCompare? (actual operand : Value) : Option Ordering :=
  (coerce? actual operand).bind fun v =>
    if actual.rank = v.rank then some (actual.compareTo v) else none

/-- Whether a stored value stands to an operand as `test` says.  An array stands so when one
of its items does, unless the operand is an array too. -/
def anyElement (actual operand : Value) (test : Value → Bool) : Bool :=
  match actual with
  | .array items => if operand.isArray then test actual else items.any test
  | _ => test actual

/-- Whether a stored value, or an item of it, compares with an operand as `o`. -/
def compares (o : Ordering) (actual operand : Value) : Bool :=
  anyElement actual operand fun v => looseCompare? v operand == some o

end Query

end AuditedStore
