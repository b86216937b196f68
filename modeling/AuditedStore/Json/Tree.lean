import AuditedStore.Assoc
import AuditedStore.Binary64.Rounding
import AuditedStore.Numeral

/-!
# JSON trees

A JSON number is either an integer that fits a signed or an unsigned word of 64 bits, or a
finite binary64 number; the two are told apart even when they are equal in value.
Objects are association lists of their members.
-/

namespace AuditedStore.Json

/-- A JSON number. -/
inductive Number where
  | integer (i : Int) (lower : -2 ^ 63 ≤ i) (upper : i < 2 ^ 64)
  | fraction (x : Binary64) (finite : x.isFinite = true)

namespace Number

/-- The integer, if it is in range. -/
def ofInt? (i : Int) : Option Number :=
  if h : -2 ^ 63 ≤ i ∧ i < 2 ^ 64 then some (integer i h.1 h.2) else none

/-- A signed word as a number. -/
def ofInt64 (i : Int64) : Number :=
  integer i.toInt i.le_toInt (by have := i.toInt_lt; omega)

/-- The signed word that a number is, if it is one. -/
def toInt64? : Number → Option Int64
  | integer i _ _ => if i < 2 ^ 63 then some (Int64.ofInt i) else none
  | fraction _ _ => none

/-- The binary64 number nearest to a number. -/
def toBinary64 : Number → Binary64
  | integer i _ _ => Binary64.ofInt i
  | fraction x _ => x

end Number

/-- A JSON value. -/
inductive Tree where
  | null
  | bool (b : Bool)
  | number (n : Number)
  | string (s : String)
  | array (items : List Tree)
  | object (members : List (String × Tree))

instance : Inhabited Tree := ⟨.null⟩

namespace Tree

/-- A signed word. -/
def int64 (i : Int64) : Tree := number (Number.ofInt64 i)

/-- A text, or null. -/
def optionString : Option String → Tree
  | some s => string s
  | none => null

/-! ### Reading trees

Each reader gives nothing for a tree of another form.
-/

/-- Reads a Boolean. -/
def bool? : Tree → Option Bool
  | bool b => some b
  | _ => none

/-- Reads a text. -/
def string? : Tree → Option String
  | string s => some s
  | _ => none

/-- Reads a signed word. -/
def int64? : Tree → Option Int64
  | number n => n.toInt64?
  | _ => none

/-- Reads null as absence and anything else with `read`. -/
def optional? (read : Tree → Option α) : Tree → Option (Option α)
  | null => some none
  | t => (read t).map some

/-- Reads an object whose members have texts as values. -/
def stringMap? : Tree → Option (Assoc String)
  | object members =>
    (members.mapM fun e => (string? e.2).map fun s => (e.1, s)).map Assoc.ofList
  | _ => none

/-- Reads the members of an object, in which none of the `names` may be repeated. -/
def objectMembers? (names : List String) : Tree → Option (Assoc Tree)
  | object members =>
    if names.all fun n => (members.filter (·.1 == n)).length ≤ 1 then some members else none
  | _ => none

/-- Reads the members of a record, given as an object or as an array of the first of its
members in the order of their `names`. -/
def recordMembers? (names : List String) : Tree → Option (Assoc Tree)
  | array items => if items.length ≤ names.length then some (names.zip items) else none
  | t => objectMembers? names t

/-- Reads a member of a record, which has the value `absent` if it is missing. -/
def member? (members : Assoc Tree) (name : String) (absent : α) (read : Tree → Option α) :
    Option α :=
  match Assoc.get? name members with
  | none => some absent
  | some t => read t

end Tree

end AuditedStore.Json
