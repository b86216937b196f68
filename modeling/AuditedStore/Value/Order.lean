import AuditedStore.Value.Basic
import AuditedStore.Binary64.Order

/-!
# Equality and order of values

Values of different kinds are ordered by kind, where integers and binary64 numbers are one
kind; texts, arrays and objects are ordered lexicographically.  An integer is compared with
a binary64 number exactly: first after rounding it to nearest, and if that leaves them equal
by the integer part of the other number.  Equality compares by the same rules but is defined
on its own, and `Value.hashInputs` is what equal values have in common for hashing.
-/

namespace AuditedStore

/-- The least number beyond the range of 64-bit integers. -/
def Binary64.pastInt64 : Binary64 := Binary64.ofInt (2 ^ 63)

namespace Value

/-- Compares an integer with a binary64 number. -/
def compareIntFloat (i : Int64) (x : Binary64) : Ordering :=
  match (Binary64.ofInt i.toInt).totalCompare x with
  | .eq => if Binary64.pastInt64.key ≤ x.key then .lt else compare i.toInt x.toInt64.toInt
  | o => o

/-- The place of a kind of value among the kinds. -/
def rank : Value → Nat
  | null => 0
  | bool _ => 1
  | int _ => 2
  | float _ => 2
  | string _ => 3
  | array _ => 4
  | object _ => 5

mutual

/-- Compares two values. -/
def compareTo : Value → Value → Ordering
  | bool a, bool b => compare a b
  | int a, int b => compare a.toInt b.toInt
  | int a, float b => compareIntFloat a b
  | float a, int b => (compareIntFloat b a).swap
  | float a, float b => a.totalCompare b
  | string a, string b => compare a b
  | array a, array b => compareItems a b
  | object a, object b => compareFields a b
  | a, b => compare a.rank b.rank

/-- Compares two lists of values lexicographically. -/
def compareItems : List Value → List Value → Ordering
  | [], [] => .eq
  | [], _ :: _ => .lt
  | _ :: _, [] => .gt
  | a :: as, b :: bs => (a.compareTo b).then (compareItems as bs)

/-- Compares two lists of fields lexicographically, a name before its value. -/
def compareFields : List (String × Value) → List (String × Value) → Ordering
  | [], [] => .eq
  | [], _ :: _ => .lt
  | _ :: _, [] => .gt
  | (k, a) :: as, (l, b) :: bs =>
    (compare k l).then ((a.compareTo b).then (compareFields as bs))

end

instance : Ord Value := ⟨compareTo⟩

mutual

/-- Whether two values are equal. -/
def equals : Value → Value → Bool
  | null, null => true
  | bool a, bool b => a == b
  | int a, int b => a == b
  | int a, float b => compareIntFloat a b == .eq
  | float a, int b => compareIntFloat b a == .eq
  | float a, float b => a.bits == b.bits
  | string a, string b => a == b
  | array a, array b => equalItems a b
  | object a, object b => equalFields a b
  | _, _ => false

/-- Whether two lists of values are equal. -/
def equalItems : List Value → List Value → Bool
  | [], [] => true
  | a :: as, b :: bs => a.equals b && equalItems as bs
  | _, _ => false

/-- Whether two lists of fields are equal. -/
def equalFields : List (String × Value) → List (String × Value) → Bool
  | [], [] => true
  | (k, a) :: as, (l, b) :: bs => k == l && a.equals b && equalFields as bs
  | _, _ => false

end

instance : BEq Value := ⟨equals⟩

/-- A piece of what is fed to a hash function. -/
inductive HashInput where
  | zero
  | flag (b : Bool)
  | word (bits : UInt64)
  | text (s : String)
  | length (n : Nat)
deriving DecidableEq

mutual

/-- What a value feeds to a hash function.  A number feeds the bits of the nearest binary64
number. -/
def hashInputs : Value → List HashInput
  | null => [.zero]
  | bool b => [.flag b]
  | int i => [.word (Binary64.ofInt i.toInt).bits]
  | float x => [.word x.bits]
  | string s => [.text s]
  | array items => .length items.length :: hashItems items
  | object fields => hashFields fields

/-- What the items of an array feed. -/
def hashItems : List Value → List HashInput
  | [] => []
  | v :: vs => v.hashInputs ++ hashItems vs

/-- What the fields of an object feed. -/
def hashFields : List (String × Value) → List HashInput
  | [] => []
  | (k, v) :: es => .text k :: (v.hashInputs ++ hashFields es)

end

end Value

end AuditedStore
