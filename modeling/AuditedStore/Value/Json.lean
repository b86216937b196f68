import AuditedStore.Value.Basic
import AuditedStore.Json.Tree

/-!
# Values and JSON

Every JSON tree is read as a value, where an unsigned word beyond the signed ones becomes
the nearest binary64 number.  Every value is written as a JSON tree, where infinities and
NaNs become null.  The tagged form writes each value with the name of its kind, so that it
can be read back without losing the kind.
-/

namespace AuditedStore.Value

open Json (Tree Number)

/-- The value of a JSON number. -/
def ofNumber (n : Number) : Value :=
  match n.toInt64? with
  | some i => int i
  | none => float n.toBinary64

mutual

/-- The value of a JSON tree. -/
def ofTree : Tree → Value
  | .null => null
  | .bool b => bool b
  | .number n => ofNumber n
  | .string s => string s
  | .array items => array (ofTrees items)
  | .object members => object (ofMembers members)

/-- The values of the items of an array. -/
def ofTrees : List Tree → List Value
  | [] => []
  | t :: ts => ofTree t :: ofTrees ts

/-- The values of the members of an object. -/
def ofMembers : List (String × Tree) → List (String × Value)
  | [] => []
  | (k, t) :: es => (k, ofTree t) :: ofMembers es

end

/-- A binary64 number in JSON; null if it is not finite. -/
def treeOfFloat (x : Binary64) : Tree :=
  if h : x.isFinite = true then .number (.fraction x h) else .null

mutual

/-- The JSON tree of a value. -/
def toTree : Value → Tree
  | null => .null
  | bool b => .bool b
  | int i => .int64 i
  | float x => treeOfFloat x
  | string s => .string s
  | array items => .array (toTrees items)
  | object fields => .object (toMembers fields)

/-- The JSON trees of the items of an array. -/
def toTrees : List Value → List Tree
  | [] => []
  | v :: vs => v.toTree :: toTrees vs

/-- The JSON members of the fields of an object. -/
def toMembers : List (String × Value) → List (String × Tree)
  | [] => []
  | (k, v) :: es => (k, v.toTree) :: toMembers es

end

/-! ### The tagged form -/

/-- A tree under the name of its kind. -/
def tag (name : String) (t : Tree) : Tree := .object [(name, t)]

mutual

/-- The tagged form of a value. -/
def toTagged : Value → Tree
  | null => .string "Null"
  | bool b => tag "Bool" (.bool b)
  | int i => tag "Int" (.int64 i)
  | float x => tag "Float" (treeOfFloat x)
  | string s => tag "String" (.string s)
  | array items => tag "Array" (.array (toTaggedItems items))
  | object fields => tag "Object" (.object (toTaggedFields fields))

/-- The tagged forms of the items of an array. -/
def toTaggedItems : List Value → List Tree
  | [] => []
  | v :: vs => v.toTagged :: toTaggedItems vs

/-- The tagged forms of the fields of an object. -/
def toTaggedFields : List (String × Value) → List (String × Tree)
  | [] => []
  | (k, v) :: es => (k, v.toTagged) :: toTaggedFields es

end

mutual

/-- Reads a value from its tagged form. -/
def ofTagged? : Tree → Option Value
  | .string "Null" => some null
  | .object [("Null", .null)] => some null
  | .object [("Bool", .bool b)] => some (bool b)
  | .object [("Int", .number n)] => n.toInt64?.map int
  | .object [("Float", .number n)] => some (float n.toBinary64)
  | .object [("String", .string s)] => some (string s)
  | .object [("Array", .array items)] => (ofTaggedItems? items).map array
  | .object [("Object", .object members)] =>
    (ofTaggedMembers? members).map fun fields => object (Assoc.ofList fields)
  | _ => none

/-- Reads the items of an array. -/
def ofTaggedItems? : List Tree → Option (List Value)
  | [] => some []
  | t :: ts => (ofTagged? t).bind fun v => (ofTaggedItems? ts).map (v :: ·)

/-- Reads the fields of an object. -/
def ofTaggedMembers? : List (String × Tree) → Option (List (String × Value))
  | [] => some []
  | (k, t) :: es => (ofTagged? t).bind fun v => (ofTaggedMembers? es).map ((k, v) :: ·)

end

end AuditedStore.Value
