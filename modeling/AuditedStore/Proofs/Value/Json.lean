import AuditedStore.Proofs.Binary64.Exact
import AuditedStore.Document.Basic

/-!
# Values through JSON

Writing a value as JSON and reading it back changes only its numbers that are not finite, which
become null; and reading a JSON tree and writing it again changes only its integers past the
signed words, which are rounded to the nearest binary64 number.  Both are stated through maps that
replace the numbers of a value or a tree at any depth and leave everything else as it is.
-/

namespace AuditedStore

open Json (Tree Number)

/-! ### The binary64 numbers of a value -/

namespace Value

mutual

/-- A value with its binary64 numbers replaced, at any depth. -/
def mapFloats (f : Binary64 → Value) : Value → Value
  | null => null
  | bool b => bool b
  | int i => int i
  | float x => f x
  | string s => string s
  | array items => array (mapFloatsItems f items)
  | object fields => object (mapFloatsFields f fields)

/-- The items of an array with their binary64 numbers replaced. -/
def mapFloatsItems (f : Binary64 → Value) : List Value → List Value
  | [] => []
  | v :: vs => v.mapFloats f :: mapFloatsItems f vs

/-- The fields of an object with their binary64 numbers replaced. -/
def mapFloatsFields (f : Binary64 → Value) : List (String × Value) → List (String × Value)
  | [] => []
  | (k, v) :: es => (k, v.mapFloats f) :: mapFloatsFields f es

end

mutual

/-- The binary64 numbers of a value, at any depth. -/
def floats : Value → List Binary64
  | float x => [x]
  | array items => floatsOfItems items
  | object fields => floatsOfFields fields
  | _ => []

/-- The binary64 numbers of the items of an array. -/
def floatsOfItems : List Value → List Binary64
  | [] => []
  | v :: vs => v.floats ++ floatsOfItems vs

/-- The binary64 numbers of the fields of an object. -/
def floatsOfFields : List (String × Value) → List Binary64
  | [] => []
  | (_, v) :: es => v.floats ++ floatsOfFields es

end

section MapFloats

variable {f : Binary64 → Value}

mutual

/-- Replacing the binary64 numbers of a value keeps it exactly if all of them are kept. -/
theorem mapFloats_eq_self_iff :
  ∀ v : Value, v.mapFloats f = v ↔ ∀ x ∈ v.floats, f x = float x
  | null => by simp [mapFloats, floats]
  | bool b => by simp [mapFloats, floats]
  | int i => by simp [mapFloats, floats]
  | float x => by simp [mapFloats, floats]
  | string s => by simp [mapFloats, floats]
  | array items => by
      rw [mapFloats, floats, array.injEq, mapFloatsItems_eq_self_iff items]
  | object fields => by
      rw [mapFloats, floats, object.injEq, mapFloatsFields_eq_self_iff fields]

theorem mapFloatsItems_eq_self_iff :
  ∀ items : List Value, mapFloatsItems f items = items ↔ ∀ x ∈ floatsOfItems items, f x = float x
  | [] => by simp [mapFloatsItems, floatsOfItems]
  | v :: vs => by
      rw [mapFloatsItems, floatsOfItems, List.cons.injEq, mapFloats_eq_self_iff v,
        mapFloatsItems_eq_self_iff vs, List.forall_mem_append]

theorem mapFloatsFields_eq_self_iff :
  ∀ fields : List (String × Value),
    mapFloatsFields f fields = fields ↔ ∀ x ∈ floatsOfFields fields, f x = float x
  | [] => by simp [mapFloatsFields, floatsOfFields]
  | (k, v) :: es => by
      rw [mapFloatsFields, floatsOfFields, List.cons.injEq, Prod.mk.injEq, eq_self, true_and,
        mapFloats_eq_self_iff v, mapFloatsFields_eq_self_iff es, List.forall_mem_append]

end

end MapFloats

end Value

/-! ### The numbers of a tree -/

namespace Json.Tree

mutual

/-- A tree with its numbers replaced, at any depth. -/
def mapNumbers (f : Number → Number) : Tree → Tree
  | null => null
  | bool b => bool b
  | number n => number (f n)
  | string s => string s
  | array items => array (mapNumbersItems f items)
  | object members => object (mapNumbersMembers f members)

/-- The items of an array with their numbers replaced. -/
def mapNumbersItems (f : Number → Number) : List Tree → List Tree
  | [] => []
  | t :: ts => t.mapNumbers f :: mapNumbersItems f ts

/-- The members of an object with their numbers replaced. -/
def mapNumbersMembers (f : Number → Number) : List (String × Tree) → List (String × Tree)
  | [] => []
  | (k, t) :: es => (k, t.mapNumbers f) :: mapNumbersMembers f es

end

mutual

/-- The numbers of a tree, at any depth. -/
def numbers : Tree → List Number
  | number n => [n]
  | array items => numbersOfItems items
  | object members => numbersOfMembers members
  | _ => []

/-- The numbers of the items of an array. -/
def numbersOfItems : List Tree → List Number
  | [] => []
  | t :: ts => t.numbers ++ numbersOfItems ts

/-- The numbers of the members of an object. -/
def numbersOfMembers : List (String × Tree) → List Number
  | [] => []
  | (_, t) :: es => t.numbers ++ numbersOfMembers es

end

section MapNumbers

variable {f : Number → Number}

mutual

/-- Replacing the numbers of a tree keeps it exactly if all of them are kept. -/
theorem mapNumbers_eq_self_iff :
  ∀ t : Tree, t.mapNumbers f = t ↔ ∀ n ∈ t.numbers, f n = n
  | null => by simp [mapNumbers, numbers]
  | bool b => by simp [mapNumbers, numbers]
  | number n => by simp [mapNumbers, numbers]
  | string s => by simp [mapNumbers, numbers]
  | array items => by
      rw [mapNumbers, numbers, array.injEq, mapNumbersItems_eq_self_iff items]
  | object members => by
      rw [mapNumbers, numbers, object.injEq, mapNumbersMembers_eq_self_iff members]

theorem mapNumbersItems_eq_self_iff :
  ∀ items : List Tree, mapNumbersItems f items = items ↔ ∀ n ∈ numbersOfItems items, f n = n
  | [] => by simp [mapNumbersItems, numbersOfItems]
  | t :: ts => by
      rw [mapNumbersItems, numbersOfItems, List.cons.injEq, mapNumbers_eq_self_iff t,
        mapNumbersItems_eq_self_iff ts, List.forall_mem_append]

theorem mapNumbersMembers_eq_self_iff :
  ∀ members : List (String × Tree),
    mapNumbersMembers f members = members ↔ ∀ n ∈ numbersOfMembers members, f n = n
  | [] => by simp [mapNumbersMembers, numbersOfMembers]
  | (k, t) :: es => by
      rw [mapNumbersMembers, numbersOfMembers, List.cons.injEq, Prod.mk.injEq, eq_self, true_and,
        mapNumbers_eq_self_iff t, mapNumbersMembers_eq_self_iff es, List.forall_mem_append]

end

end MapNumbers

end Json.Tree

/-! ### Single numbers -/

namespace Json.Number

/-- An integer past the signed words of 64 bits. -/
def IsPastInt64 : Number → Prop
  | integer i _ _ => 2 ^ 63 ≤ i
  | fraction _ _ => False

/-- An integer that is not past the signed words is one of them. -/
theorem integer_eq_ofInt64 {i : Int} (lower : -2 ^ 63 ≤ i) (upper : i < 2 ^ 64) (h : i < 2 ^ 63) :
  integer i lower upper = ofInt64 (Int64.ofInt i)
  := by
  have hword : (Int64.ofInt i).toInt = i := Int64.toInt_ofInt_of_le lower h
  simp only [ofInt64, hword]

/-- A number, rounded to a binary64 number if it is an integer past the signed words. -/
def rounded : Number → Number
  | integer i lower upper =>
    if i < 2 ^ 63 then integer i lower upper
    else fraction (Binary64.ofInt i) (Binary64.isFinite_ofInt (by omega) (by omega))
  | fraction x finite => fraction x finite

theorem rounded_eq_self_iff (n : Number) :
  n.rounded = n ↔ ¬ n.IsPastInt64
  := by
  cases n with
  | integer i lower upper =>
      rw [rounded, IsPastInt64, Int.not_le]
      split
      · next h => exact iff_of_true rfl h
      · next h => exact iff_of_false (by nofun) h
  | fraction x finite => exact iff_of_true rfl id

/-- What a number becomes: an integer past the signed words becomes a binary64 number that is
nearest to it, and all other numbers stay as they are. -/
inductive IsRounding : Number → Number → Prop
  | kept {n : Number} (h : ¬ n.IsPastInt64) : IsRounding n n
  | nearest {i : Int} {lower : -2 ^ 63 ≤ i} {upper : i < 2 ^ 64} {x : Binary64}
      {finite : x.isFinite = true} (hpast : 2 ^ 63 ≤ i) (h : x.IsNearest i) :
      IsRounding (integer i lower upper) (fraction x finite)

theorem isRounding_rounded (n : Number) :
  n.IsRounding n.rounded
  := by
  cases n with
  | integer i lower upper =>
      rw [rounded]
      split
      · next h => exact .kept (Int.not_le.mpr h)
      · next h =>
          have hfinite : (Binary64.ofInt i).isFinite = true :=
            Binary64.isFinite_ofInt (by omega) (by omega)
          exact .nearest (Int.not_lt.mp h) (Binary64.isNearest_ofInt hfinite)
  | fraction x finite => exact .kept id

end Json.Number

namespace Value

/-- A finite binary64 number, or null. -/
def finiteOrNull (x : Binary64) : Value :=
  if x.isFinite then float x else null

theorem finiteOrNull_eq_iff (x : Binary64) :
  finiteOrNull x = float x ↔ x.isFinite = true
  := by
  rw [finiteOrNull]
  split
  · next h => exact iff_of_true rfl h
  · next h => exact iff_of_false (by nofun) h

theorem ofNumber_ofInt64 (i : Int64) :
  ofNumber (Number.ofInt64 i) = int i
  := by
  have hi : (Number.ofInt64 i).toInt64? = some i := by
    rw [Number.ofInt64, Number.toInt64?, if_pos i.toInt_lt, Int64.ofInt_toInt]
  rw [ofNumber, hi]

theorem ofTree_int64 (i : Int64) :
  ofTree (.int64 i) = int i
  := by rw [Tree.int64, ofTree, ofNumber_ofInt64]

theorem treeOfFloat_of_isFinite {x : Binary64} (h : x.isFinite = true) :
  treeOfFloat x = .number (.fraction x h)
  := dif_pos h

theorem ofNumber_fraction (x : Binary64) (h : x.isFinite = true) :
  ofNumber (.fraction x h) = float x
  := rfl

theorem ofTree_treeOfFloat (x : Binary64) :
  ofTree (treeOfFloat x) = finiteOrNull x
  := by
  rw [treeOfFloat, finiteOrNull]
  split
  · rw [ofTree, ofNumber_fraction]
  · rw [ofTree]

theorem toTree_ofNumber (n : Number) :
  (ofNumber n).toTree = .number n.rounded
  := by
  cases n with
  | integer i lower upper =>
      rw [Number.rounded]
      split
      · next h =>
          rw [Number.integer_eq_ofInt64 lower upper h, ofNumber_ofInt64, toTree, Tree.int64]
      · next h =>
          have hword : (Number.integer i lower upper).toInt64? = none := if_neg h
          rw [ofNumber, hword]
          exact treeOfFloat_of_isFinite _
  | fraction x finite =>
      rw [ofNumber_fraction, toTree, Number.rounded, treeOfFloat_of_isFinite finite]

/-! ### Round trips -/

mutual

/-- A value that is written as JSON and read back has null for its numbers that are not finite. -/
theorem ofTree_toTree :
  ∀ v : Value, ofTree v.toTree = v.mapFloats finiteOrNull
  | null => by rw [toTree, ofTree, mapFloats]
  | bool b => by rw [toTree, ofTree, mapFloats]
  | int i => by rw [toTree, ofTree_int64, mapFloats]
  | float x => by rw [toTree, ofTree_treeOfFloat, mapFloats]
  | string s => by rw [toTree, ofTree, mapFloats]
  | array items => by rw [toTree, ofTree, ofTrees_toTrees items, mapFloats]
  | object fields => by rw [toTree, ofTree, ofMembers_toMembers fields, mapFloats]

theorem ofTrees_toTrees :
  ∀ items : List Value, ofTrees (toTrees items) = mapFloatsItems finiteOrNull items
  | [] => by rw [toTrees, ofTrees, mapFloatsItems]
  | v :: vs => by rw [toTrees, ofTrees, ofTree_toTree v, ofTrees_toTrees vs, mapFloatsItems]

theorem ofMembers_toMembers :
  ∀ fields : List (String × Value),
    ofMembers (toMembers fields) = mapFloatsFields finiteOrNull fields
  | [] => by rw [toMembers, ofMembers, mapFloatsFields]
  | (k, v) :: es => by
      rw [toMembers, ofMembers, ofTree_toTree v, ofMembers_toMembers es, mapFloatsFields]

end

mutual

/-- A tree that is read and written again has its integers past the signed words rounded. -/
theorem toTree_ofTree :
  ∀ t : Tree, (ofTree t).toTree = t.mapNumbers Number.rounded
  | .null => by rw [ofTree, toTree, Tree.mapNumbers]
  | .bool b => by rw [ofTree, toTree, Tree.mapNumbers]
  | .number n => by rw [ofTree, toTree_ofNumber, Tree.mapNumbers]
  | .string s => by rw [ofTree, toTree, Tree.mapNumbers]
  | .array items => by rw [ofTree, toTree, toTrees_ofTrees items, Tree.mapNumbers]
  | .object members => by rw [ofTree, toTree, toMembers_ofMembers members, Tree.mapNumbers]

theorem toTrees_ofTrees :
  ∀ items : List Tree, toTrees (ofTrees items) = Tree.mapNumbersItems Number.rounded items
  | [] => by rw [ofTrees, toTrees, Tree.mapNumbersItems]
  | t :: ts => by rw [ofTrees, toTrees, toTree_ofTree t, toTrees_ofTrees ts, Tree.mapNumbersItems]

theorem toMembers_ofMembers :
  ∀ members : List (String × Tree),
    toMembers (ofMembers members) = Tree.mapNumbersMembers Number.rounded members
  | [] => by rw [ofMembers, toMembers, Tree.mapNumbersMembers]
  | (k, t) :: es => by
      rw [ofMembers, toMembers, toTree_ofTree t, toMembers_ofMembers es, Tree.mapNumbersMembers]

end

theorem toTree_finiteOrNull (x : Binary64) :
  (finiteOrNull x).toTree = treeOfFloat x
  := by
  rw [finiteOrNull, treeOfFloat]
  split
  · next h => rw [toTree, treeOfFloat_of_isFinite h]
  · rw [toTree]

mutual

/-- Numbers that are not finite are written as null is. -/
theorem toTree_mapFloats_finiteOrNull :
  ∀ v : Value, (v.mapFloats finiteOrNull).toTree = v.toTree
  | null => by rw [mapFloats]
  | bool b => by rw [mapFloats]
  | int i => by rw [mapFloats]
  | float x => by rw [mapFloats, toTree, toTree_finiteOrNull]
  | string s => by rw [mapFloats]
  | array items => by rw [mapFloats, toTree, toTree, toTrees_mapFloatsItems items]
  | object fields => by rw [mapFloats, toTree, toTree, toMembers_mapFloatsFields fields]

theorem toTrees_mapFloatsItems :
  ∀ items : List Value, toTrees (mapFloatsItems finiteOrNull items) = toTrees items
  | [] => by rw [mapFloatsItems]
  | v :: vs => by
      rw [mapFloatsItems, toTrees, toTrees, toTree_mapFloats_finiteOrNull v,
        toTrees_mapFloatsItems vs]

theorem toMembers_mapFloatsFields :
  ∀ fields : List (String × Value),
    toMembers (mapFloatsFields finiteOrNull fields) = toMembers fields
  | [] => by rw [mapFloatsFields]
  | (k, v) :: es => by
      rw [mapFloatsFields, toMembers, toMembers, toTree_mapFloats_finiteOrNull v,
        toMembers_mapFloatsFields es]

end

theorem ofNumber_rounded (n : Number) :
  ofNumber n.rounded = ofNumber n
  := by
  cases n with
  | integer i lower upper =>
      rw [Number.rounded]
      split
      · rfl
      · next h =>
          have hword : (Number.integer i lower upper).toInt64? = none := if_neg h
          rw [ofNumber_fraction, ofNumber, hword]
          rfl
  | fraction x finite => rfl

mutual

/-- Integers past the signed words are read as the numbers that they are rounded to. -/
theorem ofTree_mapNumbers_rounded :
  ∀ t : Tree, ofTree (t.mapNumbers Number.rounded) = ofTree t
  | .null => by rw [Tree.mapNumbers]
  | .bool b => by rw [Tree.mapNumbers]
  | .number n => by rw [Tree.mapNumbers, ofTree, ofTree, ofNumber_rounded]
  | .string s => by rw [Tree.mapNumbers]
  | .array items => by rw [Tree.mapNumbers, ofTree, ofTree, ofTrees_mapNumbersItems items]
  | .object members => by rw [Tree.mapNumbers, ofTree, ofTree, ofMembers_mapNumbersMembers members]

theorem ofTrees_mapNumbersItems :
  ∀ items : List Tree, ofTrees (Tree.mapNumbersItems Number.rounded items) = ofTrees items
  | [] => by rw [Tree.mapNumbersItems]
  | t :: ts => by
      rw [Tree.mapNumbersItems, ofTrees, ofTrees, ofTree_mapNumbers_rounded t,
        ofTrees_mapNumbersItems ts]

theorem ofMembers_mapNumbersMembers :
  ∀ members : List (String × Tree),
    ofMembers (Tree.mapNumbersMembers Number.rounded members) = ofMembers members
  | [] => by rw [Tree.mapNumbersMembers]
  | (k, t) :: es => by
      rw [Tree.mapNumbersMembers, ofMembers, ofMembers, ofTree_mapNumbers_rounded t,
        ofMembers_mapNumbersMembers es]

end

/-- Values and JSON trees are got back from each other, except for their numbers that the other
cannot have.  A value comes back with null for its numbers that are not finite, so unchanged
exactly if all are finite; a tree comes back with its integers past the signed words rounded to the
nearest binary64 numbers, so unchanged exactly if there are none.  Going both ways twice is the
same as going once. -/
theorem json_roundTrips (v : Value) (t : Tree) :
  ofTree v.toTree = v.mapFloats finiteOrNull
  ∧ (ofTree v.toTree = v ↔ ∀ x ∈ v.floats, x.isFinite = true)
  ∧ ofTree (ofTree v.toTree).toTree = ofTree v.toTree
  ∧ (ofTree t).toTree = t.mapNumbers Number.rounded
  ∧ ((ofTree t).toTree = t ↔ ∀ n ∈ t.numbers, ¬ n.IsPastInt64)
  ∧ (∀ n : Number, n.IsRounding n.rounded)
  ∧ (ofTree (ofTree t).toTree).toTree = (ofTree t).toTree
  := by
  have hvalue : ofTree (ofTree v.toTree).toTree = ofTree v.toTree := by
    rw [ofTree_toTree v, toTree_mapFloats_finiteOrNull, ofTree_toTree]
  have htree : (ofTree (ofTree t).toTree).toTree = (ofTree t).toTree := by
    rw [toTree_ofTree t, ofTree_mapNumbers_rounded, toTree_ofTree]
  refine ⟨ofTree_toTree v, ?_, hvalue, toTree_ofTree t, ?_, Number.isRounding_rounded, htree⟩
  · simp only [ofTree_toTree, mapFloats_eq_self_iff, finiteOrNull_eq_iff]
  · simp only [toTree_ofTree, Tree.mapNumbers_eq_self_iff, Number.rounded_eq_self_iff]

end Value

/-- A document that is written as JSON and read back has null for its numbers that are not finite. -/
theorem Document.ofTree_toTree (id : String) (d : Document) :
  Document.ofTree id d.toTree = .ok ⟨id, Value.mapFloatsFields Value.finiteOrNull d.fields⟩
  := by rw [Document.ofTree, Document.toTree, Value.ofTree_toTree, Value.mapFloats]

end AuditedStore
