import AuditedStore.Document.Path
import AuditedStore.Pattern.Basic
import AuditedStore.Query.Compare

/-!
# Predicates

A predicate is a condition on documents: comparisons of the value at a path with operands,
patterns, and conjunctions.  `Predicate.holds` is its meaning.  `Predicate.and` joins two
predicates into one without nesting conjunctions, and `Predicate.pinnedId?` is an id that
every document must have for which the predicate holds.
-/

namespace AuditedStore

/-- A condition on documents. -/
inductive Predicate where
  /-- Holds for every document. -/
  | all
  | equal (field : String) (operand : Value)
  | less (field : String) (operand : Value)
  | greater (field : String) (operand : Value)
  | search (field : String) (pattern : SearchPattern)
  | oneOf (field : String) (operands : List Value)
  /-- Holds where all of `nodes` do. -/
  | every (nodes : List Predicate)

namespace Predicate

instance : Inhabited Predicate := ⟨all⟩

/-- Whether a predicate is `all`. -/
def isAll : Predicate → Bool
  | all => true
  | _ => false

/-- Whether a pattern matches a text, or a text among the items of an array. -/
def searches (pattern : SearchPattern) : Value → Bool
  | .string s => pattern.matchesText s
  | .array items => items.any fun v => v.string?.any pattern.matchesText
  | _ => false

mutual

/-- Whether a predicate holds for a document.  A missing field equals null only. -/
def holds (d : Document) : Predicate → Bool
  | all => true
  | equal field operand =>
    match d.at? field with
    | some v => Query.compares .eq v operand
    | none => operand.isNull
  | less field operand => (d.at? field).any fun v => Query.compares .lt v operand
  | greater field operand => (d.at? field).any fun v => Query.compares .gt v operand
  | search field pattern => (d.at? field).any (searches pattern)
  | oneOf field operands =>
    operands.any fun operand => Query.compares .eq ((d.at? field).getD .null) operand
  | every nodes => holdAll d nodes

/-- Whether all predicates of a list hold for a document. -/
def holdAll (d : Document) : List Predicate → Bool
  | [] => true
  | p :: ps => p.holds d && holdAll d ps

end

/-- The conjunction of two predicates: `all` is dropped, and the nodes of conjunctions are
joined. -/
def and : Predicate → Predicate → Predicate
  | all, q => q
  | p, all => p
  | every ps, every qs => every (ps ++ qs)
  | every ps, q => every (ps ++ [q])
  | p, every qs => every (p :: qs)
  | p, q => every [p, q]

mutual

/-- An id that the documents must have for which a predicate holds. -/
def pinnedId? : Predicate → Option String
  | equal field (.string id) => if field = idField then some id else none
  | every nodes => firstPinnedId? nodes
  | _ => none

/-- The first id that a predicate of a list pins. -/
def firstPinnedId? : List Predicate → Option String
  | [] => none
  | p :: ps => (pinnedId? p).or (firstPinnedId? ps)

end

mutual

/-- Whether two predicates are equal; patterns are when their texts are. -/
def equals : Predicate → Predicate → Bool
  | all, all => true
  | equal f v, equal g w => f == g && v == w
  | less f v, less g w => f == g && v == w
  | greater f v, greater g w => f == g && v == w
  | search f p, search g q => f == g && p == q
  | oneOf f vs, oneOf g ws => f == g && Value.equalItems vs ws
  | every ps, every qs => equalNodes ps qs
  | _, _ => false

/-- Whether two lists of predicates are equal. -/
def equalNodes : List Predicate → List Predicate → Bool
  | [], [] => true
  | p :: ps, q :: qs => p.equals q && equalNodes ps qs
  | _, _ => false

end

instance : BEq Predicate := ⟨equals⟩

/-! ### The filter document -/

open Json (Tree)

mutual

/-- A predicate as a JSON document, for logs. -/
def toTree : Predicate → Tree
  | all => .object []
  | equal field v => .object [(field, v.toTree)]
  | less field v => .object [(field, .object [("$lt", v.toTree)])]
  | greater field v => .object [(field, .object [("$gt", v.toTree)])]
  | search field p =>
    .object [(field, .object [("$options", .string "i"), ("$regex", .string p.source)])]
  | oneOf field vs => .object [(field, .object [("$in", .array (Value.toTrees vs))])]
  | every nodes => .object [("$and", .array (toTrees nodes))]

/-- The JSON documents of a list of predicates. -/
def toTrees : List Predicate → List Tree
  | [] => []
  | p :: ps => p.toTree :: toTrees ps

end

end Predicate

end AuditedStore
