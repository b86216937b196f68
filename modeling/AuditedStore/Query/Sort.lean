import AuditedStore.Document.Path
import AuditedStore.Value.Order

/-!
# Sort orders

A sort order is a list of fields, each ascending or descending; documents that agree in one
are ordered by the next.  Missing fields count as null.  Sorting keeps the order of documents
that agree in all.  The text of an order is a list of fields with commas between them, each
followed by `desc` if it descends.
-/

namespace AuditedStore

/-- The direction of an order. -/
inductive Direction where
  | ascending
  | descending
deriving DecidableEq, Repr

/-- The number that stands for a direction in JSON. -/
def Direction.sign : Direction → Int64
  | ascending => 1
  | descending => -1

/-- A field with the direction of its order. -/
structure SortKey where
  field : String
  direction : Direction
deriving DecidableEq, Repr

/-- Fields with directions as a JSON object, where the last direction of a field counts. -/
def SortKey.toTree (keys : List SortKey) : Json.Tree :=
  .object (Assoc.ofList (keys.map fun k => (k.field, .int64 k.direction.sign)))

/-- A sort order; the empty one leaves documents as they are. -/
abbrev SortSpec := List SortKey

/-- Compares two documents by one field. -/
def SortKey.compare (k : SortKey) (a b : Document) : Ordering :=
  let v := (a.at? k.field).getD .null
  let w := (b.at? k.field).getD .null
  match k.direction with
  | .ascending => v.compareTo w
  | .descending => w.compareTo v

namespace SortSpec

/-- Compares two documents by the fields in turn. -/
def compare : SortSpec → Document → Document → Ordering
  | [], _, _ => .eq
  | k :: ks, a, b => (k.compare a b).then (SortSpec.compare ks a b)

/-- Sorts documents, keeping the order of those that compare equal. -/
def sort (spec : SortSpec) (ds : List Document) : List Document :=
  ds.mergeSort fun a b => spec.compare a b != .gt

/-- Reads a field with its direction; a clause without words is none. -/
def readKey? (kind : SchemaKind) (clause : String) : Option SortKey :=
  match Text.words clause with
  | [] => none
  | [field] => some ⟨kind.queryField field, .ascending⟩
  | field :: word :: _ =>
    some ⟨kind.queryField field,
      if Text.sameIgnoringCase word "desc" then .descending else .ascending⟩

/-- Reads a sort order; a text without fields is none. -/
def read? (kind : SchemaKind) (text : String) : Option SortSpec :=
  match (Text.split ',' text).filterMap (readKey? kind) with
  | [] => none
  | keys => some keys

end SortSpec

end AuditedStore
