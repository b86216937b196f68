import AuditedStore.Text
import AuditedStore.Unicode.CaseMapping

/-!
# Field names

Records either name their fields loosely, with a small first letter, or strictly, with a
capital one.  A logical name is turned into a stored one by changing the case of its first
character.  The id of a strictly named record is kept outside its fields, so queries for
its `Id` are queries for `_id`.
-/

namespace AuditedStore

/-- How a kind of record names its fields. -/
inductive SchemaKind where
  | dynamic
  | typed
deriving DecidableEq, Repr

/-- The name by which queries address the id of a document. -/
def idField : String := "_id"

/-- The field that holds the id of a strictly named record. -/
def recordIdField : String := "Id"

namespace SchemaKind

/-- A kind that may be overruled. -/
def resolve (kind : SchemaKind) (forced : Option SchemaKind) : SchemaKind := forced.getD kind

/-- The case of the first character of a name. -/
def adjust : SchemaKind → Char → List Char
  | dynamic, c => Unicode.toLower c
  | typed, c => Unicode.toUpper c

/-- The stored name of a field; blank names are left as they are. -/
def normalize (kind : SchemaKind) (field : String) : String :=
  if Text.isBlank field then field
  else match field.toList with
    | [] => field
    | c :: cs => String.ofList (kind.adjust c ++ cs)

/-- The stored name of a field in a query, without blanks around it. -/
def queryField (kind : SchemaKind) (field : String) : String :=
  let name := kind.normalize (Text.trim field)
  if kind = typed ∧ name = recordIdField then idField else name

end SchemaKind

end AuditedStore
