import AuditedStore.Record.Basic

/-!
# Audit containers

The snapshots of one record are kept in one document, which has the id of the record and an
array of flattened snapshots, the oldest first.
-/

namespace AuditedStore

/-- The field of a container that holds the snapshots. -/
def auditItemsField : String := "auditItems"

/-- The snapshots of one record, the oldest first. -/
structure AuditContainer (α : Type) where
  id : String
  items : List α

namespace AuditContainer

/-- The flattened snapshots in the document of a container. -/
def snapshots (d : Document) : Except Error (List Value) :=
  match Assoc.get? auditItemsField d.fields with
  | some (.array items) => .ok items
  | none => .ok []
  | some .null => .ok []
  | some v => .error (.malformed (.notTrail d.id v))

/-- Restores a record from a flattened snapshot. -/
def restore (α : Type) [Record α] (v : Value) : Except Error α :=
  (Document.ofValue v).bind Record.ofDocument

/-- Reads the document of a container. -/
def ofDocument (α : Type) [Record α] (d : Document) : Except Error (AuditContainer α) := do
  let values ← snapshots d
  let items ← values.mapM (restore α)
  pure ⟨d.id, items⟩

/-- The document of a container with one snapshot. -/
def first (id : String) (snapshot : Value) : Document :=
  ⟨id, [(auditItemsField, .array [snapshot])]⟩

end AuditContainer

end AuditedStore
