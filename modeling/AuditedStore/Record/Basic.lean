import AuditedStore.Document.Basic
import AuditedStore.Index
import AuditedStore.Record.BaseFields
import AuditedStore.Update

/-!
# Records

A record type says how its records become documents and back, and how it names its fields.
Strictly named records go through JSON: the field `Id` of the JSON object becomes the id of
the document.  Entities are records that carry the shared fields.
-/

namespace AuditedStore

/-- A type of records. -/
class Record (α : Type) where
  schema : SchemaKind
  toDocument : α → Except Error Document
  ofDocument : Document → Except Error α

/-- Documents are loosely named records. -/
instance : Record Document where
  schema := .dynamic
  toDocument := .ok
  ofDocument := .ok

namespace Record

/-- The document of a strictly named record in JSON. -/
def documentOfTree (t : Json.Tree) : Except Error Document := do
  let d ← Document.ofTree "" t
  match Assoc.get? recordIdField d.fields with
  | some (.string id) => pure ⟨id, Assoc.erase recordIdField d.fields⟩
  | _ => .error (.refused .missingId)

/-- The JSON form of the strictly named record in a document. -/
def treeOfDocument (d : Document) : Json.Tree := (d.set recordIdField (.string d.id)).toTree

end Record

/-- A type of records that carry the shared fields. -/
class Entity (α : Type) extends Record α where
  base : α → BaseFields
  withBase : α → BaseFields → α
  /-- The indexes that the collection of the records should have. -/
  indexedFields : List IndexedField

/-- The update that changes nothing but restates an id. -/
def Update.restateId (id : ObjectId) : Update := [.set idField (.string id.toText)]

end AuditedStore
