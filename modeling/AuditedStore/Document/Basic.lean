import AuditedStore.Error
import AuditedStore.Naming
import AuditedStore.Value.Json

/-!
# Documents

A document is an id and named fields.  It can be flattened into an object that carries the
id under `_id`, and restored from one; and its fields can be read from JSON and written to
it.
-/

namespace AuditedStore

/-- A stored document. -/
structure Document where
  id : String
  fields : Fields

namespace Document

instance : Inhabited Document := ⟨⟨"", []⟩⟩

/-- The document with a field set. -/
def set (d : Document) (name : String) (v : Value) : Document :=
  { d with fields := Assoc.insert name v d.fields }

/-- The document as an object that carries its id. -/
def toValue (d : Document) : Value := .object (Assoc.insert idField (.string d.id) d.fields)

/-- The document of an object; an object without a text for its id gives the empty id. -/
def ofValue : Value → Except Error Document
  | .object fields =>
    let id := match Assoc.get? idField fields with
      | some (.string id) => id
      | _ => ""
    .ok ⟨id, Assoc.erase idField fields⟩
  | v => .error (.malformed (.notObject v))

/-- The document with a given id whose fields are the members of a JSON object. -/
def ofTree (id : String) (t : Json.Tree) : Except Error Document :=
  match Value.ofTree t with
  | .object fields => .ok ⟨id, fields⟩
  | v => .error (.malformed (.notObject v))

/-- The fields as a JSON object. -/
def toTree (d : Document) : Json.Tree := (Value.object d.fields).toTree

/-- The text of a document. -/
def display (d : Document) : String :=
  let parts := (Value.quoted idField ++ ": " ++ Value.quoted d.id) :: Value.displayFields d.fields
  Value.braced (" " ++ Value.commaSeparated parts ++ " ")

end Document

end AuditedStore
