import AuditedStore.Document.Basic

/-!
# Dotted paths

A path is a list of field names, written with dots between them, and leads through nested
objects.  `Fields.at?` follows a path, and `Fields.setAt?` sets the value at one, making the
objects on the way that are missing and failing if another value is in the way.  For
reading, the path `_id` addresses the id of a document.
-/

namespace AuditedStore

/-- The names of a dotted path; there is at least one. -/
def pathNames (path : String) : List String := Text.split '.' path

/-- The value at a path. -/
def Fields.at? : List String → Fields → Option Value
  | [], _ => none
  | [k], fields => Assoc.get? k fields
  | k :: l :: ks, fields =>
    match Assoc.get? k fields with
    | some (.object inner) => Fields.at? (l :: ks) inner
    | _ => none

/-- Sets the value at a path. -/
def Fields.setAt? (v : Value) : List String → Fields → Option Fields
  | [], _ => none
  | [k], fields => some (Assoc.insert k v fields)
  | k :: l :: ks, fields =>
    match Assoc.get? k fields with
    | none =>
      (Fields.setAt? v (l :: ks) []).map fun inner => Assoc.insert k (.object inner) fields
    | some (.object inner) =>
      (Fields.setAt? v (l :: ks) inner).map fun inner => Assoc.insert k (.object inner) fields
    | some _ => none

namespace Document

/-- The value of the fields at a path. -/
def fieldAt? (d : Document) (path : String) : Option Value := Fields.at? (pathNames path) d.fields

/-- The value at a path, where `_id` is the path of the id. -/
def at? (d : Document) (path : String) : Option Value :=
  if path = idField then some (.string d.id) else d.fieldAt? path

/-- The document with another value at a path. -/
def setAt? (d : Document) (path : String) (v : Value) : Option Document :=
  (Fields.setAt? v (pathNames path) d.fields).map fun fields => { d with fields := fields }

end Document

end AuditedStore
