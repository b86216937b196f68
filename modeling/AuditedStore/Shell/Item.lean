import AuditedStore.Record.Basic

/-!
# Items

The records that the shell keeps: an entity with a name, and an index of the names.
-/

namespace AuditedStore.Shell

open Json (Tree)

/-- A named item. -/
structure Item where
  base : BaseFields
  name : String
deriving DecidableEq

namespace Item

/-- The JSON form: the shared fields and the name in one object. -/
def toTree (i : Item) : Tree := .object (Assoc.insert "Name" (.string i.name) i.base.toMembers)

/-- Reads an item from a JSON object; missing fields have their defaults. -/
def ofTree? (t : Tree) : Option Item := do
  let members ← t.objectMembers? ("Name" :: BaseFields.names)
  let base ← BaseFields.ofMembers? members
  let name ← Tree.member? members "Name" "" Tree.string?
  pure { base, name }

/-- Reads an item from JSON. -/
def ofTree (t : Tree) : Except Error Item :=
  match ofTree? t with
  | some i => .ok i
  | none => .error .undecodable

instance : Record Item where
  schema := .typed
  toDocument i := Record.documentOfTree i.toTree
  ofDocument d := ofTree (Record.treeOfDocument d)

instance : Entity Item where
  base := Item.base
  withBase i b := { i with base := b }
  indexedFields := [⟨"name", "name", 0, .ascending⟩]

/-- A new item, which is searched by its name. -/
def named (name : String) : Item := { base := { quickSearchValue := name }, name := name }

end Item

end AuditedStore.Shell
