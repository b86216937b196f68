import AuditedStore.Record.Basic

/-!
# Cards

A payment card with a name and a limit: an entity that declares two indexes.
-/

namespace AuditedStore

open Json (Tree)

/-- A card. -/
structure Card where
  base : BaseFields
  name : String
  limit : Int64
deriving DecidableEq

namespace Card

/-- The JSON form: the shared fields, the name and the limit in one object. -/
def toTree (c : Card) : Tree :=
  .object (Assoc.insert "Name" (.string c.name)
    (Assoc.insert "Limit" (.int64 c.limit) c.base.toMembers))

/-- Reads a card from a JSON object; missing fields have their defaults. -/
def ofTree? (t : Tree) : Option Card := do
  let members ← t.objectMembers? ("Name" :: "Limit" :: BaseFields.names)
  let base ← BaseFields.ofMembers? members
  let name ← Tree.member? members "Name" "" Tree.string?
  let limit ← Tree.member? members "Limit" 0 Tree.int64?
  pure { base, name, limit }

/-- Reads a card from JSON. -/
def ofTree (t : Tree) : Except Error Card :=
  match ofTree? t with
  | some c => .ok c
  | none => .error .undecodable

instance : Record Card where
  schema := .typed
  toDocument c := Record.documentOfTree c.toTree
  ofDocument d := ofTree (Record.treeOfDocument d)

instance : Entity Card where
  base := Card.base
  withBase c b := { c with base := b }
  indexedFields :=
    [ ⟨"by_limit", "limit", 1, .descending⟩,
      ⟨"by_limit", "name", 0, .ascending⟩,
      ⟨"by_client", "clientId", 0, .ascending⟩ ]

end Card

end AuditedStore
