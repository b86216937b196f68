import AuditedStore.Calendar.Timestamp
import AuditedStore.Error
import AuditedStore.Json.Tree

/-!
# The fields of every record

The fields for identity, ownership, search and auditing that all stored records share, with
their JSON form.  A record is stamped before it is written: it gets an id if it has none,
its creation is noted once, and its last update always.
-/

namespace AuditedStore

open Json (Tree)

/-- The fields that all records share. -/
structure BaseFields where
  id : Option ObjectId := none
  deleted : Bool := false
  archived : Bool := false
  clientId : Option String := none
  quickSearchValue : String := ""
  createdBy : Option String := none
  createdDate : Option Instant := none
  updatedBy : Option String := none
  updatedDate : Option Instant := none
  version : Int64 := 0
deriving DecidableEq

namespace BaseFields

/-- The names of the fields in JSON, in order. -/
def names : List String :=
  ["Id", "Deleted", "Archived", "ClientId", "QuickSearchValue", "CreatedBy", "CreatedDate",
    "UpdatedBy", "UpdatedDate", "Version"]

/-- A date in JSON, or null. -/
def treeOfDate (date : Option Instant) : Tree := Tree.optionString (date.map Instant.toText)

/-- A field that is left out when it is absent. -/
def optionalMember (name : String) : Option String → List (String × Tree)
  | some s => [(name, .string s)]
  | none => []

/-- The JSON members; an absent id or client is left out, other absent fields are null. -/
def toMembers (b : BaseFields) : Assoc Tree :=
  Assoc.ofList (
    optionalMember "Id" (b.id.map ObjectId.toText)
    ++ [("Deleted", .bool b.deleted), ("Archived", .bool b.archived)]
    ++ optionalMember "ClientId" b.clientId
    ++ [("QuickSearchValue", .string b.quickSearchValue),
      ("CreatedBy", Tree.optionString b.createdBy), ("CreatedDate", treeOfDate b.createdDate),
      ("UpdatedBy", Tree.optionString b.updatedBy), ("UpdatedDate", treeOfDate b.updatedDate),
      ("Version", .int64 b.version)])

/-- Reads an object id from JSON. -/
def id? (t : Tree) : Option ObjectId := t.string?.bind ObjectId.read?

/-- Reads an instant from JSON. -/
def date? (t : Tree) : Option Instant := t.string?.bind Instant.read?

/-- Reads the fields from JSON members; missing ones have their defaults. -/
def ofMembers? (members : Assoc Tree) : Option BaseFields := do
  let id ← Tree.member? members "Id" none (Tree.optional? id?)
  let deleted ← Tree.member? members "Deleted" false Tree.bool?
  let archived ← Tree.member? members "Archived" false Tree.bool?
  let clientId ← Tree.member? members "ClientId" none (Tree.optional? Tree.string?)
  let quickSearchValue ← Tree.member? members "QuickSearchValue" "" Tree.string?
  let createdBy ← Tree.member? members "CreatedBy" none (Tree.optional? Tree.string?)
  let createdDate ← Tree.member? members "CreatedDate" none (Tree.optional? date?)
  let updatedBy ← Tree.member? members "UpdatedBy" none (Tree.optional? Tree.string?)
  let updatedDate ← Tree.member? members "UpdatedDate" none (Tree.optional? date?)
  let version ← Tree.member? members "Version" 0 Tree.int64?
  pure { id, deleted, archived, clientId, quickSearchValue, createdBy, createdDate, updatedBy,
         updatedDate, version }

/-- Reads the fields from JSON. -/
def ofTree (t : Tree) : Except Error BaseFields :=
  match (t.recordMembers? names).bind ofMembers? with
  | some b => .ok b
  | none => .error .undecodable

/-- The JSON form. -/
def toTree (b : BaseFields) : Tree := .object b.toMembers

/-- Assigns an id given as text; an id that is assigned cannot be changed. -/
def assignId (b : BaseFields) (text : String) : Except Error BaseFields := do
  let id ← ObjectId.read text
  match b.id with
  | some existing =>
    if existing = id then pure b else .error (.refused (.assignedId existing))
  | none => pure { b with id := some id }

/-- What stamping does. -/
structure Stamped where
  base : BaseFields
  /-- Whether the record is new: it had no id or no date of creation. -/
  isNew : Bool
  generator : ObjectId.Generator

/-- Stamps a record ahead of a write by `user` at the instant `now`. -/
def stamp (b : BaseFields) (user : String) (now : Instant) (g : ObjectId.Generator) : Stamped :=
  let (id, g) := match b.id with
    | some id => (id, g)
    | none => g.next now
  let isNew := b.id.isNone || b.createdDate.isNone
  let created := if isNew then { b with createdBy := some user, createdDate := some now } else b
  { base := { created with id := some id, updatedBy := some user, updatedDate := some now }
    isNew := isNew
    generator := g }

end BaseFields

end AuditedStore
