import AuditedStore.Error
import AuditedStore.Json.Reader
import AuditedStore.Naming

/-!
# Settings

How a store is opened, and how the records of one collection are managed, with the JSON form
of both.  Missing members have their defaults, and unknown ones are passed over.
-/

namespace AuditedStore

open Json (Tree)

/-- The name of a kind in JSON. -/
def SchemaKind.name : SchemaKind → String
  | dynamic => "Dynamic"
  | typed => "Typed"

/-- Reads a kind from JSON: its name, or an object with null under its name. -/
def SchemaKind.ofTree? : Tree → Option SchemaKind
  | .string "Dynamic" => some dynamic
  | .string "Typed" => some typed
  | .object [("Dynamic", .null)] => some dynamic
  | .object [("Typed", .null)] => some typed
  | _ => none

/-- Where and how a store is opened. -/
structure RepositorySettings where
  connectionString : String := "memory://default"
  databaseName : String := "scribe"
  /-- Whether commands are logged. -/
  log : Bool := false
  indexingDisabled : Bool := false
  /-- Overrules how all kinds of record name their fields. -/
  fieldNaming : Option SchemaKind := none
deriving DecidableEq, Repr

namespace RepositorySettings

/-- The names of the settings in JSON, in order. -/
def names : List String :=
  ["connectionString", "databaseName", "log", "indexingDisabled", "fieldNaming"]

/-- Reads settings from JSON. -/
def ofTree? (t : Tree) : Option RepositorySettings := do
  let members ← t.recordMembers? names
  let connectionString ←
    Tree.member? members "connectionString" "memory://default" Tree.string?
  let databaseName ← Tree.member? members "databaseName" "scribe" Tree.string?
  let log ← Tree.member? members "log" false Tree.bool?
  let indexingDisabled ← Tree.member? members "indexingDisabled" false Tree.bool?
  let fieldNaming ← Tree.member? members "fieldNaming" none (Tree.optional? SchemaKind.ofTree?)
  pure { connectionString, databaseName, log, indexingDisabled, fieldNaming }

/-- Reads settings from JSON. -/
def ofTree (t : Tree) : Except Error RepositorySettings :=
  match ofTree? t with
  | some s => .ok s
  | none => .error .undecodable

/-- Reads settings from the text of a file, which is absent if the file is missing. -/
def ofFile (content : Option String) : Except Error RepositorySettings :=
  match content with
  | none => .error .unreadableFile
  | some text =>
    match Json.read? text with
    | some t => ofTree t
    | none => .error .undecodable

/-- The JSON form. -/
def toTree (s : RepositorySettings) : Tree :=
  .object (Assoc.ofList
    [ ("connectionString", .string s.connectionString),
      ("databaseName", .string s.databaseName),
      ("log", .bool s.log),
      ("indexingDisabled", .bool s.indexingDisabled),
      ("fieldNaming", Tree.optionString (s.fieldNaming.map SchemaKind.name)) ])

end RepositorySettings

/-- How the records of a collection are managed. -/
structure ManagerSettings where
  collectionName : String := ""
  auditCollectionName : String := ""
  /-- Whether operations without a setting are audited. -/
  auditByDefault : Bool := true
  /-- Whether the first save of a record is audited. -/
  auditNewItems : Bool := true
  auditSettings : Assoc String := []
  defaultAuditCap : Int64 := 100
  auditUser : String := "system"
  /-- The owner that searches and lookups are limited to. -/
  workingClientId : Option String := none

namespace ManagerSettings

/-- The names of the settings in JSON, in order. -/
def names : List String :=
  ["collectionName", "auditCollectionName", "auditByDefault", "auditNewItems",
    "auditSettings", "defaultAuditCap", "auditUser", "workingClientId"]

/-- The settings of a collection whose trails are kept beside it. -/
def ofCollection (collection : String) : ManagerSettings :=
  { collectionName := collection, auditCollectionName := collection ++ "Audit" }

/-- Reads settings from JSON. -/
def ofTree? (t : Tree) : Option ManagerSettings := do
  let members ← t.recordMembers? names
  let collectionName ← Tree.member? members "collectionName" "" Tree.string?
  let auditCollectionName ← Tree.member? members "auditCollectionName" "" Tree.string?
  let auditByDefault ← Tree.member? members "auditByDefault" true Tree.bool?
  let auditNewItems ← Tree.member? members "auditNewItems" true Tree.bool?
  let auditSettings ← Tree.member? members "auditSettings" [] Tree.stringMap?
  let defaultAuditCap ← Tree.member? members "defaultAuditCap" 100 Tree.int64?
  let auditUser ← Tree.member? members "auditUser" "system" Tree.string?
  let workingClientId ←
    Tree.member? members "workingClientId" none (Tree.optional? Tree.string?)
  pure { collectionName, auditCollectionName, auditByDefault, auditNewItems, auditSettings,
         defaultAuditCap, auditUser, workingClientId }

/-- Reads settings from JSON. -/
def ofTree (t : Tree) : Except Error ManagerSettings :=
  match ofTree? t with
  | some s => .ok s
  | none => .error .undecodable

/-- The JSON form. -/
def toTree (s : ManagerSettings) : Tree :=
  .object (Assoc.ofList
    [ ("collectionName", .string s.collectionName),
      ("auditCollectionName", .string s.auditCollectionName),
      ("auditByDefault", .bool s.auditByDefault),
      ("auditNewItems", .bool s.auditNewItems),
      ("auditSettings", .object (s.auditSettings.map fun e => (e.1, .string e.2))),
      ("defaultAuditCap", .int64 s.defaultAuditCap),
      ("auditUser", .string s.auditUser),
      ("workingClientId", Tree.optionString s.workingClientId) ])

end ManagerSettings

/-- The name of a collection with a text before and after it. -/
def collectionName (name : String) (before after : Option String) : String :=
  before.getD "" ++ name ++ after.getD ""

end AuditedStore
