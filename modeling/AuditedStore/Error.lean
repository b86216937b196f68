import AuditedStore.ObjectId
import AuditedStore.Value.Display

/-!
# Errors

The causes for which operations fail, and the text of each.  Causes that come from reading
JSON, patterns or files carry no detail.
-/

namespace AuditedStore

/-- Why a document, record or store refuses an operation. -/
inductive Refusal where
  /-- An update sets the id of a document to another one. -/
  | immutableId
  /-- A path leads through a value that is not an object. -/
  | blockedPath (path : String)
  /-- An array to push to cannot be made. -/
  | blockedArray (path : String)
  | pushToNonArray (path : String)
  | popFromNonArray (path : String)
  /-- A record has another id already. -/
  | assignedId (existing : ObjectId)
  /-- A record without id is to be stored. -/
  | missingId
  /-- A collection has a name that a store keeps to itself. -/
  | reservedCollection
  /-- Indexes are to be made for a collection without a name. -/
  | unnamedCollection

/-- What an operation looked for in vain. -/
inductive Missing where
  | record (id collection : String)
  | trail (id collection : String)

/-- Why a value is not of the form that was expected. -/
inductive Malformed where
  | notObject (actual : Value)
  | notTrail (id : String) (actual : Value)

/-- Why an operation fails. -/
inductive Error where
  | invalidId (text : String)
  | duplicateKey (collection id : String)
  | invalidConnection (text : String)
  | notFound (what : Missing)
  | refused (why : Refusal)
  | malformed (why : Malformed)
  /-- JSON that does not have the form of a record or of settings. -/
  | undecodable
  | invalidPattern
  | unreadableFile

/-- The text of a refusal. -/
def Refusal.message : Refusal → String
  | immutableId => "the document id is immutable"
  | blockedPath path => "cannot set '" ++ path ++ "' through a non-object value"
  | blockedArray path => "cannot create array at '" ++ path ++ "'"
  | pushToNonArray path => "cannot push to non-array field '" ++ path ++ "'"
  | popFromNonArray path => "cannot pop from non-array field '" ++ path ++ "'"
  | assignedId existing => "id " ++ existing.toText ++ " is already assigned"
  | missingId => "record has no id; stamp it before storing"
  | reservedCollection => "collection names may not start with '__'"
  | unnamedCollection => "no collection configured for indexing"

/-- The text of what is missing. -/
def Missing.message : Missing → String
  | record id collection => id ++ " in " ++ collection
  | trail id collection => "audit container " ++ id ++ " in " ++ collection

/-- The text of a wrong form. -/
def Malformed.message : Malformed → String
  | notObject actual => "expected an object, got " ++ actual.display
  | notTrail id actual => "audit container " ++ id ++ " has a non-array trail: " ++ actual.display

/-- The text of an error. -/
def Error.message : Error → String
  | invalidId text => "Invalid id '" ++ text ++ "': expected a 24 character hex object id"
  | duplicateKey collection id =>
    "Duplicate key '" ++ id ++ "' in collection '" ++ collection ++ "'"
  | invalidConnection text => "Invalid connection string: " ++ text
  | notFound what => "Not found: " ++ what.message
  | refused why => "Invalid operation: " ++ why.message
  | malformed why => "Serialization error: " ++ why.message
  | undecodable => "Serialization error: unexpected JSON"
  | invalidPattern => "Invalid pattern: not a regular expression"
  | unreadableFile => "I/O error: the file cannot be read"

/-- Reads an object id, or says which text is not one. -/
def ObjectId.read (s : String) : Except Error ObjectId :=
  match ObjectId.read? s with
  | some id => .ok id
  | none => .error (.invalidId s)

end AuditedStore
