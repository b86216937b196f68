import AuditedStore.Error

/-!
# Connections

A connection string names a kind of store and what to open: `memory://` with a name, or
`sled://` with a directory.  The database name picks a part of it.  `Connection.location`
is where the store of a database lives; equal locations are one store.
-/

namespace AuditedStore

/-- What a connection string names. -/
inductive Connection where
  | memory (name : String)
  | directory (path : String)
deriving DecidableEq, Repr

/-- Where the store of a database lives. -/
inductive Location where
  | memory (key : String)
  | directory (absolute : Bool) (parts : List String)
deriving DecidableEq, Repr

namespace Connection

/-- Reads a connection string. -/
def read (text : String) : Except Error Connection :=
  match Text.cut "://" text with
  | none => .error (.invalidConnection text)
  | some (scheme, rest) =>
    if Text.isBlank rest then .error (.invalidConnection text)
    else match Text.asciiLower scheme with
      | "memory" => .ok (.memory rest)
      | "sled" => .ok (.directory rest)
      | _ => .error (.invalidConnection text)

/-- Whether a path starts at the root. -/
def isAbsolute (path : String) : Bool := Text.beginsWith path "/"

/-- The parts of a path between slashes; `.` counts only at the start of a relative path. -/
def pathParts (path : String) : List String :=
  match (Text.split '/' path).filter (· != "") with
  | "." :: parts =>
    if isAbsolute path then parts.filter (· != ".") else "." :: parts.filter (· != ".")
  | parts => parts.filter (· != ".")

/-- Where a database of a connection lives.  A directory has a subdirectory for each
database, unless the name of the database is an absolute path. -/
def location (database : String) : Connection → Location
  | memory name => .memory (name ++ "/" ++ database)
  | directory path =>
    if isAbsolute database then .directory true (pathParts database)
    else .directory (isAbsolute path) (pathParts (path ++ "/" ++ database))

end Connection

end AuditedStore
