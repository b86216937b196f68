import AuditedStore.Store.Command
import Std.Data.HashMap

/-!
# Stores in memory

A collection is a list of documents in the order of their insertion, with the position of
every id, so that a filter that pins an id need not scan the list.  Inserting, replacing and
creating an index make a collection that does not exist.  An update changes its document in
place: what it did before an operation was refused stays.
-/

namespace AuditedStore

/-- A collection in memory. -/
structure Collection where
  docs : List Document := []
  positions : Std.HashMap String Nat := ∅

namespace Collection

/-- The document with an id. -/
def lookup? (c : Collection) (id : String) : Option Document :=
  (c.positions[id]?).bind fun i => c.docs[i]?

/-- The documents that can satisfy a filter. -/
def candidates (c : Collection) (filter : Predicate) : List Document :=
  match filter.pinnedId? with
  | some id => (c.lookup? id).toList
  | none => c.docs

/-- The position of the first document that satisfies a filter. -/
def position? (c : Collection) (filter : Predicate) : Option Nat :=
  match filter.pinnedId? with
  | some id => (c.positions[id]?).filter fun i => (c.docs[i]?).any fun d => filter.holds d
  | none => c.docs.findIdx? fun d => filter.holds d

/-- Whether an id is taken. -/
def hasId (c : Collection) (id : String) : Bool := c.positions.contains id

/-- Adds a document at the end. -/
def push (c : Collection) (d : Document) : Collection where
  docs := c.docs ++ [d]
  positions := c.positions.insert d.id c.docs.length

/-- Puts another document at a position. -/
def setAt (c : Collection) (i : Nat) (d : Document) : Collection :=
  { c with docs := c.docs.set i d }

end Collection

/-- A store in memory. -/
structure MemoryStore where
  collections : Assoc Collection := []
  indexes : Assoc (List IndexDefinition) := []

namespace MemoryStore

instance : Inhabited MemoryStore := ⟨{}⟩

/-- The collection with a name; empty if there is none. -/
def collection (s : MemoryStore) (name : String) : Collection :=
  (Assoc.get? name s.collections).getD {}

/-- Sets the collection with a name. -/
def setCollection (s : MemoryStore) (name : String) (c : Collection) : MemoryStore :=
  { s with collections := Assoc.insert name c s.collections }

/-- Adds a document, unless its id is taken. -/
def insert (s : MemoryStore) (name : String) (d : Document) : Except Error Unit × MemoryStore :=
  let c := s.collection name
  if c.hasId d.id then (.error (.duplicateKey name d.id), s.setCollection name c)
  else (.ok (), s.setCollection name (c.push d))

/-- Replaces the first document that satisfies a filter, which keeps its id and position;
with `upsert` a document is added if there is none. -/
def replace (s : MemoryStore) (name : String) (filter : Predicate) (d : Document) (upsert : Bool) :
    Except Error UpdateResult × MemoryStore :=
  let c := s.collection name
  match (c.position? filter).bind fun i => (c.docs[i]?).map (i, ·) with
  | some (i, old) =>
    (.ok (.ofChange true), s.setCollection name (c.setAt i { d with id := old.id }))
  | none =>
    if upsert then
      match s.insert name d with
      | (.ok (), s) => (.ok (.ofInsert d.id), s)
      | (.error e, s) => (.error e, s)
    else (.ok .unmatched, s.setCollection name c)

/-- Updates the first document that satisfies a filter, in place. -/
def update (s : MemoryStore) (name : String) (filter : Predicate) (u : Update) :
    Except Error UpdateResult × MemoryStore :=
  let c := s.collection name
  match (c.position? filter).bind fun i => (c.docs[i]?).map (i, ·) with
  | some (i, old) =>
    let (new, outcome) := u.run old
    let s := s.setCollection name (c.setAt i new)
    match outcome with
    | .ok changed => (.ok (.ofChange changed), s)
    | .error why => (.error (.refused why), s)
  | none => (.ok .unmatched, s)

/-- Registers an index in place of one with the same name. -/
def createIndex (s : MemoryStore) (i : IndexDefinition) : MemoryStore :=
  let others := ((Assoc.get? i.collection s.indexes).getD []).filter (·.name != i.name)
  let s := s.setCollection i.collection (s.collection i.collection)
  { s with indexes := Assoc.insert i.collection (others ++ [i]) s.indexes }

instance : DocumentStore MemoryStore where
  exec
    | .find name filter options, s =>
      (.ok (options.select filter ((s.collection name).candidates filter)), s)
    | .count name filter, s =>
      (.ok (((s.collection name).candidates filter).countP fun d => filter.holds d), s)
    | .insert name d, s => s.insert name d
    | .replace name filter d upsert, s => s.replace name filter d upsert
    | .update name filter u, s => s.update name filter u
    | .drop name, s =>
      (.ok (), { collections := Assoc.erase name s.collections
                 indexes := Assoc.erase name s.indexes })
    | .listCollections wanted, s =>
      (.ok ((Assoc.keys s.collections).filter (isWanted wanted)), s)
    | .createIndex i, s => (.ok i.name, s.createIndex i)
    | .listIndexes name, s => (.ok ((Assoc.get? name s.indexes).getD []), s)

end MemoryStore

end AuditedStore
