import AuditedStore.Store.Command

/-!
# Stores sorted by id

A collection is a tree of documents in the order of their ids.  All indexes are kept in one
tree, each under the name of its collection, a slash and its own name.  Collections whose
names start with two underscores belong to the store itself: they cannot be written, and
reading finds nothing in them.  An update works on a copy of its document, which replaces
the document only if no operation is refused.
-/

namespace AuditedStore

/-- What the names of collections that belong to the store start with. -/
def reservedMark : String := "__"

/-- A store whose collections are sorted by id. -/
structure SortedStore where
  trees : Assoc (Assoc Document) := []
  indexes : Assoc IndexDefinition := []

namespace SortedStore

instance : Inhabited SortedStore := ⟨{}⟩

/-- Whether a name belongs to the store. -/
def isReserved (name : String) : Bool := Text.beginsWith name reservedMark

/-- The documents of a collection by id; none if there is no such collection. -/
def tree (s : SortedStore) (name : String) : Assoc Document :=
  if isReserved name then [] else (Assoc.get? name s.trees).getD []

/-- Whether a collection exists. -/
def hasTree (s : SortedStore) (name : String) : Bool :=
  !isReserved name && Assoc.contains name s.trees

/-- Sets the documents of a collection. -/
def setTree (s : SortedStore) (name : String) (t : Assoc Document) : SortedStore :=
  { s with trees := Assoc.insert name t s.trees }

/-- The documents of a tree in the order of their ids. -/
def docs (t : Assoc Document) : List Document := t.map Prod.snd

/-- The documents that can satisfy a filter. -/
def candidates (t : Assoc Document) (filter : Predicate) : List Document :=
  match filter.pinnedId? with
  | some id => (Assoc.get? id t).toList
  | none => docs t

/-- The first document that satisfies a filter. -/
def firstMatch? (t : Assoc Document) (filter : Predicate) : Option Document :=
  (candidates t filter).find? fun d => filter.holds d

/-- Does `write` on the documents of a collection, which is made if it does not exist. -/
def writing (s : SortedStore) (name : String)
    (write : Assoc Document → Except Error α × Assoc Document) : Except Error α × SortedStore :=
  if isReserved name then (.error (.refused .reservedCollection), s)
  else
    let (answer, t) := write (s.tree name)
    (answer, s.setTree name t)

/-- Adds a document, unless its id is taken. -/
def insertNew (name : String) (d : Document) (t : Assoc Document) :
    Except Error Unit × Assoc Document :=
  if Assoc.contains d.id t then (.error (.duplicateKey name d.id), t)
  else (.ok (), Assoc.insert d.id d t)

/-- Replaces the first document that satisfies a filter, which keeps its id; with `upsert` a
document is added if there is none. -/
def replaceFirst (name : String) (filter : Predicate) (d : Document) (upsert : Bool)
    (t : Assoc Document) : Except Error UpdateResult × Assoc Document :=
  match firstMatch? t filter with
  | some old => (.ok (.ofChange true), Assoc.insert old.id { d with id := old.id } t)
  | none =>
    if upsert then
      match insertNew name d t with
      | (.ok (), t) => (.ok (.ofInsert d.id), t)
      | (.error e, t) => (.error e, t)
    else (.ok .unmatched, t)

/-- Updates the first document that satisfies a filter. -/
def update (s : SortedStore) (name : String) (filter : Predicate) (u : Update) :
    Except Error UpdateResult × SortedStore :=
  let t := s.tree name
  match firstMatch? t filter with
  | some old =>
    match u.run old with
    | (new, .ok changed) => (.ok (.ofChange changed), s.setTree name (Assoc.insert old.id new t))
    | (_, .error why) => (.error (.refused why), s)
  | none => (.ok .unmatched, s)

/-- What the keys of the indexes of a collection start with. -/
def indexKeyFront (collection : String) : String := collection ++ "/"

/-- The key of an index. -/
def indexKey (i : IndexDefinition) : String := indexKeyFront i.collection ++ i.name

/-- Removes a collection, and the indexes whose keys start as its own do. -/
def drop (s : SortedStore) (name : String) : SortedStore where
  trees := if s.hasTree name then Assoc.erase name s.trees else s.trees
  indexes := s.indexes.filter fun e => !Text.beginsWith e.1 (indexKeyFront name)

/-- Registers an index under its key. -/
def createIndex (s : SortedStore) (i : IndexDefinition) : Except Error String × SortedStore :=
  let (answer, s) := s.writing i.collection fun t => (.ok i.name, t)
  match answer with
  | .ok name => (.ok name, { s with indexes := Assoc.insert (indexKey i) i s.indexes })
  | .error e => (.error e, s)

instance : DocumentStore SortedStore where
  exec
    | .find name filter options, s =>
      (.ok (options.select filter (candidates (s.tree name) filter)), s)
    | .count name filter, s =>
      (.ok ((candidates (s.tree name) filter).countP fun d => filter.holds d), s)
    | .insert name d, s => s.writing name (insertNew name d)
    | .replace name filter d upsert, s => s.writing name (replaceFirst name filter d upsert)
    | .update name filter u, s => s.update name filter u
    | .drop name, s => (.ok (), s.drop name)
    | .listCollections wanted, s =>
      (.ok ((Assoc.keys s.trees).filter fun n => !isReserved n && isWanted wanted n), s)
    | .createIndex i, s => s.createIndex i
    | .listIndexes name, s =>
      (.ok ((s.indexes.filter fun e => Text.beginsWith e.1 (indexKeyFront name)).map Prod.snd), s)

end SortedStore

end AuditedStore
