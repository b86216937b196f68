import AuditedStore.Record.Basic
import AuditedStore.Store.Command

/-!
# Searches

A search looks at the records that are neither deleted nor archived, unless it asks
otherwise, narrows them to an owner and to those whose search text matches a term, applies a
filter, and gives one page of what is left together with the number of all.  The number and
the page are two commands to the store.
-/

namespace AuditedStore

/-- The logical names of the fields that searches use. -/
def deletedField : String := "deleted"

@[inherit_doc deletedField]
def archivedField : String := "archived"

@[inherit_doc deletedField]
def clientIdField : String := "clientId"

@[inherit_doc deletedField]
def quickSearchField : String := "quickSearchValue"

/-- What to search for, and which page to give. -/
structure SearchRequest where
  term : Option String := none
  filter : Option String := none
  sort : Option String := none
  startAt : Nat := 0
  pageSize : Nat := 500
  deleted : Bool := false
  ignoreDeleted : Bool := false
  archived : Bool := false
  ignoreArchived : Bool := false
  clientId : Option String := none
deriving DecidableEq, Repr

/-- One page of results, with the request that asked for it. -/
structure SearchResult (α : Type) where
  results : List α
  totalCount : Nat
  pageSize : Nat
  startAt : Nat
  sort : Option String := none
  term : Option String := none
  filter : Option String := none

namespace SearchRequest

/-- A text, unless it is blank. -/
def nonBlank (s : String) : Option String := if Text.isBlank s then none else some s

/-- The request with another term; a blank one is none. -/
def withTerm (r : SearchRequest) (s : String) : SearchRequest := { r with term := nonBlank s }

/-- The request with another filter; a blank one is none. -/
def withFilter (r : SearchRequest) (s : String) : SearchRequest := { r with filter := nonBlank s }

/-- The request with another sort order; a blank one is none. -/
def withSort (r : SearchRequest) (s : String) : SearchRequest := { r with sort := nonBlank s }

/-- The request for the records of an owner; a blank one is none. -/
def withClient (r : SearchRequest) (s : String) : SearchRequest := { r with clientId := nonBlank s }

/-- The condition that a flag has a value, unless the flag is ignored. -/
def flagPredicate (ignored : Bool) (field : String) (flag : Bool) : Predicate :=
  if ignored then .all else .equal field (.bool flag)

/-- The condition that a record belongs to an owner. -/
def clientPredicate (kind : SchemaKind) : Option String → Predicate
  | some c => .equal (kind.normalize clientIdField) (.string c)
  | none => .all

/-- The condition that the search text of a record matches a term. -/
def termPredicate (kind : SchemaKind) : Option String → Except Error Predicate
  | some t =>
    match SearchPattern.read? t with
    | some p => .ok (.search (kind.normalize quickSearchField) p)
    | none => .error .invalidPattern
  | none => .ok .all

/-- The condition of a request; it fails only if the term is not a pattern. -/
def predicate (r : SearchRequest) (kind : SchemaKind) : Except Error Predicate := do
  let deleted := flagPredicate r.ignoreDeleted (kind.normalize deletedField) r.deleted
  let archived := flagPredicate r.ignoreArchived (kind.normalize archivedField) r.archived
  let term ← termPredicate kind r.term
  let base := ((deleted.and archived).and (clientPredicate kind r.clientId)).and term
  pure (r.filter.elim base (base.withFilter kind))

/-- The options of a request for its page. -/
def options (r : SearchRequest) (kind : SchemaKind) : FindOptions where
  sort := (r.sort.bind (SortSpec.read? kind)).getD []
  skip := r.startAt
  limit := some r.pageSize

end SearchRequest

/-- Whether an id is that of a document. -/
def Predicate.hasId (id : String) : Predicate := .equal idField (.string id)

namespace Search

variable {σ : Type} [DocumentStore σ]

/-- Runs a search, reading each hit as a record. -/
def run (α : Type) [Record α] (collection : String) (r : SearchRequest) (kind : SchemaKind) :
    StoreM σ (SearchResult α) := do
  let p ← r.predicate kind
  let totalCount ← perform (.count collection p)
  let docs ← perform (.find collection p (r.options kind))
  let results ← (docs.mapM Record.ofDocument : Except Error (List α))
  pure { results, totalCount, pageSize := r.pageSize, startAt := r.startAt,
         sort := r.sort, term := r.term, filter := r.filter }

/-- The condition for a lookup by id, narrowed to an owner that is not blank. -/
def lookupPredicate (id : String) (client : Option String) (kind : SchemaKind) : Predicate :=
  (Predicate.hasId id).and
    (SearchRequest.clientPredicate kind (client.bind SearchRequest.nonBlank))

/-- The record with an id, narrowed to an owner that is not blank. -/
def lookup (α : Type) [Record α] (collection id : String) (client : Option String)
    (kind : SchemaKind) : StoreM σ (Option α) := do
  match ← findOne collection (lookupPredicate id client kind) {} with
  | none => pure none
  | some d => some <$> (Record.ofDocument d : Except Error α)

/-- Whether a document with an id exists. -/
def isPresent (collection id : String) : StoreM σ Bool := do
  let n ← perform (.count collection (.hasId id))
  pure (0 < n)

/-- Whether a document with an id satisfies a request, of which the term and the page do not
count. -/
def isIncluded (collection id : String) (r : SearchRequest) (kind : SchemaKind) :
    StoreM σ Bool := do
  let p ← { r with term := none, sort := none }.predicate kind
  let n ← perform (.count collection (p.and (.hasId id)))
  pure (0 < n)

end Search

end AuditedStore
