import AuditedStore.Store.Command

/-!
# Logged stores

A logged store passes every command on to the store inside and notes it in a log, with the
filter written as a JSON document.  Whether a store is logged is a matter of settings.
-/

namespace AuditedStore

/-- The note of a command. -/
inductive LogEntry where
  | find (collection : String) (filter : Json.Tree) (sort : SortSpec) (skip : Nat)
      (limit : Option Nat)
  | count (collection : String) (filter : Json.Tree)
  | insert (collection id : String)
  | replace (collection : String) (filter : Json.Tree) (upsert : Bool)
  | update (collection : String) (filter : Json.Tree) (operations : Nat)
  | drop (collection : String)
  | listCollections (name : Option String)
  | createIndex (collection name : String) (keys : Json.Tree)
  | listIndexes (collection : String)

/-- The note of a command. -/
def LogEntry.ofCommand : Command α → LogEntry
  | .find name filter options => find name filter.toTree options.sort options.skip options.limit
  | .count name filter => count name filter.toTree
  | .insert name d => insert name d.id
  | .replace name filter _ upsert => replace name filter.toTree upsert
  | .update name filter u => update name filter.toTree u.length
  | .drop name => drop name
  | .listCollections wanted => listCollections wanted
  | .createIndex i => createIndex i.collection i.name i.keyTree
  | .listIndexes name => listIndexes name

/-- A store with a log of its commands, in their order. -/
structure Logged (σ : Type) where
  inner : σ
  log : List LogEntry := []

instance [DocumentStore σ] : DocumentStore (Logged σ) where
  exec c s :=
    let (answer, inner) := DocumentStore.exec c s.inner
    (answer, ⟨inner, s.log ++ [.ofCommand c]⟩)

/-- A store that is logged, or is not. -/
inductive LoggableStore (σ : Type) where
  | plain (s : σ)
  | logged (s : Logged σ)

instance [DocumentStore σ] : DocumentStore (LoggableStore σ) where
  exec c
    | .plain s =>
      let (answer, s) := DocumentStore.exec c s
      (answer, .plain s)
    | .logged s =>
      let (answer, s) := DocumentStore.exec c s
      (answer, .logged s)

end AuditedStore
