import AuditedStore.Error
import AuditedStore.Index
import AuditedStore.Query.Filter
import AuditedStore.Query.Sort
import AuditedStore.Slice
import AuditedStore.Update

/-!
# Store commands

The commands that a document store understands, each with the type of its answer.  A store
is a type of states with a step for every command; a step gives an answer or an error, and
the state after it.  Programs over a store are built from commands, and changes made before
an error stay.
-/

namespace AuditedStore

/-- How the documents that a filter selects are ordered, windowed and narrowed. -/
structure FindOptions where
  sort : SortSpec := []
  skip : Nat := 0
  limit : Option Nat := none
  slice : Option Slice := none

/-- What a replacement or an update did. -/
structure UpdateResult where
  matched : Nat
  modified : Nat
  upserted : Option String
deriving DecidableEq, Repr

namespace UpdateResult

/-- No document matched. -/
def unmatched : UpdateResult := ⟨0, 0, none⟩

/-- One document matched, and may have changed. -/
def ofChange (changed : Bool) : UpdateResult := ⟨1, changed.toNat, none⟩

/-- No document matched, and one was inserted. -/
def ofInsert (id : String) : UpdateResult := ⟨0, 0, some id⟩

end UpdateResult

/-- The commands, by the type of their answers. -/
inductive Command : Type → Type where
  | find (collection : String) (filter : Predicate) (options : FindOptions) :
      Command (List Document)
  | count (collection : String) (filter : Predicate) : Command Nat
  | insert (collection : String) (doc : Document) : Command Unit
  | replace (collection : String) (filter : Predicate) (doc : Document) (upsert : Bool) :
      Command UpdateResult
  | update (collection : String) (filter : Predicate) (update : Update) : Command UpdateResult
  | drop (collection : String) : Command Unit
  | listCollections (name : Option String) : Command (List String)
  | createIndex (index : IndexDefinition) : Command String
  | listIndexes (collection : String) : Command (List IndexDefinition)

/-- A document store: its states, and what each command does. -/
class DocumentStore (σ : Type) where
  exec : Command α → σ → Except Error α × σ

/-- Programs over a store. -/
abbrev StoreM (σ : Type) := ExceptT Error (StateM σ)

namespace StoreM

/-- Runs a program. -/
def exec (p : StoreM σ α) (s : σ) : Except Error α × σ := p s

end StoreM

/-- The program of one command. -/
def perform [DocumentStore σ] (c : Command α) : StoreM σ α := fun s => DocumentStore.exec c s

/-- The first document that a filter selects. -/
def findOne [DocumentStore σ] (collection : String) (filter : Predicate) (options : FindOptions) :
    StoreM σ (Option Document) := do
  let docs ← perform (.find collection filter { options with limit := some 1 })
  pure docs.head?

/-- The documents among `candidates` that a filter selects, ordered, windowed and narrowed
as the options say. -/
def FindOptions.select (options : FindOptions) (filter : Predicate) (candidates : List Document) :
    List Document :=
  let sorted := options.sort.sort (candidates.filter fun d => filter.holds d)
  let window := sorted.drop options.skip
  let window := options.limit.elim window window.take
  options.slice.elim window fun slice => window.map slice.apply

/-- Whether a name is the wanted one, if one is wanted. -/
def isWanted (wanted : Option String) (name : String) : Bool := wanted.all (· == name)

end AuditedStore
