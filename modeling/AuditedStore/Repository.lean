import AuditedStore.Connection
import AuditedStore.Settings
import AuditedStore.Store.Embedded
import AuditedStore.Store.Logged

/-!
# Repositories

A repository is an open database: where its store lives, and the settings it was opened
with.  The stores of all databases are kept in a registry by their location, so that two
repositories of one location share their data, and data outlives the repositories.
-/

namespace AuditedStore

/-- The stores that exist, by location. -/
abbrev Registry := List (Location × EmbeddedStore)

/-- An open database. -/
structure Repository where
  location : Location
  settings : RepositorySettings

/-- The store of a location before anything is written to it. -/
def Location.emptyStore : Location → EmbeddedStore
  | memory _ => .memory {}
  | directory _ _ => .sorted {}

namespace Registry

/-- The store of a location. -/
def store (r : Registry) (l : Location) : EmbeddedStore :=
  ((r.find? fun e => e.1 = l).map Prod.snd).getD l.emptyStore

/-- Sets the store of a location. -/
def setStore (r : Registry) (l : Location) (s : EmbeddedStore) : Registry :=
  (l, s) :: r.filter fun e => e.1 ≠ l

/-- Runs a program on the store of a location. -/
def run (r : Registry) (l : Location) (p : StoreM EmbeddedStore α) :
    Except Error α × Registry :=
  let (answer, s) := p.exec (r.store l)
  (answer, r.setStore l s)

end Registry

namespace Repository

/-- Opens the database that settings name. -/
def ofSettings (settings : RepositorySettings) : Except Error Repository := do
  let connection ← Connection.read settings.connectionString
  pure ⟨connection.location settings.databaseName, settings⟩

/-- The store of a repository over one that exists, which is logged if the settings say so. -/
def withStore (settings : RepositorySettings) (s : σ) : LoggableStore σ :=
  if settings.log then .logged ⟨s, []⟩ else .plain s

/-- Whether a collection exists. -/
def collectionExists [DocumentStore σ] (name : String) : StoreM σ Bool := do
  let names ← perform (.listCollections (some name))
  pure (!names.isEmpty)

end Repository

end AuditedStore
