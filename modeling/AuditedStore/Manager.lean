import AuditedStore.Audit.Policy
import AuditedStore.Audit.Trail
import AuditedStore.Settings

/-!
# Managers

A manager keeps the records of one entity in a collection: it searches, saves and updates
them, stamps them before writing, and records their snapshots as its audit policy says.  Its
programs run in a context of a store, a generator of ids and the present instant.
-/

namespace AuditedStore

/-- What the programs of a manager run in. -/
structure Context (σ : Type) where
  store : σ
  generator : ObjectId.Generator
  now : Instant

/-- Programs of managers. -/
abbrev ManagerM (σ : Type) := ExceptT Error (StateM (Context σ))

namespace ManagerM

/-- Runs a program. -/
def exec (p : ManagerM σ α) (c : Context σ) : Except Error α × Context σ := p c

/-- A program that uses the store alone. -/
def onStore (p : StoreM σ α) : ManagerM σ α := fun c =>
  let (answer, s) := p.exec c.store
  (answer, { c with store := s })

/-- Makes an id. -/
def freshId : ManagerM σ ObjectId := fun c =>
  let (id, g) := c.generator.next c.now
  (.ok id, { c with generator := g })

end ManagerM

/-- The manager of a collection of records. -/
structure Manager where
  settings : ManagerSettings
  policy : AuditPolicy
  kind : SchemaKind
  /-- Overrules how all kinds of record name their fields. -/
  fieldNaming : Option SchemaKind
  indexingDisabled : Bool

namespace Manager

/-- The logical names of the fields that updates stamp. -/
def updatedDateField : String := "updatedDate"

@[inherit_doc updatedDateField]
def updatedByField : String := "updatedBy"

/-- The operations that have settings of their own. -/
inductive Operation where
  | save
  | update

/-- The name of an operation in settings. -/
def Operation.name : Operation → String
  | save => "Save"
  | update => "Update"

/-- The manager for the records of type `α` in a repository. -/
def make (α : Type) [Record α] (repository : RepositorySettings) (settings : ManagerSettings) :
    Manager where
  settings := settings
  policy := .ofSettings settings.auditByDefault settings.defaultAuditCap settings.auditSettings
  kind := (Record.schema α).resolve repository.fieldNaming
  fieldNaming := repository.fieldNaming
  indexingDisabled := repository.indexingDisabled

/-- The collection of the records. -/
def collection (m : Manager) : String := m.settings.collectionName

/-- The collection of the trails. -/
def auditCollection (m : Manager) : String := m.settings.auditCollectionName

/-- The name of the setting for an operation. -/
def auditKey (m : Manager) (o : Operation) : String := m.collection ++ "." ++ o.name

/-- Whether an operation is audited; one without a key is by default. -/
def isAudited (m : Manager) : Option String → Bool
  | some key => m.policy.shouldAudit key
  | none => m.settings.auditByDefault

/-- How many snapshots are kept for each record; zero means all. -/
def cap (m : Manager) : Nat := m.policy.retained m.auditCollection

/-- A request, limited to the working client if it names no other. -/
def forClient (m : Manager) (r : SearchRequest) : SearchRequest :=
  { r with clientId := r.clientId.or m.settings.workingClientId }

variable {σ : Type} [DocumentStore σ]

/-! ### Reading -/

/-- Searches the records. -/
def search (α : Type) [Record α] (m : Manager) (r : SearchRequest) :
    ManagerM σ (SearchResult α) :=
  .onStore (Search.run α m.collection (m.forClient r) m.kind)

/-- Searches the collection for records of another type, whose naming is used. -/
def searchAs (β : Type) [Record β] (m : Manager) (r : SearchRequest) :
    ManagerM σ (SearchResult β) :=
  .onStore (Search.run β m.collection (m.forClient r) ((Record.schema β).resolve m.fieldNaming))

/-- The record with an id, if it belongs to the working client. -/
def find (α : Type) [Record α] (m : Manager) (id : String) : ManagerM σ (Option α) :=
  .onStore (Search.lookup α m.collection id m.settings.workingClientId m.kind)

/-- Whether a record with an id exists. -/
def isPresent (m : Manager) (id : String) : ManagerM σ Bool :=
  .onStore (Search.isPresent m.collection id)

/-- Whether a record with an id satisfies a request. -/
def isIncluded (m : Manager) (id : String) (r : SearchRequest) : ManagerM σ Bool :=
  .onStore (Search.isIncluded m.collection id r m.kind)

/-! ### Auditing -/

/-- Records a snapshot of a record. -/
def record [Record α] (m : Manager) (item : α) : ManagerM σ Unit :=
  .onStore (AuditTrail.record m.auditCollection item m.cap)

/-- Records the stored state of the record with an id, if that is audited; the answer says
whether a snapshot was written. -/
def auditById (α : Type) [Record α] (m : Manager) (id : String) (key : Option String) :
    ManagerM σ Bool := do
  if m.isAudited key then
    match ← m.find α id with
    | some item =>
      m.record item
      pure true
    | none => pure false
  else pure false

/-- Records the stored documents with the given ids as they are; the answer is their
number. -/
def auditItemsById (m : Manager) (ids : List String) (key : Option String) : ManagerM σ Nat := do
  if ids.isEmpty || !m.isAudited key then pure 0
  else
    let filter := Predicate.oneOf idField (ids.map Value.string)
    let docs ← .onStore (perform (.find m.collection filter {}))
    docs.forM fun d => m.record d
    pure docs.length

/-- Records snapshots of the given records; the answer is their number. -/
def auditItems [Record α] (m : Manager) (items : List α) (key : Option String) :
    ManagerM σ Nat := do
  if m.isAudited key then
    items.forM fun item => m.record item
    pure items.length
  else pure 0

/-- The trail of a record, newest first. -/
def trail (α : Type) [Record α] (m : Manager) (id : String) (startAt pageSize : Nat) :
    ManagerM σ (SearchResult α) :=
  .onStore (AuditTrail.full α m.auditCollection id startAt pageSize)

/-- The trail of a record, newest first, cut out by the store. -/
def trailSliced (α : Type) [Record α] (m : Manager) (id : String) (startAt pageSize : Nat) :
    ManagerM σ (SearchResult α) :=
  .onStore (AuditTrail.sliced α m.auditCollection id startAt pageSize)

/-! ### Writing -/

/-- Stamps a record; the answer also says whether it is new. -/
def stamp [Entity α] (m : Manager) (item : α) : ManagerM σ (α × Bool) := fun c =>
  let stamped := (Entity.base item).stamp m.settings.auditUser c.now c.generator
  (.ok (Entity.withBase item stamped.base, stamped.isNew),
    { c with generator := stamped.generator })

/-- Stamps and stores a record, and records its snapshot if that is audited. -/
def save [Entity α] (m : Manager) (item : α) : ManagerM σ α := do
  let (item, isNew) ← m.stamp item
  let d ← Record.toDocument item
  let _ ← .onStore (perform (.replace m.collection (.hasId d.id) d true))
  if m.isAudited (some (m.auditKey .save)) && (!isNew || m.settings.auditNewItems) then
    m.record item
  pure item

/-- Stores a record as a new one, under a fresh id. -/
def create [Entity α] (m : Manager) (item : α) : ManagerM σ α := do
  let id ← ManagerM.freshId
  m.save (Entity.withBase item { Entity.base item with id := some id, createdDate := none })

/-- Makes a new record from a JSON object; ids in it do not count. -/
def createFrom (α : Type) [Entity α] (m : Manager) (properties : Json.Tree) : ManagerM σ α := do
  let id ← ManagerM.freshId
  let d ← Document.ofTree id.toText properties
  let fields := Assoc.erase idField (Assoc.erase recordIdField d.fields)
  let item ← (Record.ofDocument { d with fields := fields } : Except Error α)
  m.create item

/-- An update that also stamps the user and the date. -/
def stampedUpdate (m : Manager) (u : Update) (now : Instant) : Update :=
  u ++
    [ .set (m.kind.normalize updatedDateField) (.string now.toText),
      .set (m.kind.normalize updatedByField) (.string m.settings.auditUser) ]

/-- Updates the record with an id, and records its snapshot if that is audited. -/
def simpleUpdate (α : Type) [Record α] (m : Manager) (id : String) (u : Update)
    (key : Option String) : ManagerM σ UpdateResult := do
  let c ← get
  let result ← .onStore (perform (.update m.collection (.hasId id) (m.stampedUpdate u c.now)))
  if 0 < result.matched then
    let _ ← m.auditById α id key
  pure result

/-- Updates the record with an id and gives its stored state; it fails if there is none. -/
def update (α : Type) [Record α] (m : Manager) (id : ObjectId) (u : Update) : ManagerM σ α := do
  let missing : Error := .notFound (.record id.toText m.collection)
  let result ← m.simpleUpdate α id.toText u (some (m.auditKey .update))
  if result.matched = 0 then throw missing
  match ← m.find α id.toText with
  | some item => pure item
  | none => throw missing

/-! ### Collections -/

/-- Drops a collection. -/
def dropCollection (name : String) : ManagerM σ Unit := .onStore (perform (.drop name))

/-- Whether a collection exists. -/
def collectionExists (name : String) : ManagerM σ Bool := do
  let names ← .onStore (perform (.listCollections (some name)))
  pure (!names.isEmpty)

/-- Creates the indexes of a list of declarations, and gives their names. -/
def ensureIndexes (m : Manager) (fields : List IndexedField) : ManagerM σ (List String) := do
  if m.indexingDisabled then pure []
  else if m.collection = "" then throw (.refused .unnamedCollection)
  else
    (IndexDefinition.ofFields m.collection m.kind fields).mapM fun i =>
      .onStore (perform (.createIndex i))

end Manager

end AuditedStore
