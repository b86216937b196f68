import AuditedStore.Audit.Container
import AuditedStore.Search

/-!
# Audit trails

A snapshot is recorded by pushing it to the container of its record.  If there is none, a
container with the snapshot is inserted; and if another writer was faster in that, the
snapshot is pushed after all.  A recording is a machine with one store command for each
phase, so that the commands of several writers can be interleaved.  Trails are read newest
first, either whole or through a slice that the store cuts out.
-/

namespace AuditedStore

/-- A snapshot to be recorded, and where. -/
structure Recording where
  collection : String
  id : String
  snapshot : Value
  /-- How many snapshots are kept; zero means all. -/
  cap : Nat

namespace Recording

/-- What a recording does next. -/
inductive Phase where
  /-- Pushes to the container. -/
  | append
  /-- Inserts a container, since there was none. -/
  | create
  /-- Pushes to the container that another writer has inserted. -/
  | retry
  | done (outcome : Except Error Unit)

/-- The command that pushes the snapshot. -/
def push (r : Recording) : Command UpdateResult :=
  .update r.collection (.hasId r.id) [.pushCapped auditItemsField r.snapshot r.cap]

/-- The command that inserts a container. -/
def start (r : Recording) : Command Unit :=
  .insert r.collection (AuditContainer.first r.id r.snapshot)

/-- The error of a container that was there and is gone. -/
def vanished (r : Recording) : Error := .notFound (.trail r.id r.collection)

/-- The phase after a push; `missing` is the phase when there was no container. -/
def afterPush (missing : Phase) : Except Error UpdateResult → Phase
  | .ok result => if 0 < result.matched then .done (.ok ()) else missing
  | .error e => .done (.error e)

/-- The phase after the insertion of a container. -/
def afterStart : Except Error Unit → Phase
  | .ok () => .done (.ok ())
  | .error (.duplicateKey _ _) => .retry
  | .error e => .done (.error e)

/-- Does the command of a phase. -/
def step [DocumentStore σ] (r : Recording) : Phase → σ → Phase × σ
  | .append, s =>
    let (answer, s) := DocumentStore.exec r.push s
    (afterPush .create answer, s)
  | .create, s =>
    let (answer, s) := DocumentStore.exec r.start s
    (afterStart answer, s)
  | .retry, s =>
    let (answer, s) := DocumentStore.exec r.push s
    (afterPush (.done (.error r.vanished)) answer, s)
  | .done outcome, s => (.done outcome, s)

/-- The outcome of a finished recording. -/
def Phase.outcome (r : Recording) : Phase → Except Error Unit
  | .done outcome => outcome
  | _ => .error r.vanished

/-- Records a snapshot; a recording takes at most three commands. -/
def run [DocumentStore σ] (r : Recording) : StoreM σ Unit := fun s =>
  let (phase, s) := r.step .append s
  let (phase, s) := r.step phase s
  let (phase, s) := r.step phase s
  (phase.outcome r, s)

/-- The recording of a document. -/
def ofDocument (collection : String) (d : Document) (cap : Nat) : Recording :=
  ⟨collection, d.id, d.toValue, cap⟩

end Recording

namespace AuditTrail

variable {σ : Type} [DocumentStore σ]

/-- Records a snapshot of a record. -/
def record [Record α] (collection : String) (item : α) (cap : Nat) : StoreM σ Unit := do
  let d ← Record.toDocument item
  (Recording.ofDocument collection d cap).run

/-- A page of nothing. -/
def emptyPage (startAt pageSize : Nat) : SearchResult α :=
  { results := [], totalCount := 0, pageSize, startAt }

/-- The window of a trail, newest first, with the length of the trail. -/
def full (α : Type) [Record α] (collection id : String) (startAt pageSize : Nat) :
    StoreM σ (SearchResult α) := do
  match ← findOne collection (.hasId id) {} with
  | none => pure (emptyPage startAt pageSize)
  | some d =>
    let container ← AuditContainer.ofDocument α d
    let newest := container.items.reverse
    pure {
      results := (newest.drop startAt).take pageSize
      totalCount := newest.length, pageSize, startAt }

/-- The window of a trail, newest first, cut out by the store, with the number of its
snapshots. -/
def sliced (α : Type) [Record α] (collection id : String) (startAt pageSize : Nat) :
    StoreM σ (SearchResult α) := do
  let slice : Slice := ⟨auditItemsField, startAt, pageSize⟩
  match ← findOne collection (.hasId id) { slice := some slice } with
  | none => pure (emptyPage startAt pageSize)
  | some d =>
    let container ← AuditContainer.ofDocument α d
    let newest := container.items.reverse
    pure { results := newest, totalCount := newest.length, pageSize, startAt }

/-- Positions in a trail do not grow beyond this number. -/
def lastPosition : Nat := 2 ^ 64 - 1

/-- The snapshots of a page, of which page zero has the newest. -/
def page (α : Type) [Record α] (collection id : String) (index pageSize : Nat) :
    StoreM σ (List α) := do
  let result ← sliced α collection id (min (index * pageSize) lastPosition) pageSize
  pure result.results

end AuditTrail

end AuditedStore
