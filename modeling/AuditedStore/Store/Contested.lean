import AuditedStore.Audit.Container
import AuditedStore.Store.Command

/-!
# Contested stores

A contested store behaves as if another writer were always a little faster in starting an
audit trail: the first update finds nothing, and every insertion finds its id taken.  Where
the rival wins, its empty container is really there afterwards; else it has vanished again.
-/

namespace AuditedStore

/-- A store with a rival writer. -/
structure Contested (σ : Type) where
  inner : σ
  rivalWins : Bool
  /-- Whether the first update has been lost. -/
  lostUpdate : Bool := false

namespace Contested

/-- Passes a command on to the store inside. -/
def pass [DocumentStore σ] (c : Command α) (s : Contested σ) : Except Error α × Contested σ :=
  let (answer, inner) := DocumentStore.exec c s.inner
  (answer, { s with inner := inner })

/-- Loses an insertion to the rival. -/
def loseInsert [DocumentStore σ] (name id : String) (s : Contested σ) :
    Except Error Unit × Contested σ :=
  if s.rivalWins then
    match s.pass (.insert name ⟨id, [(auditItemsField, .array [])]⟩) with
    | (.ok (), s) => (.error (.duplicateKey name id), s)
    | (.error e, s) => (.error e, s)
  else (.error (.duplicateKey name id), s)

instance [DocumentStore σ] : DocumentStore (Contested σ) where
  exec
    | .insert name d, s => s.loseInsert name d.id
    | .update name filter u, s =>
      if s.lostUpdate then s.pass (.update name filter u)
      else (.ok .unmatched, { s with lostUpdate := true })
    | c, s => s.pass c

end Contested

end AuditedStore
