import AuditedStore.Store.Memory
import AuditedStore.Store.Sorted

/-!
# Embedded stores

A store in memory or one sorted by id, as a connection asks for.
-/

namespace AuditedStore

/-- A store of one of the two kinds. -/
inductive EmbeddedStore where
  | memory (s : MemoryStore)
  | sorted (s : SortedStore)

instance : DocumentStore EmbeddedStore where
  exec c
    | .memory s =>
      let (answer, s) := DocumentStore.exec c s
      (answer, .memory s)
    | .sorted s =>
      let (answer, s) := DocumentStore.exec c s
      (answer, .sorted s)

end AuditedStore
