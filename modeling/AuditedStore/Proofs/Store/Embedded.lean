import AuditedStore.Proofs.Store.Memory
import AuditedStore.Proofs.Store.Sorted
import AuditedStore.Repository

/-!
# Laws of embedded stores

An embedded store obeys the laws of the store inside.  The names that only a sorted store
reserves count as reserved for both kinds.  Every state that commands reach from the empty
store of a location is valid.
-/

namespace AuditedStore

namespace EmbeddedStore

/-- The documents of a collection in their natural order. -/
def documents : EmbeddedStore → String → List Document
  | memory s => s.documents
  | sorted s => s.documents

/-- The store inside is valid. -/
def Valid : EmbeddedStore → Prop
  | memory s => s.Valid
  | sorted s => s.Valid

theorem exec_memory (c : Command α) (s : MemoryStore) :
  DocumentStore.exec c (memory s)
    = ((DocumentStore.exec c s).1, memory (DocumentStore.exec c s).2)
  := rfl

theorem exec_sorted (c : Command α) (s : SortedStore) :
  DocumentStore.exec c (sorted s)
    = ((DocumentStore.exec c s).1, sorted (DocumentStore.exec c s).2)
  := rfl

/-- What commands reach in a store in memory, they reach in the embedded one. -/
theorem reaches_memory {s t : MemoryStore} (h : Reaches s t) :
  Reaches (memory s) (memory t)
  := by
  induction h with
  | start => exact .start
  | command c _ ih => exact .command c ih

/-- What a command does to a store in memory, it does to the embedded one. -/
theorem exists_exec_memory {c : Command α} {s : MemoryStore} {answer : Except Error α}
    {P : EmbeddedStore → Prop}
    (h : ∃ t, DocumentStore.exec c s = (answer, t) ∧ P (memory t)) :
  ∃ t, DocumentStore.exec c (memory s) = (answer, t) ∧ P t
  := by
  obtain ⟨t, ht, hP⟩ := h
  use memory t
  rw [exec_memory, ht]
  exact ⟨rfl, hP⟩

/-- What a command does to a sorted store, it does to the embedded one. -/
theorem exists_exec_sorted {c : Command α} {s : SortedStore} {answer : Except Error α}
    {P : EmbeddedStore → Prop}
    (h : ∃ t, DocumentStore.exec c s = (answer, t) ∧ P (sorted t)) :
  ∃ t, DocumentStore.exec c (sorted s) = (answer, t) ∧ P t
  := by
  obtain ⟨t, ht, hP⟩ := h
  use sorted t
  rw [exec_sorted, ht]
  exact ⟨rfl, hP⟩

instance : LawfulStore EmbeddedStore where
  documents := documents
  Valid := Valid
  Accepts name := SortedStore.isReserved name = false
  valid_exec {α s} h c := by
    cases s with
    | memory s => exact MemoryStore.Valid.exec h c
    | sorted s => exact SortedStore.Valid.exec h c
  nodup_ids {s} h name := by
    cases s with
    | memory s => exact LawfulStore.nodup_ids (s := s) h name
    | sorted s => exact LawfulStore.nodup_ids (s := s) h name
  exec_find {s} h name p options := by
    cases s with
    | memory s =>
        rw [exec_memory, LawfulStore.exec_find (s := s) h name p options]
        rfl
    | sorted s =>
        rw [exec_sorted, LawfulStore.exec_find (s := s) h name p options]
        rfl
  exec_count {s} h name p := by
    cases s with
    | memory s =>
        rw [exec_memory, LawfulStore.exec_count (s := s) h name p]
        rfl
    | sorted s =>
        rw [exec_sorted, LawfulStore.exec_count (s := s) h name p]
        rfl
  exec_insert_taken {s} h name ha d ht := by
    cases s with
    | memory s => exact exists_exec_memory (LawfulStore.exec_insert_taken (s := s) h trivial ht)
    | sorted s => exact exists_exec_sorted (LawfulStore.exec_insert_taken (s := s) h ha ht)
  exec_insert_free {s} h name ha d ht := by
    cases s with
    | memory s => exact exists_exec_memory (LawfulStore.exec_insert_free (s := s) h trivial ht)
    | sorted s => exact exists_exec_sorted (LawfulStore.exec_insert_free (s := s) h ha ht)
  exec_update_unmatched {s} h name p u hf := by
    cases s with
    | memory s =>
        rw [exec_memory, LawfulStore.exec_update_unmatched (s := s) h u hf]
    | sorted s =>
        rw [exec_sorted, LawfulStore.exec_update_unmatched (s := s) h u hf]
  exec_update_done {s} h name p u d e changed hf hu := by
    cases s with
    | memory s => exact exists_exec_memory (LawfulStore.exec_update_done (s := s) h hf hu)
    | sorted s => exact exists_exec_sorted (LawfulStore.exec_update_done (s := s) h hf hu)
  exec_update_refused {s} h name p u d e why hf hu := by
    cases s with
    | memory s => exact exists_exec_memory (LawfulStore.exec_update_refused (s := s) h hf hu)
    | sorted s => exact exists_exec_sorted (LawfulStore.exec_update_refused (s := s) h hf hu)
  exec_replace_matched {s} h name ha p d old upsert hf := by
    cases s with
    | memory s =>
        exact exists_exec_memory (LawfulStore.exec_replace_matched (s := s) h trivial upsert hf)
    | sorted s =>
        exact exists_exec_sorted (LawfulStore.exec_replace_matched (s := s) h ha upsert hf)
  exec_upsert {s} h name ha p d hf ht := by
    cases s with
    | memory s => exact exists_exec_memory (LawfulStore.exec_upsert (s := s) h trivial hf ht)
    | sorted s => exact exists_exec_sorted (LawfulStore.exec_upsert (s := s) h ha hf ht)

end EmbeddedStore

/-- The empty store of a location is valid. -/
theorem Location.valid_emptyStore (l : Location) :
  LawfulStore.Valid l.emptyStore
  := by
  cases l with
  | memory name => exact MemoryStore.Valid.empty
  | directory path name => exact SortedStore.Valid.empty

/-- The empty store of a location has no documents. -/
theorem Location.documents_emptyStore (l : Location) (name : String) :
  LawfulStore.documents l.emptyStore name = []
  := by
  cases l with
  | memory _ => rfl
  | directory _ _ =>
      change SortedStore.docs (SortedStore.tree {} name) = []
      rw [SortedStore.tree]
      split
      · rfl
      · rfl

end AuditedStore
