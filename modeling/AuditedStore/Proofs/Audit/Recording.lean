import AuditedStore.Audit.Trail
import AuditedStore.Proofs.Assoc
import AuditedStore.Proofs.Store.Lookup

/-!
# One recording

A recording puts a container under the id of its record, with the newest of the snapshots
that were there and the new one.  There is no container as long as there are no snapshots.
-/

namespace AuditedStore

/-- A flattened document is restored with its id and its fields. -/
theorem Document.ofValue_toValue {d : Document} (h : Assoc.get? idField d.fields = none) :
  ofValue d.toValue = .ok d
  := by
  rw [toValue, ofValue, Assoc.get?_insert_self, Assoc.erase_insert h]

namespace AuditContainer

/-- The document of a container with the given snapshots. -/
def ofSnapshots (id : String) (snapshots : List Value) : Document :=
  ⟨id, [(auditItemsField, .array snapshots)]⟩

/-- The container of the snapshots of a record, of which there is none before the first. -/
def stored? (id : String) : List Value → Option Document
  | [] => none
  | v :: vs => some (ofSnapshots id (v :: vs))

theorem stored?_of_ne_nil {vs : List Value} (h : vs ≠ []) (id : String) :
  stored? id vs = some (ofSnapshots id vs)
  := by
  cases vs with
  | nil => contradiction
  | cons v vs => rfl

/-- A capped push to a container keeps the newest snapshots. -/
theorem run_pushCapped (id : String) (vs : List Value) (v : Value) (cap : Nat) :
  Update.run [.pushCapped auditItemsField v cap] (ofSnapshots id vs)
    = (ofSnapshots id (keepNewest cap (vs ++ [v])), .ok true)
  := rfl

end AuditContainer

namespace Recording

open LawfulStore

/-- The container that a recording puts in place of one with the snapshots `vs`. -/
def result (r : Recording) (vs : List Value) : Document :=
  AuditContainer.ofSnapshots r.id (keepNewest r.cap (vs ++ [r.snapshot]))

/-- The container that is inserted is the one that a push would have made of nothing. -/
theorem start_eq (r : Recording) :
  r.start = .insert r.collection (r.result [])
  := by
  rw [result, List.nil_append, keepNewest_singleton]
  rfl

variable {σ : Type} [DocumentStore σ] [LawfulStore σ] {s : σ}

/-- A push to a container adds the snapshot. -/
theorem exec_push {r : Recording} {vs : List Value} (hs : Valid s)
    (hl : lookup? s r.collection r.id = some (AuditContainer.ofSnapshots r.id vs)) :
  ∃ t, DocumentStore.exec r.push s = (.ok (.ofChange true), t)
    ∧ Valid t ∧ Puts r.collection (r.result vs) s t
  := exec_update_found hs hl (AuditContainer.run_pushCapped r.id vs r.snapshot r.cap)

/-! ### The steps -/

/-- The first push finishes a recording if there is a container. -/
theorem step_append {r : Recording} {vs : List Value} (hs : Valid s)
    (hl : lookup? s r.collection r.id = some (AuditContainer.ofSnapshots r.id vs)) :
  ∃ t, r.step .append s = (.done (.ok ()), t)
    ∧ Valid t ∧ Puts r.collection (r.result vs) s t
  := by
  obtain ⟨t, ht, hrest⟩ := exec_push hs hl
  use t
  rw [step, ht]
  exact ⟨rfl, hrest⟩

/-- Without a container, the first push changes nothing, and a container is to be made. -/
theorem step_append_missing {r : Recording} (hs : Valid s)
    (hl : lookup? s r.collection r.id = none) :
  r.step .append s = (.create, s)
  := by
  rw [step, push, exec_update_missing hs hl]
  rfl

/-- Where there is no container, one with the snapshot is inserted, which finishes a
recording. -/
theorem step_create {r : Recording} (hs : Valid s) (ha : Accepts σ r.collection)
    (hl : lookup? s r.collection r.id = none) :
  ∃ t, r.step .create s = (.done (.ok ()), t)
    ∧ Valid t ∧ Puts r.collection (r.result []) s t
  := by
  rw [step, start_eq]
  obtain ⟨t, ht, hrest⟩ := exec_insert_missing (d := r.result []) hs ha hl
  use t
  rw [ht]
  exact ⟨rfl, hrest⟩

/-- Where another writer has made a container, no document changes, and the push is to be
done again. -/
theorem step_create_taken {r : Recording} {d : Document} (hs : Valid s)
    (ha : Accepts σ r.collection) (hl : lookup? s r.collection r.id = some d) :
  ∃ t, r.step .create s = (.retry, t) ∧ Valid t ∧ documents t = documents s
  := by
  rw [step, start_eq]
  obtain ⟨t, ht, hrest⟩ := exec_insert_found (d := r.result []) hs ha hl
  use t
  rw [ht]
  exact ⟨rfl, hrest⟩

/-- The second push finishes a recording if there is a container. -/
theorem step_retry {r : Recording} {vs : List Value} (hs : Valid s)
    (hl : lookup? s r.collection r.id = some (AuditContainer.ofSnapshots r.id vs)) :
  ∃ t, r.step .retry s = (.done (.ok ()), t)
    ∧ Valid t ∧ Puts r.collection (r.result vs) s t
  := by
  obtain ⟨t, ht, hrest⟩ := exec_push hs hl
  use t
  rw [step, ht]
  exact ⟨rfl, hrest⟩

/-- A recording that nobody disturbs succeeds, and puts the container with the newest
snapshots. -/
theorem exec_run {r : Recording} {vs : List Value} (hs : Valid s) (ha : Accepts σ r.collection)
    (hl : lookup? s r.collection r.id = AuditContainer.stored? r.id vs) :
  ∃ t, StoreM.exec r.run s = (.ok (), t) ∧ Valid t ∧ Puts r.collection (r.result vs) s t
  := by
  cases vs with
  | nil =>
      obtain ⟨t, ht, hrest⟩ := step_create hs ha hl
      use t
      rw [StoreM.exec, run, step_append_missing hs hl]
      dsimp only
      rw [ht]
      exact ⟨rfl, hrest⟩
  | cons v vs =>
      obtain ⟨t, ht, hrest⟩ := step_append hs hl
      use t
      rw [StoreM.exec, run, ht]
      exact ⟨rfl, hrest⟩

end Recording

end AuditedStore
