import AuditedStore.Proofs.Audit.Recording

/-!
# Reading trails

The records of a trail are its snapshots, restored one by one; where there is no container there are
none.  The full reader makes a page of all records, and the sliced reader of those whose snapshots
the store has left in the container.  Both change nothing, and fail if a snapshot that they read
cannot be restored.
-/

namespace AuditedStore

open LawfulStore

namespace AuditContainer

/-- The flattened snapshots of a record; without a container there are none. -/
def held (container : Option Document) : Except Error (List Value) :=
  container.elim (.ok []) snapshots

theorem held_stored? (id : String) (vs : List Value) :
  held (stored? id vs) = .ok vs
  := by
  cases vs with
  | nil => rfl
  | cons v vs => rfl

/-- The records of a trail, the oldest first. -/
def records (α : Type) [Record α] (container : Option Document) : Except Error (List α) :=
  held container >>= fun vs => vs.mapM (restore α)

variable {α : Type} [Record α]

theorem records_some (d : Document) :
  records α (some d) = items <$> ofDocument α d
  := by
  rw [records, held, ofDocument, Option.elim_some, map_bind]
  simp

theorem records_eq_ok_iff {container : Option Document} {items : List α} :
  records α container = .ok items
    ↔ ∃ vs, held container = .ok vs ∧ vs.mapM (restore α) = .ok items
  := by
  rw [records]
  cases held container with
  | error e => simp [bind, Except.bind]
  | ok vs => simp [bind, Except.bind]

/-- Flattened documents are read as the documents. -/
theorem records_of_documents {container : Option Document} {docs : List Document}
    (hheld : held container = .ok (docs.map Document.toValue))
    (hids : ∀ d ∈ docs, Assoc.get? idField d.fields = none) :
  records Document container = .ok docs
  := by
  apply records_eq_ok_iff.mpr
  refine ⟨_, hheld, mapM_eq_ok_iff.mpr ?_⟩
  apply List.forall₂_map_left_iff.mpr
  apply List.forall₂_same.mpr
  intro d hd
  rw [restore, Document.ofValue_toValue (hids d hd)]
  rfl

end AuditContainer

namespace AuditTrail

variable {σ α : Type} {s : σ}

/-- The page that the full reader makes of the records of a trail. -/
def fullPage (startAt pageSize : Nat) (items : List α) : SearchResult α where
  results := (items.reverse.drop startAt).take pageSize
  totalCount := items.length
  pageSize
  startAt

/-- The page that the sliced reader makes of the records that it has read. -/
def slicedPage (startAt pageSize : Nat) (items : List α) : SearchResult α where
  results := items.reverse
  totalCount := items.length
  pageSize
  startAt

/-- The slice that the sliced reader asks for. -/
def slice (startAt pageSize : Nat) : Slice := ⟨auditItemsField, startAt, pageSize⟩

theorem fullPage_nil (startAt pageSize : Nat) :
  fullPage startAt pageSize ([] : List α) = emptyPage startAt pageSize
  := by simp [fullPage, emptyPage]

variable [Record α]

/-- A container is read, and a page is made of its records. -/
theorem exec_container (page : List α → SearchResult α) (d : Document) (s : σ) :
  StoreM.exec (do
      let container ← AuditContainer.ofDocument α d
      pure (page container.items)) s
    = (page <$> AuditContainer.records α (some d), s)
  := by
  rw [bind_pure_comp, StoreM.exec_map_lift, AuditContainer.records_some, Functor.map_map]

variable [DocumentStore σ] [LawfulStore σ]

/-- The full reader makes a page of all records of a trail. -/
theorem exec_full_eq (hs : Valid s) (name id : String) (startAt pageSize : Nat) :
  (full α name id startAt pageSize).exec s
    = (fullPage startAt pageSize <$> AuditContainer.records α (lookup? s name id), s)
  := by
  have hfind := exec_findOne_hasId hs name id none
  rw [full, StoreM.exec_bind_ok hfind]
  cases lookup? s name id with
  | none => exact congrArg (fun page => (Except.ok page, s)) (fullPage_nil startAt pageSize).symm
  | some d =>
      rw [← exec_container]
      simp only [fullPage, List.length_reverse]
      rfl

/-- The sliced reader makes a page of the records that a slice of the container has. -/
theorem exec_sliced_eq (hs : Valid s) (name id : String) (startAt pageSize : Nat) :
  (sliced α name id startAt pageSize).exec s
    = (slicedPage startAt pageSize <$> AuditContainer.records α
        ((lookup? s name id).map (slice startAt pageSize).apply), s)
  := by
  have hfind := exec_findOne_hasId hs name id (some (slice startAt pageSize))
  rw [sliced]
  dsimp only
  rw [← slice, StoreM.exec_bind_ok hfind]
  cases lookup? s name id with
  | none => rfl
  | some d =>
      rw [Option.map_some, Option.map_some, ← exec_container]
      simp only [slicedPage, List.length_reverse]
      rfl

/-- An answer of the full reader is the page of the records of the trail. -/
theorem exec_full_eq_ok_iff {t : σ} (hs : Valid s) {name id : String} {startAt pageSize : Nat}
    {page : SearchResult α} :
  (full α name id startAt pageSize).exec s = (.ok page, t)
    ↔ t = s ∧ ∃ items, AuditContainer.records α (lookup? s name id) = .ok items
        ∧ page = fullPage startAt pageSize items
  := by
  rw [exec_full_eq hs]
  cases AuditContainer.records α (lookup? s name id) with
  | error e => simp
  | ok items => simp [eq_comm, and_comm]

end AuditTrail

end AuditedStore
