import AuditedStore.Proofs.Store.Embedded
import AuditedStore.Proofs.Store.Lookup
import AuditedStore.Proofs.Store.Scanning

/-!
# Writes to any collection

A sorted store refuses to write to the collections that it keeps to itself; a store in memory
refuses none.  What insertions and upserts by id do to an embedded store, whatever the
collection is called: they put the document, or they fail.
-/

namespace AuditedStore

open LawfulStore

/-- An insertion puts its document under a free id, and fails under one that is taken. -/
theorem LawfulStore.exec_insert_accepted {σ : Type} [DocumentStore σ] [LawfulStore σ] {s : σ}
    (hs : Valid s) {name : String} (ha : Accepts σ name) (d : Document) :
  (∃ t, DocumentStore.exec (.insert name d) s = (.ok (), t)
      ∧ Valid t ∧ lookup? s name d.id = none ∧ Puts name d s t)
    ∨ ∃ t, DocumentStore.exec (.insert name d) s = (.error (.duplicateKey name d.id), t)
      ∧ lookup? s name d.id ≠ none ∧ documents t = documents s
  := by
  cases hl : lookup? s name d.id with
  | none =>
      obtain ⟨t, ht, hvalid, hputs⟩ := exec_insert_missing hs ha hl
      exact Or.inl ⟨t, ht, hvalid, rfl, hputs⟩
  | some e =>
      obtain ⟨t, ht, -, hdocs⟩ := exec_insert_found hs ha hl
      exact Or.inr ⟨t, ht, Option.some_ne_none e, hdocs⟩

namespace EmbeddedStore

variable {s : EmbeddedStore}

/-- Whether a collection can be written; a sorted store keeps some to itself. -/
def accepts : EmbeddedStore → String → Bool
  | memory _, _ => true
  | sorted _, name => !SortedStore.isReserved name

theorem accepts_exec (c : Command α) (s : EmbeddedStore) :
  (DocumentStore.exec c s).2.accepts = s.accepts
  := by
  cases s with
  | memory s => rfl
  | sorted s => rfl

/-- Commands do not change which collections can be written. -/
theorem accepts_of_reaches {t : EmbeddedStore} (h : Reaches s t) :
  t.accepts = s.accepts
  := by
  induction h with
  | start => rfl
  | command c _ ih => rw [accepts_exec, ih]

/-- There are no documents in the collections that a store keeps to itself. -/
theorem lookup?_of_not_accepts {name : String} (ha : s.accepts name = false) (id : String) :
  lookup? s name id = none
  := by
  cases s with
  | memory s => cases ha
  | sorted s =>
      have hempty : LawfulStore.documents (sorted s) name = [] :=
        s.documents_of_isReserved (by simpa [accepts] using ha)
      rw [lookup?, hempty]
      rfl

/-- Writing to a reserved collection of a sorted store is refused. -/
theorem exec_replace_reserved (s : SortedStore) {name : String}
    (hr : SortedStore.isReserved name = true) (p : Predicate) (d : Document) (upsert : Bool) :
  DocumentStore.exec (.replace name p d upsert) (sorted s)
    = (.error (.refused .reservedCollection), sorted s)
  := by
  rw [exec_sorted]
  change ((s.writing name _).1, sorted (s.writing name _).2) = _
  rw [s.writing_of_isReserved hr]

/-- An insertion into a collection that a store keeps to itself is refused. -/
theorem exec_insert_of_not_accepts {name : String} (ha : s.accepts name = false) (d : Document) :
  DocumentStore.exec (.insert name d) s = (.error (.refused .reservedCollection), s)
  := by
  cases s with
  | memory s => cases ha
  | sorted s =>
      have hr : SortedStore.isReserved name = true := by simpa [accepts] using ha
      rw [exec_sorted]
      change ((s.writing name _).1, sorted (s.writing name _).2) = _
      rw [s.writing_of_isReserved hr]

/-- An insertion into a collection that can be written puts its document under a free id, and fails
under one that is taken. -/
theorem exec_insert_of_accepts (hs : LawfulStore.Valid s) {name : String}
    (ha : s.accepts name = true) (d : Document) :
  (∃ t, DocumentStore.exec (.insert name d) s = (.ok (), t)
      ∧ LawfulStore.Valid t ∧ lookup? s name d.id = none ∧ Puts name d s t)
    ∨ ∃ t, DocumentStore.exec (.insert name d) s = (.error (.duplicateKey name d.id), t)
      ∧ lookup? s name d.id ≠ none ∧ LawfulStore.documents t = LawfulStore.documents s
  := by
  cases s with
  | memory s =>
      have hname : Accepts MemoryStore name := trivial
      rcases exec_insert_accepted (s := s) hs hname d with hput | htaken
      · exact Or.inl (exists_exec_memory hput)
      · exact Or.inr (exists_exec_memory htaken)
  | sorted s =>
      have hr : SortedStore.isReserved name = false := by simpa [accepts] using ha
      rcases exec_insert_accepted (s := s) hs hr d with hput | htaken
      · exact Or.inl (exists_exec_sorted hput)
      · exact Or.inr (exists_exec_sorted htaken)

/-- An insertion puts its document under a free id, fails under one that is taken, or is refused
as the store keeps the collection to itself. -/
theorem exec_insert_cases (hs : LawfulStore.Valid s) (name : String) (d : Document) :
  (∃ t, DocumentStore.exec (.insert name d) s = (.ok (), t)
      ∧ LawfulStore.Valid t ∧ lookup? s name d.id = none ∧ Puts name d s t)
    ∨ (∃ t, DocumentStore.exec (.insert name d) s = (.error (.duplicateKey name d.id), t)
      ∧ lookup? s name d.id ≠ none ∧ LawfulStore.documents t = LawfulStore.documents s)
    ∨ DocumentStore.exec (.insert name d) s = (.error (.refused .reservedCollection), s)
  := by
  cases ha : s.accepts name with
  | true => exact (exec_insert_of_accepts hs ha d).imp_right Or.inl
  | false => exact Or.inr (Or.inr (exec_insert_of_not_accepts ha d))

/-- An upsert under the id of its document puts it there, or is refused as the store keeps the
collection to itself and has no documents in it. -/
theorem exec_upsert_cases (hs : LawfulStore.Valid s) (name : String) (d : Document) :
  (∃ answer t, DocumentStore.exec (.replace name (.hasId d.id) d true) s = (.ok answer, t)
      ∧ LawfulStore.Valid t ∧ Puts name d s t)
    ∨ DocumentStore.exec (.replace name (.hasId d.id) d true) s
        = (.error (.refused .reservedCollection), s)
      ∧ ∀ i, lookup? s name i = none
  := by
  cases s with
  | memory s =>
      have ha : Accepts MemoryStore name := trivial
      obtain ⟨answer, hput⟩ := exec_upsert_hasId (s := s) hs ha d
      exact Or.inl ⟨answer, exists_exec_memory hput⟩
  | sorted s =>
      cases hr : SortedStore.isReserved name with
      | true =>
          refine Or.inr ⟨exec_replace_reserved s hr _ d true, fun i => ?_⟩
          apply lookup?_of_not_accepts
          simp [accepts, hr]
      | false =>
          obtain ⟨answer, hput⟩ := exec_upsert_hasId (s := s) hs hr d
          exact Or.inl ⟨answer, exists_exec_sorted hput⟩

end EmbeddedStore

end AuditedStore
