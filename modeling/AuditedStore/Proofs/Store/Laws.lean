import AuditedStore.Proofs.Query.PinnedId
import AuditedStore.Proofs.Store.Documents

/-!
# Laws of document stores

What commands do to a store, told through the documents of its collections in their natural
order.  A lawful store keeps the ids of a collection distinct; it reads by selecting from
all documents of a collection, and writes to the first document that satisfies a filter, or
adds one.  A command never touches the documents of another collection.
-/

namespace AuditedStore

/-- The states that a store reaches from a state by commands. -/
inductive Reaches {σ : Type} [DocumentStore σ] (s : σ) : σ → Prop where
  | start : Reaches s s
  | command {t : σ} {α : Type} (c : Command α) (h : Reaches s t) :
      Reaches s (DocumentStore.exec c t).2

/-- The collections before and after differ at most in one of them. -/
def SameExcept (name : String) (before after : String → List Document) : Prop :=
  ∀ m, m ≠ name → after m = before m

/-- A document store that obeys the laws of its commands. -/
class LawfulStore (σ : Type) [DocumentStore σ] where
  /-- The documents of a collection in their natural order. -/
  documents : σ → String → List Document
  /-- What the states have in common that commands reach. -/
  Valid : σ → Prop
  /-- The names of the collections that can be written. -/
  Accepts : String → Prop
  valid_exec {α : Type} {s : σ} (h : Valid s) (c : Command α) :
    Valid (DocumentStore.exec c s).2
  nodup_ids {s : σ} (h : Valid s) (name : String) :
    ((documents s name).map Document.id).Nodup
  exec_find {s : σ} (h : Valid s) (name : String) (p : Predicate) (options : FindOptions) :
    DocumentStore.exec (.find name p options) s
      = (.ok (options.select p (documents s name)), s)
  exec_count {s : σ} (h : Valid s) (name : String) (p : Predicate) :
    DocumentStore.exec (.count name p) s
      = (.ok ((documents s name).countP fun d => p.holds d), s)
  exec_insert_taken {s : σ} (h : Valid s) {name : String} (ha : Accepts name) {d : Document}
    (ht : d.id ∈ (documents s name).map Document.id) :
    ∃ t, DocumentStore.exec (.insert name d) s = (.error (.duplicateKey name d.id), t)
      ∧ documents t = documents s
  exec_insert_free {s : σ} (h : Valid s) {name : String} (ha : Accepts name) {d : Document}
    (ht : d.id ∉ (documents s name).map Document.id) :
    ∃ t, DocumentStore.exec (.insert name d) s = (.ok (), t)
      ∧ (documents t name).Perm (d :: documents s name)
      ∧ SameExcept name (documents s) (documents t)
  exec_update_unmatched {s : σ} (h : Valid s) {name : String} {p : Predicate} (u : Update)
    (hf : (documents s name).find? (fun d => p.holds d) = none) :
    DocumentStore.exec (.update name p u) s = (.ok .unmatched, s)
  exec_update_done {s : σ} (h : Valid s) {name : String} {p : Predicate} {u : Update}
    {d e : Document} {changed : Bool}
    (hf : (documents s name).find? (fun d => p.holds d) = some d)
    (hu : u.run d = (e, .ok changed)) :
    ∃ t, DocumentStore.exec (.update name p u) s = (.ok (.ofChange changed), t)
      ∧ documents t name = e.replaceIn (documents s name)
      ∧ SameExcept name (documents s) (documents t)
  exec_update_refused {s : σ} (h : Valid s) {name : String} {p : Predicate} {u : Update}
    {d e : Document} {why : Refusal}
    (hf : (documents s name).find? (fun d => p.holds d) = some d)
    (hu : u.run d = (e, .error why)) :
    ∃ t, DocumentStore.exec (.update name p u) s = (.error (.refused why), t)
      ∧ (documents t name = documents s name
        ∨ documents t name = e.replaceIn (documents s name))
      ∧ SameExcept name (documents s) (documents t)
  exec_replace_matched {s : σ} (h : Valid s) {name : String} (ha : Accepts name)
    {p : Predicate} {d old : Document} (upsert : Bool)
    (hf : (documents s name).find? (fun d => p.holds d) = some old) :
    ∃ t, DocumentStore.exec (.replace name p d upsert) s = (.ok (.ofChange true), t)
      ∧ documents t name = Document.replaceIn { d with id := old.id } (documents s name)
      ∧ SameExcept name (documents s) (documents t)
  exec_upsert {s : σ} (h : Valid s) {name : String} (ha : Accepts name)
    {p : Predicate} {d : Document}
    (hf : (documents s name).find? (fun d => p.holds d) = none)
    (ht : d.id ∉ (documents s name).map Document.id) :
    ∃ t, DocumentStore.exec (.replace name p d true) s = (.ok (.ofInsert d.id), t)
      ∧ (documents t name).Perm (d :: documents s name)
      ∧ SameExcept name (documents s) (documents t)

/-- All states that are reached from a valid one are valid. -/
theorem Reaches.valid {σ : Type} [DocumentStore σ] [LawfulStore σ] {s t : σ}
    (h : Reaches s t) (hs : LawfulStore.Valid s) :
  LawfulStore.Valid t
  := by
  induction h with
  | start => apply hs
  | command c _ ih => apply LawfulStore.valid_exec ih

namespace LawfulStore

variable {σ : Type} [DocumentStore σ]

/-- No read tells the states apart. -/
def SameReads (s t : σ) : Prop :=
  ∀ name p,
    (∀ options, (DocumentStore.exec (.find name p options) t).1
      = (DocumentStore.exec (.find name p options) s).1)
    ∧ (DocumentStore.exec (.count name p) t).1 = (DocumentStore.exec (.count name p) s).1

variable [LawfulStore σ] {s t : σ}

/-- The empty sort order leaves documents as they are. -/
theorem sort_nil (docs : List Document) :
  SortSpec.sort [] docs = docs
  := by
  apply List.mergeSort_of_pairwise
  apply List.pairwise_of_forall
  intro d e
  rfl

/-- Without options, all documents that satisfy a filter are found in their natural order. -/
theorem select_default (p : Predicate) (docs : List Document) :
  FindOptions.select {} p docs = docs.filter fun d => p.holds d
  := by
  rw [FindOptions.select, sort_nil]
  rfl

/-- Reads tell exactly the states apart that differ in the documents of a collection or in
their order. -/
theorem sameReads_iff (hs : Valid s) (ht : Valid t) :
  SameReads s t ↔ documents t = documents s
  := by
  constructor
  · intro h
    funext name
    have hfind := (h name .all).1 {}
    rw [exec_find hs, exec_find ht, select_default, select_default] at hfind
    have hall := Except.ok.inj hfind
    simp only [Predicate.holds, List.filter_true] at hall
    apply hall
  · intro h name p
    constructor
    · intro options
      rw [exec_find hs, exec_find ht, h]
    · rw [exec_count hs, exec_count ht, h]

/-- An update fails where the first document that matches its filter refuses it, and only
there. -/
theorem exists_of_exec_update_error (h : Valid s) {name : String} {p : Predicate} {u : Update}
    {e : Error} (he : DocumentStore.exec (.update name p u) s = (.error e, t)) :
  ∃ d d' why,
    (documents s name).find? (fun d => p.holds d) = some d
    ∧ u.run d = (d', .error why)
    ∧ e = .refused why
  := by
  cases hf : (documents s name).find? (fun d => p.holds d) with
  | none =>
      rw [exec_update_unmatched h u hf] at he
      cases he
  | some d =>
      rcases hu : u.run d with ⟨d', why | changed⟩
      · obtain ⟨_, hexec, -⟩ := exec_update_refused h hf hu
        rw [hexec] at he
        use d, d', why
        cases he
        exact ⟨rfl, hu, rfl⟩
      · obtain ⟨_, hexec, -⟩ := exec_update_done h hf hu
        rw [hexec] at he
        cases he

end LawfulStore

end AuditedStore
