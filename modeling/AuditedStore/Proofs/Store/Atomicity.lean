import AuditedStore.Proofs.Store.Embedded
import Mathlib

/-!
# Atomicity of updates

An update that fails should leave no trace.  In a sorted store it does not, since it works on
a copy of the document that is stored when all operations are done.  In memory the operations
change the stored document itself, and those before the refused one stay visible.
-/

namespace AuditedStore

namespace EmbeddedStore

open LawfulStore (SameReads)

/-- Whether updates work on a copy of the document. -/
def updatesCopies : EmbeddedStore → Bool
  | memory _ => false
  | sorted _ => true

variable {s t : EmbeddedStore} {name : String} {p : Predicate} {u : Update}
  {d partly : Document} {why : Refusal}

/-- After a failed update, a sorted store is as before; in memory, the document that refused
the update is as the refused operation found it. -/
theorem documents_of_update_refused (h : s.Valid)
    (hf : (s.documents name).find? (fun d => p.holds d) = some d)
    (hu : u.run d = (partly, .error why))
    (he : DocumentStore.exec (.update name p u) s = (.error (.refused why), t)) :
  t.documents name
      = (if s.updatesCopies then s.documents name else partly.replaceIn (s.documents name))
    ∧ SameExcept name s.documents t.documents
  := by
  cases s with
  | memory s =>
      obtain ⟨r, hr, -, hdocs, hsame⟩ := MemoryStore.Valid.update_matched h u hf
      rw [hu] at hdocs
      have ht : memory (DocumentStore.exec (.update name p u) s).2 = t := congrArg Prod.snd he
      rw [← ht, show DocumentStore.exec (.update name p u) s = (_, r) from hr]
      exact ⟨hdocs, hsame⟩
  | sorted s =>
      have ht : sorted (DocumentStore.exec (.update name p u) s).2 = t := congrArg Prod.snd he
      rw [← ht, show DocumentStore.exec (.update name p u) s = (_, s) from
        SortedStore.Valid.update_refused h hf hu]
      exact ⟨rfl, fun _ _ => rfl⟩

/-- A failed update leaves no trace exactly if updates work on copies or the operations
before the refused one have not changed the document. -/
theorem documents_eq_iff_of_update_refused (h : s.Valid)
    (hf : (s.documents name).find? (fun d => p.holds d) = some d)
    (hu : u.run d = (partly, .error why))
    (he : DocumentStore.exec (.update name p u) s = (.error (.refused why), t)) :
  t.documents = s.documents ↔ s.updatesCopies ∨ partly = d
  := by
  obtain ⟨hdocs, hsame⟩ := documents_of_update_refused h hf hu he
  have hid : partly.id = d.id := by rw [← u.id_run d, hu]
  have hself := Document.replaceIn_eq_self_iff (LawfulStore.nodup_ids (s := s) h name)
    (List.mem_of_find?_eq_some hf) hid
  constructor
  · intro heq
    rw [heq] at hdocs
    cases hcopies : s.updatesCopies with
    | true => exact Or.inl rfl
    | false =>
        rw [hcopies] at hdocs
        exact Or.inr (hself.mp hdocs.symm)
  · intro hor
    funext other
    by_cases hother : other = name
    · rw [hother, hdocs]
      split
      · rfl
      · next hcopies => exact hself.mpr (hor.resolve_left hcopies)
    · apply hsame other hother

/-- If an update of a store that commands have reached fails, then the first document that
matches its filter refuses one of its operations, after the operations before that one were
done.  Exactly if updates work on copies or those operations have not changed the document,
all collections have the same documents in the same order as before, and no read tells the
difference. -/
theorem traceless_iff_of_update_error {l : Location} {e : Error}
    (hs : Reaches l.emptyStore s)
    (he : DocumentStore.exec (.update name p u) s = (.error e, t)) :
  ∃ (d partly : Document) (before after : Update) (op : UpdateOp) (changed : Bool)
      (why : Refusal),
    (s.documents name).find? (fun d => p.holds d) = some d
    ∧ u = before ++ op :: after
    ∧ before.run d = (partly, .ok changed)
    ∧ op.apply partly = .error why
    ∧ e = .refused why
    ∧ t.documents name
      = (if s.updatesCopies then s.documents name else partly.replaceIn (s.documents name))
    ∧ (∀ other, other ≠ name → t.documents other = s.documents other)
    ∧ (t.documents = s.documents ↔ s.updatesCopies ∨ partly = d)
    ∧ (SameReads s t ↔ s.updatesCopies ∨ partly = d)
  := by
  have hvalid : s.Valid := hs.valid l.valid_emptyStore
  have htvalid : t.Valid := by
    have ht := LawfulStore.valid_exec (s := s) hvalid (.update name p u)
    rw [he] at ht
    apply ht
  obtain ⟨d, partly, why, hf, hu, rfl⟩ := LawfulStore.exists_of_exec_update_error hvalid he
  obtain ⟨before, after, op, changed, rfl, hbefore, hop⟩ := Update.exists_of_run_refused hu
  obtain ⟨hdocs, hsame⟩ := documents_of_update_refused hvalid hf hu he
  have hiff := documents_eq_iff_of_update_refused hvalid hf hu he
  use d, partly, before, after, op, changed, why, hf, rfl, hbefore, hop, rfl, hdocs, hsame, hiff
  exact (LawfulStore.sameReads_iff hvalid htvalid).trans hiff

/-! ### A refused push -/

/-- The insertion of a document with a number. -/
def insertNumber : Command Unit := .insert "cards" ⟨"a", [("n", .int 1)]⟩

/-- Sets a value, and then pushes to the number. -/
def setAndPush : Command UpdateResult :=
  .update "cards" (.hasId "a") [.set "x" (.string "red"), .push "n" .null]

/-- A refused push in a sorted store leaves it as it was before the value was set. -/
theorem sameReads_setAndPush_sorted :
  ∃ s t : EmbeddedStore,
    Reaches (Location.directory true ["data"]).emptyStore s
    ∧ DocumentStore.exec setAndPush s = (.error (.refused (.pushToNonArray "n")), t)
    ∧ SameReads s t
  := by
  obtain ⟨s, hs⟩ : ∃ s, s = (DocumentStore.exec insertNumber
    (Location.directory true ["data"]).emptyStore).2 := ⟨_, rfl⟩
  have hreach : Reaches (Location.directory true ["data"]).emptyStore s := by
    rw [hs]
    apply Reaches.command insertNumber Reaches.start
  have hanswer : (DocumentStore.exec setAndPush s).1
      = .error (.refused (.pushToNonArray "n")) := by
    rw [hs]
    cbv
  have he : DocumentStore.exec setAndPush s
      = (.error (.refused (.pushToNonArray "n")), (DocumentStore.exec setAndPush s).2) := by
    rw [← hanswer]
  have hsorted : s.updatesCopies := by
    rw [hs]
    rfl
  obtain ⟨_, _, _, _, _, _, _, -, -, -, -, -, -, -, -, hreads⟩ :=
    traceless_iff_of_update_error hreach he
  exact ⟨s, _, hreach, he, hreads.mpr (Or.inl hsorted)⟩

/-- A refused push in memory leaves the value that was set before it. -/
theorem documents_setAndPush_memory :
  ∃ s t : EmbeddedStore,
    Reaches (Location.memory "db").emptyStore s
    ∧ DocumentStore.exec setAndPush s = (.error (.refused (.pushToNonArray "n")), t)
    ∧ s.documents "cards" = [⟨"a", [("n", .int 1)]⟩]
    ∧ t.documents "cards" = [⟨"a", [("n", .int 1), ("x", .string "red")]⟩]
  := by
  use (DocumentStore.exec insertNumber (Location.memory "db").emptyStore).2
  refine ⟨_, Reaches.command insertNumber Reaches.start, Prod.ext ?_ (Eq.refl _), ?_, ?_⟩
  · cbv
  · cbv
  · cbv

end EmbeddedStore

end AuditedStore
