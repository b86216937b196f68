import AuditedStore.Proofs.Audit.Recording
import AuditedStore.Proofs.Store.Refusing

/-!
# Recordings over any document

What stands under the id of a record in the collection of its trail may be nothing, a
container, or any other document.  A recording adds its snapshot to the trail there and leaves
the other fields of the document as they are; or it is refused, and changes no document.
-/

namespace AuditedStore

open LawfulStore

namespace AuditContainer

/-- The document with a snapshot added to its trail, of which the newest are kept. -/
def added (d : Document) (cap : Nat) (vs : List Value) (v : Value) : Document :=
  d.set auditItemsField (.array (keepNewest cap (vs ++ [v])))

/-- A push adds a snapshot to the trail of a document, or is refused and leaves the document as
it is. -/
theorem run_pushCapped_cases (d : Document) (v : Value) (cap : Nat) :
  (∃ vs, snapshots d = .ok vs
      ∧ Update.run [.pushCapped auditItemsField v cap] d = (added d cap vs v, .ok true))
    ∨ ∃ why, Update.run [.pushCapped auditItemsField v cap] d = (d, .error why)
  := by
  have hpath : pathNames auditItemsField = [auditItemsField] := by decide
  have hfield : d.fieldAt? auditItemsField = Assoc.get? auditItemsField d.fields := by
    rw [Document.fieldAt?, hpath, Fields.at?]
  have hset (w : Value) : d.setAt? auditItemsField w = some (d.set auditItemsField w) := by
    rw [Document.setAt?, hpath, Fields.setAt?, Option.map_some, Document.set]
  simp only [Update.run, UpdateOp.apply, UpdateOp.pushValue, hfield, snapshots]
  cases hitems : Assoc.get? auditItemsField d.fields with
  | none =>
      refine Or.inl ⟨[], rfl, ?_⟩
      simp only [hset, added, List.nil_append, keepNewest_singleton]
      rfl
  | some w =>
      cases w with
      | array vs =>
          refine Or.inl ⟨vs, rfl, ?_⟩
          simp only [hset, added]
          rfl
      | _ => exact Or.inr ⟨_, rfl⟩

end AuditContainer

namespace Recording

variable {r : Recording}

/-- The snapshot of a recording is added to the trail under the id of its record, and no other
document changes. -/
def Adds (r : Recording) (s t : EmbeddedStore) : Prop :=
  ∃ vs,
    ((lookup? s r.collection r.id).map AuditContainer.snapshots).getD (.ok []) = .ok vs
    ∧ Puts r.collection
        (AuditContainer.added ((lookup? s r.collection r.id).getD ⟨r.id, []⟩) r.cap vs r.snapshot)
        s t

variable {s t : EmbeddedStore}

theorem id_container (r : Recording) (s : EmbeddedStore) :
  ((lookup? s r.collection r.id).getD ⟨r.id, []⟩).id = r.id
  := by
  cases hl : lookup? s r.collection r.id with
  | none => rfl
  | some d => exact id_of_lookup? hl

/-- A recording changes at most the trail in a document that is there. -/
theorem Adds.exists_lookup? (h : r.Adds s t) {name id : String} {d : Document}
    (hl : lookup? s name id = some d) :
  ∃ e, lookup? t name id = some e ∧ (e = d ∨ ∃ v, e = d.set auditItemsField v)
  := by
  obtain ⟨vs, -, hputs⟩ := h
  rw [hputs name id]
  split
  · next hplace =>
      obtain ⟨rfl, hid⟩ := hplace
      have hsame : id = r.id := hid.trans (r.id_container s)
      rw [← hsame, hl]
      exact ⟨_, rfl, Or.inr ⟨_, rfl⟩⟩
  · exact ⟨d, hl, Or.inl rfl⟩

/-- A recording changes nothing under other ids than that of its record. -/
theorem Adds.lookup?_of_ne (h : r.Adds s t) {id : String} (hid : id ≠ r.id) (name : String) :
  lookup? t name id = lookup? s name id
  := by
  obtain ⟨vs, -, hputs⟩ := h
  apply hputs.lookup?_of_ne
  exact fun hplace => hid (hplace.2.trans (r.id_container s))

/-- A recording changes nothing in other collections than that of its trail. -/
theorem Adds.lookup?_of_collection_ne (h : r.Adds s t) {name : String} (hname : name ≠ r.collection)
    (id : String) :
  lookup? t name id = lookup? s name id
  := by
  obtain ⟨vs, -, hputs⟩ := h
  apply hputs.lookup?_of_ne
  exact fun hplace => hname hplace.1

/-- A recording adds its snapshot, or is refused and changes no document. -/
theorem exec_run_cases (hs : Valid s) (r : Recording) :
  (∃ t, StoreM.exec r.run s = (.ok (), t) ∧ Valid t ∧ r.Adds s t)
    ∨ ∃ why t, StoreM.exec r.run s = (.error (.refused why), t)
      ∧ Valid t ∧ lookup? t = lookup? s
  := by
  cases hl : lookup? s r.collection r.id with
  | none =>
      rw [StoreM.exec, run, step_append_missing hs hl]
      dsimp only
      rcases EmbeddedStore.exec_insert_cases hs r.collection (r.result [])
        with ⟨t, ht, hvalid, -, hputs⟩ | ⟨t, -, htaken, -⟩ | hrefused
      · refine Or.inl ⟨t, ?_, hvalid, [], by rw [hl]; rfl, ?_⟩
        · rw [step, start_eq, ht]
          rfl
        · rw [hl]
          apply hputs
      · exact absurd hl htaken
      · refine Or.inr ⟨.reservedCollection, s, ?_, hs, rfl⟩
        rw [step, start_eq, hrefused]
        rfl
  | some d =>
      rw [StoreM.exec, run, step, push]
      rcases AuditContainer.run_pushCapped_cases d r.snapshot r.cap with ⟨vs, hvs, hrun⟩ | ⟨why, hrun⟩
      · obtain ⟨t, ht, hvalid, hputs⟩ := exec_update_found hs hl hrun
        refine Or.inl ⟨t, ?_, hvalid, vs, by rw [hl]; exact hvs, ?_⟩
        · rw [ht]
          rfl
        · rw [hl]
          apply hputs
      · obtain ⟨t, ht, hvalid, hdocs⟩ := exec_update_found_refused hs hl hrun
        refine Or.inr ⟨why, t, ?_, hvalid, ?_⟩
        · rw [ht]
          rfl
        · -- The document that is put in the place of the old one is the old one.
          rcases hdocs with hkept | hputs
          · funext m i
            rw [lookup?, hkept, lookup?]
          · funext m i
            rw [hputs m i]
            split
            · next h => rw [h.1, h.2, id_of_lookup? hl, hl]
            · rfl

end Recording

end AuditedStore
