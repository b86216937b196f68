import AuditedStore.Proofs.Audit.Adding
import AuditedStore.Proofs.Store.Effect

/-!
# Collections that recordings alone write

Where only recordings write to a collection, every document of it is the container of a trail: a
command of a recording adds its snapshot to one trail, or changes none.  A whole recording then
succeeds if the collection can be written, and adds its snapshot to the trail of its record alone.
-/

namespace AuditedStore

open LawfulStore

variable {s t : EmbeddedStore} {name : String}

/-! ### Other collections -/

namespace Recording

/-- A recording leaves the documents of all other collections as they are. -/
theorem documents_step_of_ne (r : Recording) (phase : Phase) (s : EmbeddedStore)
    (hname : name ≠ r.collection) :
  documents (r.step phase s).2 name = documents s name
  := by
  have hpush : r.push.written? ≠ some name := fun h => hname (Option.some.inj h).symm
  have hstart : r.start.written? ≠ some name := fun h => hname (Option.some.inj h).symm
  cases phase with
  | append => exact s.documents_exec_of_ne hpush not_false
  | create => exact s.documents_exec_of_ne hstart not_false
  | retry => exact s.documents_exec_of_ne hpush not_false
  | done outcome => rfl

@[inherit_doc documents_step_of_ne]
theorem documents_run_of_ne (r : Recording) (s : EmbeddedStore) (hname : name ≠ r.collection) :
  documents (StoreM.exec r.run s).2 name = documents s name
  := calc
    _ = documents (r.step (r.step .append s).1 (r.step .append s).2).2 name :=
      r.documents_step_of_ne _ _ hname
    _ = documents (r.step .append s).2 name := r.documents_step_of_ne _ _ hname
    _ = documents s name := r.documents_step_of_ne _ _ hname

end Recording

/-! ### Trails -/

/-- The documents of a collection are the containers of these trails. -/
def HoldsTrails (s : EmbeddedStore) (name : String) (trails : String → List Value) : Prop :=
  ∀ id, lookup? s name id = AuditContainer.stored? id (trails id)

/-- A collection that has lost documents still has containers of trails alone. -/
theorem HoldsTrails.of_subset {trails : String → List Value} (h : HoldsTrails s name trails)
    (hs : Valid s) (ht : Valid t) (hdocs : documents t name ⊆ documents s name) :
  ∃ trails', HoldsTrails t name trails'
  := by
  have heach : ∀ id, ∃ vs, lookup? t name id = AuditContainer.stored? id vs := by
    intro id
    cases hl : lookup? t name id with
    | none => exact ⟨[], rfl⟩
    | some d =>
        obtain ⟨hd, hid⟩ := (Document.withId?_eq_some_iff (nodup_ids ht name)).mp hl
        have hbefore : lookup? s name id = some d :=
          (Document.withId?_eq_some_iff (nodup_ids hs name)).mpr ⟨hdocs hd, hid⟩
        exact ⟨trails id, hbefore.symm.trans (h id)⟩
  choose trails' htrails' using heach
  exact ⟨trails', htrails'⟩

namespace Recording

variable {r : Recording} {trails : String → List Value}

/-- The trails with the snapshot of a recording added to that of its record. -/
def extend (r : Recording) (trails : String → List Value) : String → List Value :=
  Function.update trails r.id (keepNewest r.cap (trails r.id ++ [r.snapshot]))

/-- The container that a recording puts is that of the extended trail. -/
theorem holdsTrails_of_puts (h : HoldsTrails s r.collection trails)
    (hputs : Puts r.collection (r.result (trails r.id)) s t) :
  HoldsTrails t r.collection (r.extend trails)
  := by
  intro id
  rw [hputs, extend, Function.update_apply]
  by_cases hid : id = r.id
  · rw [if_pos ⟨rfl, hid⟩, if_pos hid, hid,
      AuditContainer.stored?_of_ne_nil (keepNewest_append_singleton_ne_nil _ _ _)]
    rfl
  · rw [if_neg fun hplace => hid hplace.2, if_neg hid, h]

/-- A push adds its snapshot to a trail, or finds none and changes nothing. -/
theorem exists_holdsTrails_push (hs : Valid s) (h : HoldsTrails s r.collection trails) :
  ∃ trails', HoldsTrails (DocumentStore.exec r.push s).2 r.collection trails'
  := by
  have hl := h r.id
  cases htrail : trails r.id with
  | nil =>
      rw [htrail] at hl
      rw [push, exec_update_missing hs hl]
      exact ⟨trails, h⟩
  | cons v vs =>
      rw [htrail] at hl
      obtain ⟨t, ht, -, hputs⟩ := exec_push hs hl
      rw [ht]
      rw [← htrail] at hputs
      exact ⟨_, holdsTrails_of_puts h hputs⟩

/-- The insertion of a container starts a trail, or fails and changes nothing. -/
theorem exists_holdsTrails_start (hs : Valid s) (h : HoldsTrails s r.collection trails) :
  ∃ trails', HoldsTrails (DocumentStore.exec r.start s).2 r.collection trails'
  := by
  rw [start_eq]
  rcases EmbeddedStore.exec_insert_cases hs r.collection (r.result [])
    with ⟨t, ht, -, hnone, hputs⟩ | ⟨t, ht, -, hdocs⟩ | hrefused
  · have hnil : trails r.id = [] := by
      have hl := (h r.id).symm.trans hnone
      cases htrail : trails r.id with
      | nil => rfl
      | cons v vs =>
          rw [htrail] at hl
          cases hl
    rw [ht]
    rw [← hnil] at hputs
    exact ⟨_, holdsTrails_of_puts h hputs⟩
  · rw [ht]
    refine ⟨trails, fun id => ?_⟩
    rw [lookup?, hdocs, ← lookup?, h]
  · rw [hrefused]
    exact ⟨trails, h⟩

/-- A recording succeeds where a collection can be written, and extends the trail of its record. -/
theorem exec_run_of_accepts (hs : Valid s) (ha : s.accepts r.collection = true)
    (h : HoldsTrails s r.collection trails) :
  ∃ t, StoreM.exec r.run s = (.ok (), t) ∧ Valid t ∧ HoldsTrails t r.collection (r.extend trails)
  := by
  have hl := h r.id
  cases htrail : trails r.id with
  | nil =>
      rw [htrail] at hl
      rcases EmbeddedStore.exec_insert_of_accepts hs ha (r.result [])
        with ⟨t, ht, hvalid, -, hputs⟩ | ⟨-, -, htaken, -⟩
      · refine ⟨t, ?_, hvalid, ?_⟩
        · rw [StoreM.exec, run, step_append_missing hs hl]
          dsimp only
          rw [step, start_eq, ht]
          rfl
        · rw [← htrail] at hputs
          exact holdsTrails_of_puts h hputs
      · exact absurd hl htaken
  | cons v vs =>
      rw [htrail] at hl
      obtain ⟨t, ht, hvalid, hputs⟩ := step_append hs hl
      refine ⟨t, ?_, hvalid, ?_⟩
      · rw [StoreM.exec, run, ht]
        rfl
      · rw [← htrail] at hputs
        exact holdsTrails_of_puts h hputs

/-- A recording is refused where a collection cannot be written, and changes nothing. -/
theorem exec_run_of_not_accepts (hs : Valid s) (ha : s.accepts r.collection = false) :
  StoreM.exec r.run s = (.error (.refused .reservedCollection), s)
  := by
  rw [StoreM.exec, run, step_append_missing hs (EmbeddedStore.lookup?_of_not_accepts ha r.id)]
  dsimp only
  rw [step, start, EmbeddedStore.exec_insert_of_not_accepts ha]
  rfl

end Recording

/-! ### Writing only by recordings -/

/-- The states that a store reaches from a state by commands of recordings, which may be those of
several writers in turn, and commands that put nothing else into the collection of the trails. -/
inductive RecordedOnly (name : String) (s : EmbeddedStore) : EmbeddedStore → Prop where
  | start : RecordedOnly name s s
  | push {t : EmbeddedStore} (r : Recording) (hr : r.collection = name) (h : RecordedOnly name s t) :
      RecordedOnly name s (DocumentStore.exec r.push t).2
  | first {t : EmbeddedStore} (r : Recording) (hr : r.collection = name)
      (h : RecordedOnly name s t) :
      RecordedOnly name s (DocumentStore.exec r.start t).2
  | other {t : EmbeddedStore} {α : Type} (c : Command α)
      (hc : documents (DocumentStore.exec c t).2 name ⊆ documents t name)
      (h : RecordedOnly name s t) :
      RecordedOnly name s (DocumentStore.exec c t).2

namespace RecordedOnly

/-- Each phase of a recording is such a command. -/
theorem step (h : RecordedOnly name s t) {r : Recording} (hr : r.collection = name)
    (phase : Recording.Phase) :
  RecordedOnly name s (r.step phase t).2
  := by
  cases phase with
  | append => exact .push r hr h
  | create => exact .first r hr h
  | retry => exact .push r hr h
  | done outcome => exact h

/-- So is a whole recording. -/
theorem run (h : RecordedOnly name s t) {r : Recording} (hr : r.collection = name) :
  RecordedOnly name s (StoreM.exec r.run t).2
  := ((h.step hr .append).step hr _).step hr _

/-- Commands on other collections put nothing into this one. -/
theorem command (h : RecordedOnly name s t) {c : Command α} (hwritten : c.written? ≠ some name)
    (hdrops : ¬ c.Drops name) :
  RecordedOnly name s (DocumentStore.exec c t).2
  := by
  apply other c _ h
  rw [show documents (DocumentStore.exec c t).2 name = documents t name from
    t.documents_exec_of_ne hwritten hdrops]
  exact List.Subset.refl _

theorem trans {u : EmbeddedStore} (h : RecordedOnly name s t) (h' : RecordedOnly name t u) :
  RecordedOnly name s u
  := by
  induction h' with
  | start => exact h
  | push r hr _ ih => exact ih.push r hr
  | first r hr _ ih => exact ih.first r hr
  | other c hc _ ih => exact ih.other c hc

theorem reaches (h : RecordedOnly name s t) :
  Reaches s t
  := by
  induction h with
  | start => exact .start
  | push r _ _ ih => exact .command r.push ih
  | first r _ _ ih => exact .command r.start ih
  | other c _ _ ih => exact .command c ih

/-- Recordings alone leave containers of trails alone. -/
theorem exists_holdsTrails (h : RecordedOnly name s t) (hs : Valid s)
    (hempty : documents s name = []) :
  ∃ trails, HoldsTrails t name trails
  := by
  induction h with
  | start =>
      refine ⟨fun _ => [], fun id => ?_⟩
      rw [lookup?, hempty]
      rfl
  | push r hr h ih =>
      subst hr
      obtain ⟨trails, htrails⟩ := ih
      exact Recording.exists_holdsTrails_push (h.reaches.valid hs) htrails
  | first r hr h ih =>
      subst hr
      obtain ⟨trails, htrails⟩ := ih
      exact Recording.exists_holdsTrails_start (h.reaches.valid hs) htrails
  | other c hc h ih =>
      obtain ⟨trails, htrails⟩ := ih
      have hvalid := h.reaches.valid hs
      exact htrails.of_subset hvalid (valid_exec hvalid c) hc

end RecordedOnly

end AuditedStore
