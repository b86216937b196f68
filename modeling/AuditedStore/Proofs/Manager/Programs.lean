import AuditedStore.Manager
import AuditedStore.Proofs.Audit.Recording
import AuditedStore.Proofs.Search.Reading

/-!
# Running the programs of managers

What the parts of a manager do in a context: reading a record by its id, recording a
snapshot, and stamping.
-/

namespace AuditedStore

open LawfulStore

/-! ### Running programs -/

namespace ManagerM

variable {σ α β : Type} {c c' : Context σ} {p q : ManagerM σ α} {f : α → ManagerM σ β}
  {a : α} {e : Error}

theorem exec_pure (a : α) (c : Context σ) :
  exec (pure a) c = (.ok a, c)
  := rfl

theorem exec_bind_ok (h : p.exec c = (.ok a, c')) :
  exec (p >>= f) c = (f a).exec c'
  := StoreM.exec_bind_ok h

theorem exec_bind_error (h : p.exec c = (.error e, c')) :
  exec (p >>= f) c = (.error e, c')
  := StoreM.exec_bind_error h

theorem exec_bind_congr (h : p.exec c = q.exec c') :
  exec (p >>= f) c = exec (q >>= f) c'
  := StoreM.exec_bind_congr h

theorem exec_map (g : α → β) {answer : Except Error α} (h : p.exec c = (answer, c')) :
  exec (g <$> p) c = (answer.map g, c')
  := by
  rw [← bind_pure_comp]
  cases answer with
  | error e => exact exec_bind_error h
  | ok a => exact exec_bind_ok h

/-- A computation without commands leaves the context as it is. -/
theorem exec_lift (x : Except Error α) (c : Context σ) :
  exec (liftM x) c = (x, c)
  := rfl

theorem exec_get (c : Context σ) :
  exec get c = (.ok c, c)
  := rfl

/-- A program that uses the store alone changes nothing else. -/
theorem exec_onStore {q : StoreM σ α} {answer : Except Error α} {s : σ}
    (h : q.exec c.store = (answer, s)) :
  exec (.onStore q) c = (answer, { c with store := s })
  := by
  rw [exec, onStore, h]

/-- What a program that uses the store alone does, it does to the store. -/
theorem exec_of_exec_onStore {q : StoreM σ α} {answer : Except Error α}
    (h : exec (.onStore q) c = (answer, c')) :
  q.exec c.store = (answer, c'.store)
  := by
  rcases hq : q.exec c.store with ⟨result, s⟩
  rw [exec_onStore hq] at h
  cases h
  rfl

end ManagerM

namespace Manager

/-- The collection of the trails is another one than that of the records, both can be
written, and there is no working client. -/
structure IsSeparate (m : Manager) (Accepts : String → Prop) : Prop where
  collection_ne : m.collection ≠ m.auditCollection
  accepts : Accepts m.collection
  accepts_audit : Accepts m.auditCollection
  no_client : m.settings.workingClientId = none

variable {σ : Type} [DocumentStore σ] {m : Manager} {c c' : Context σ}

/-- Saving stores the stamped record under its id, and then may record it. -/
theorem exec_save {α : Type} [Entity α] {item stamped : α} {isNew : Bool} {d : Document}
    {answer : UpdateResult} {t : σ} (hstamp : (m.stamp item).exec c = (.ok (stamped, isNew), c'))
    (hdoc : Record.toDocument stamped = .ok d)
    (hreplace : DocumentStore.exec (.replace m.collection (.hasId d.id) d true) c'.store
      = (.ok answer, t)) :
  (m.save item).exec c
    = ManagerM.exec
        (if m.isAudited (some (m.auditKey .save)) && (!isNew || m.settings.auditNewItems) then do
          m.record stamped
          pure stamped
        else pure stamped)
        { c' with store := t }
  := by
  have hencoded : (liftM (Record.toDocument stamped) : ManagerM σ Document).exec c' = (.ok d, c') := by
    rw [ManagerM.exec_lift, hdoc]
  have hreplaced : ManagerM.exec (.onStore (perform (.replace m.collection (.hasId d.id) d true))) c'
      = (.ok answer, { c' with store := t }) :=
    ManagerM.exec_onStore hreplace
  rw [save, ManagerM.exec_bind_ok hstamp]
  dsimp only
  rw [ManagerM.exec_bind_ok hencoded, ManagerM.exec_bind_ok hreplaced]

section Update

variable {α : Type} [Record α] {name : String} {id : ObjectId} {u : Update} {key : Option String}
  {result : UpdateResult} {t : σ}

/-- An update that the store fails to do fails, and records nothing. -/
theorem exec_simpleUpdate_error {e : Error}
    (hupdate : DocumentStore.exec (.update m.collection (.hasId name) (m.stampedUpdate u c.now))
      c.store = (.error e, t)) :
  (m.simpleUpdate α name u key).exec c = (.error e, { c with store := t })
  := by
  rw [simpleUpdate, ManagerM.exec_bind_ok (ManagerM.exec_get c)]
  apply ManagerM.exec_bind_error (ManagerM.exec_onStore hupdate)

/-- An update that matches nothing records nothing. -/
theorem exec_simpleUpdate_unmatched
    (hupdate : DocumentStore.exec (.update m.collection (.hasId name) (m.stampedUpdate u c.now))
      c.store = (.ok .unmatched, t)) :
  (m.simpleUpdate α name u key).exec c = (.ok .unmatched, { c with store := t })
  := by
  rw [simpleUpdate, ManagerM.exec_bind_ok (ManagerM.exec_get c)]
  apply ManagerM.exec_bind_ok (ManagerM.exec_onStore hupdate)

/-- After an update of a record its new state may be recorded. -/
theorem exec_simpleUpdate_matched {changed : Bool} {answer : Except Error Bool}
    (hupdate : DocumentStore.exec (.update m.collection (.hasId name) (m.stampedUpdate u c.now))
      c.store = (.ok (.ofChange changed), t))
    (haudit : (m.auditById α name key).exec { c with store := t } = (answer, c')) :
  (m.simpleUpdate α name u key).exec c = (answer.map fun _ => .ofChange changed, c')
  := by
  have hupdated : ManagerM.exec (.onStore (perform
        (.update m.collection (.hasId name) (m.stampedUpdate u c.now)))) c
      = (.ok (.ofChange changed), { c with store := t }) :=
    ManagerM.exec_onStore hupdate
  have hmatched : 0 < (UpdateResult.ofChange changed).matched := Nat.zero_lt_one
  rw [simpleUpdate, ManagerM.exec_bind_ok (ManagerM.exec_get c), ManagerM.exec_bind_ok hupdated]
  dsimp only
  rw [if_pos hmatched]
  cases answer with
  | error e => exact ManagerM.exec_bind_error haudit
  | ok wrote => exact ManagerM.exec_bind_ok haudit

/-- An update of a record that is missing fails. -/
theorem exec_update_unmatched
    (hupdate : (m.simpleUpdate α id.toText u (some (m.auditKey .update))).exec c = (.ok result, c'))
    (hmatched : result.matched = 0) :
  (m.update α id u).exec c = (.error (.notFound (.record id.toText m.collection)), c')
  := by
  rw [update, ManagerM.exec_bind_ok hupdate]
  dsimp only
  rw [if_pos hmatched]
  rfl

/-- An update of a record answers what is found afterwards. -/
theorem exec_update_matched {found : Except Error (Option α)}
    (hupdate : (m.simpleUpdate α id.toText u (some (m.auditKey .update))).exec c = (.ok result, c'))
    (hmatched : result.matched ≠ 0) (hfind : (m.find α id.toText).exec c' = (found, c')) :
  (m.update α id u).exec c
    = (found.bind fun item => item.elim (.error (.notFound (.record id.toText m.collection))) .ok, c')
  := by
  rw [update, ManagerM.exec_bind_ok hupdate]
  dsimp only
  rw [if_neg hmatched]
  cases found with
  | error e => exact ManagerM.exec_bind_error hfind
  | ok item =>
      cases item with
      | none => exact ManagerM.exec_bind_ok hfind
      | some item => exact ManagerM.exec_bind_ok hfind

end Update

variable [LawfulStore σ]

/-- Whether a document is a record of the working client; without one, every document is. -/
def owns (m : Manager) (d : Document) : Bool :=
  Search.isOwned m.settings.workingClientId m.kind d

theorem owns_of_no_client (h : m.settings.workingClientId = none) (d : Document) :
  m.owns d = true
  := by rw [owns, h, Search.isOwned_none]

/-- A record is read from the document with its id, if that is the working client's. -/
theorem exec_find_owned {α : Type} [Record α] (hs : Valid c.store) (id : String) :
  (m.find α id).exec c
    = ((match (lookup? c.store m.collection id).filter m.owns with
        | none => .ok none
        | some d => some <$> (Record.ofDocument d : Except Error α)), c)
  := ManagerM.exec_onStore (Search.exec_lookup hs id m.settings.workingClientId)

/-- A document of another owner is not found. -/
theorem exec_find_disowned {α : Type} [Record α] (hs : Valid c.store) {id : String}
    {d : Document} (hl : lookup? c.store m.collection id = some d) (howned : m.owns d = false) :
  (m.find α id).exec c = (.ok none, c)
  := by
  rw [exec_find_owned hs, hl, Option.filter_some, howned]
  rfl

/-- A document of the working client is read. -/
theorem exec_find_found {α : Type} [Record α] (hs : Valid c.store) {id : String}
    {d : Document} (hl : lookup? c.store m.collection id = some d) (howned : m.owns d = true) :
  (m.find α id).exec c = (some <$> (Record.ofDocument d : Except Error α), c)
  := by
  rw [exec_find_owned hs, hl, Option.filter_some, howned]
  rfl

/-- Without a working client, a record is read from the document with its id. -/
theorem exec_find {α : Type} [Record α] (hclient : m.settings.workingClientId = none)
    (hs : Valid c.store) (id : String) :
  (m.find α id).exec c
    = ((match lookup? c.store m.collection id with
        | none => .ok none
        | some d => some <$> (Record.ofDocument d : Except Error α)), c)
  := by
  cases hl : lookup? c.store m.collection id with
  | none =>
      rw [exec_find_owned hs, hl]
      rfl
  | some d => exact exec_find_found hs hl (owns_of_no_client hclient d)

/-- A snapshot is recorded in the container of its record. -/
theorem exec_record {α : Type} [Record α] {item : α} {d : Document} {vs : List Value}
    (hs : Valid c.store) (ha : Accepts σ m.auditCollection)
    (hd : Record.toDocument item = .ok d)
    (hl : lookup? c.store m.auditCollection d.id = AuditContainer.stored? d.id vs) :
  ∃ t, (m.record item).exec c = (.ok (), { c with store := t })
    ∧ Valid t
    ∧ Puts m.auditCollection
        ((Recording.ofDocument m.auditCollection d m.cap).result vs) c.store t
  := by
  obtain ⟨t, ht, hvalid, hputs⟩ := Recording.exec_run
    (r := Recording.ofDocument m.auditCollection d m.cap) hs ha hl
  refine ⟨t, ManagerM.exec_onStore ?_, hvalid, hputs⟩
  rw [AuditTrail.record, StoreM.exec_bind_ok ((StoreM.exec_lift _ _).trans (by rw [hd]))]
  apply ht

end Manager

end AuditedStore
