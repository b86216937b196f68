import AuditedStore.Proofs.Manager.Creating
import AuditedStore.Proofs.Record.Editing

/-!
# Revising created cards

However often the name and the limit of a created card are changed, by saving it again or by
updates, and by whomever, the card keeps its id and the user and the instant of its creation; only
the user and the instant of its last update change.  Every change is stored, even if no snapshot of
it can be recorded.
-/

namespace AuditedStore

open LawfulStore

/-! ### Changes -/

/-- A change of the name and the limit of a stored card. -/
inductive CardChange where
  /-- The card is found, changed and saved. -/
  | resave (name : String) (limit : Int64)
  /-- The card is updated. -/
  | patch (edits : List CardEdit)

namespace CardChange

/-- The card after a change. -/
def apply (card : Card) : CardChange → Card
  | resave name limit => { card with name := name, limit := limit }
  | patch edits => edits.foldl CardEdit.apply card

/-- Makes a change of the card with an id, if there is one. -/
def program (m : Manager) (id : ObjectId) : CardChange → ManagerM EmbeddedStore (Option Card)
  | resave name limit => do
    match ← m.find Card id.toText with
    | some card => some <$> m.save { card with name := name, limit := limit }
    | none => pure none
  | patch edits => some <$> m.update Card id (edits.map CardEdit.op)

theorem base_apply (card : Card) (change : CardChange) :
  (change.apply card).base = card.base
  := by
  cases change with
  | resave name limit => rfl
  | patch edits => exact CardEdit.base_foldl_apply edits card

end CardChange

/-- A change of the card with an id that a manager makes at an instant. -/
structure Revision where
  manager : Manager
  now : Instant
  id : ObjectId
  change : CardChange

namespace Revision

/-- The user who is noted for the revision. -/
def user (w : Revision) : String := w.manager.settings.auditUser

/-- The card after a revision. -/
def apply (card : Card) (w : Revision) : Card := (w.change.apply card).touch w.user w.now

/-- Makes a revision. -/
def program (w : Revision) : ManagerM EmbeddedStore (Option Card) := w.change.program w.manager w.id

/-- Makes revisions in turn, each at its instant, whatever is answered. -/
def run : List Revision → Context EmbeddedStore → Context EmbeddedStore
  | [], c => c
  | w :: ws, c => run ws (w.program.exec { c with now := w.now }).2

/-- The revisions of the card with an id. -/
def ofCard (id : ObjectId) (ws : List Revision) : List Revision := ws.filter fun w => w.id = id

/-- A revision is made by the clock, by a manager of a collection that names fields strictly, keeps
trails elsewhere and works for no client. -/
structure IsFor (w : Revision) (collection : String) : Prop where
  collection_eq : w.manager.collection = collection
  audit_ne : w.manager.auditCollection ≠ collection
  kind_eq : w.manager.kind = .typed
  no_client : w.manager.settings.workingClientId = none
  now_valid : w.now.IsValid
  nanos_lt : w.now.nanos < Instant.nanosPerSecond

/-- Revisions change the user and the instant of the last update, and no other of the shared
fields. -/
theorem base_foldl_apply (card : Card) (ws : List Revision) :
  ∃ date, (ws.foldl apply card).base = { card.base with
    updatedBy := ws.getLast?.elim card.base.updatedBy fun w => some w.user
    updatedDate := date }
  := by
  induction ws using List.reverseRecOn with
  | nil => exact ⟨card.base.updatedDate, rfl⟩
  | append_singleton ws w ih =>
      obtain ⟨date, hbase⟩ := ih
      refine ⟨some w.now, ?_⟩
      rw [List.foldl_append, List.foldl_cons, List.foldl_nil, apply, Card.touch, w.change.base_apply,
        hbase, List.getLast?_concat]
      rfl

end Revision

namespace Manager

/-- Stamping a card that has an id keeps the id, and makes no other one. -/
theorem exec_stamp_of_id {σ : Type} [DocumentStore σ] (m : Manager) (card : Card) {id : ObjectId}
    (hid : card.base.id = some id) (c : Context σ) :
  ∃ stamped isNew, (m.stamp card).exec c = (.ok (stamped, isNew), c) ∧ stamped.base.id = some id
  := by
  let stamped := card.base.stamp m.settings.auditUser c.now c.generator
  obtain ⟨hkept, hgenerator⟩ : stamped.base.id = some id ∧ stamped.generator = c.generator :=
    BaseFields.stamp_of_id hid
  refine ⟨{ card with base := stamped.base }, stamped.isNew, ?_, hkept⟩
  change (_, { c with generator := stamped.generator }) = _
  rw [hgenerator]
  rfl

/-- A card that has an id and a date of creation is not stamped as new. -/
theorem exec_stamp_created {σ : Type} [DocumentStore σ] (m : Manager) (card : Card)
    {id : ObjectId} (hid : card.base.id = some id) (hcreated : card.base.createdDate.isSome = true)
    (c : Context σ) :
  (m.stamp card).exec c = (.ok (card.touch m.settings.auditUser c.now, false), c)
  := by
  let stamped := card.base.stamp m.settings.auditUser c.now c.generator
  have hstamped : stamped
      = ⟨(card.touch m.settings.auditUser c.now).base, false, c.generator⟩ :=
    BaseFields.stamp_of_created hid hcreated
  change (Except.ok ({ card with base := stamped.base }, stamped.isNew),
    { c with generator := stamped.generator }) = _
  rw [hstamped]
  rfl

variable {m : Manager} {c : Context EmbeddedStore} {card : Card} {id : ObjectId}

/-- Recording a card changes nothing in other collections than that of the trails, whether it
succeeds or not. -/
theorem exec_record_frame (hs : Valid c.store) (hid : card.base.id = some id)
    (hne : m.collection ≠ m.auditCollection) :
  ∃ answer t, (m.record card).exec c = (answer, { c with store := t }) ∧ Valid t
    ∧ ∀ i, lookup? t m.collection i = lookup? c.store m.collection i
  := by
  rcases exec_record_cases (m := m) hs hid
    with ⟨t, hrecord, hvalid, hadds⟩ | ⟨why, t, hrecord, hvalid, hsame⟩
  · exact ⟨_, t, hrecord, hvalid, hadds.lookup?_of_collection_ne hne⟩
  · exact ⟨_, t, hrecord, hvalid, fun i => by rw [hsame]⟩

/-- Auditing changes nothing in other collections than that of the trails, whether it succeeds or
not. -/
theorem exec_auditById_frame (hs : Valid c.store) (hne : m.collection ≠ m.auditCollection)
    (name : String) (key : Option String) :
  ∃ answer t, (m.auditById Card name key).exec c = (answer, { c with store := t }) ∧ Valid t
    ∧ ∀ i, lookup? t m.collection i = lookup? c.store m.collection i
  := by
  rw [auditById]
  split
  · have hfind := exec_find_owned (α := Card) (m := m) hs name
    cases hd : (lookup? c.store m.collection name).filter m.owns with
    | none =>
        rw [hd] at hfind
        exact ⟨_, c.store, ManagerM.exec_bind_ok hfind, hs, fun _ => rfl⟩
    | some d =>
        rw [hd] at hfind
        dsimp only at hfind
        cases hread : (Record.ofDocument d : Except Error Card) with
        | error e =>
            rw [hread] at hfind
            exact ⟨_, c.store, ManagerM.exec_bind_error hfind, hs, fun _ => rfl⟩
        | ok card =>
            rw [hread] at hfind
            obtain ⟨id, -, hid, -⟩ := Card.exists_id_of_ofDocument hread
            obtain ⟨answer, t, hrecord, hrest⟩ := exec_record_frame (m := m) hs hid hne
            rw [ManagerM.exec_bind_ok hfind]
            cases answer with
            | ok _ => exact ⟨_, t, ManagerM.exec_bind_ok hrecord, hrest⟩
            | error e => exact ⟨_, t, ManagerM.exec_bind_error hrecord, hrest⟩
  · exact ⟨_, c.store, rfl, hs, fun _ => rfl⟩

/-- No document of a collection has changed but that with an id. -/
def SameBut (collection id : String) (s t : EmbeddedStore) : Prop :=
  ∀ i, i ≠ id → lookup? t collection i = lookup? s collection i

/-- Saving a card under its id changes no other document of the collection; and if there is one
under the id, the stamped card is stored in its place, whether that can be recorded or not. -/
theorem exec_save_writes (hs : Valid c.store) (hne : m.collection ≠ m.auditCollection)
    {stamped : Card} {isNew : Bool} (hstamp : (m.stamp card).exec c = (.ok (stamped, isNew), c))
    (hid : stamped.base.id = some id) :
  ∃ answer t, (m.save card).exec c = (answer, { c with store := t }) ∧ Valid t
    ∧ SameBut m.collection id.toText c.store t
    ∧ (lookup? c.store m.collection id.toText ≠ none →
      lookup? t m.collection id.toText = some (stamped.document id))
  := by
  rcases EmbeddedStore.exec_upsert_cases hs m.collection (stamped.document id)
    with ⟨answer, t, hreplace, ht, hputs⟩ | ⟨hrefused, hempty⟩
  · have hothers : SameBut m.collection id.toText c.store t :=
      fun i hi => hputs.lookup?_of_ne fun h => hi h.2
    have hstored : lookup? t m.collection id.toText = some (stamped.document id) := hputs.lookup?_self
    have hsave := exec_save hstamp (Card.toDocument_eq hid) hreplace
    split at hsave
    · obtain ⟨answer, t', hrecord, ht', hsame⟩ :=
        exec_record_frame (m := m) (c := { c with store := t }) ht hid hne
      refine ⟨answer.map fun _ => stamped, t', hsave.trans ?_, ht', fun i hi => ?_, fun _ => ?_⟩
      · cases answer with
        | ok _ => exact ManagerM.exec_bind_ok hrecord
        | error e => exact ManagerM.exec_bind_error hrecord
      · rw [hsame, hothers i hi]
      · rw [hsame, hstored]
    · exact ⟨_, t, hsave, ht, hothers, fun _ => hstored⟩
  · have hsave := exec_save_error hstamp (Card.toDocument_eq hid) hrefused
    exact ⟨_, c.store, hsave, hs, fun _ _ => rfl, fun hthere => absurd (hempty _) hthere⟩

section Update

variable {u : Update} {d e : Document}

/-- Updating a document in a way that is refused changes no other document of the collection. -/
theorem exec_update_refused (hs : Valid c.store)
    (hl : lookup? c.store m.collection id.toText = some d) {why : Refusal}
    (hrun : (m.stampedUpdate u c.now).run d = (e, .error why)) :
  ∃ answer t, (m.update Card id u).exec c = (answer, { c with store := t }) ∧ Valid t
    ∧ SameBut m.collection id.toText c.store t
  := by
  obtain ⟨t, hexec, ht, hdocs⟩ := exec_update_found_refused hs hl hrun
  have hsimple : (m.simpleUpdate Card id.toText u (some (m.auditKey .update))).exec c
      = (_, { c with store := t }) :=
    exec_simpleUpdate_error hexec
  refine ⟨_, t, ManagerM.exec_bind_error hsimple, ht, fun i hi => ?_⟩
  rcases hdocs with hkept | hputs
  · rw [lookup?, hkept, lookup?]
  · exact hputs.lookup?_of_ne fun h => hi (h.2.trans (id_of_run hl hrun))

/-- Updating a document stores what the update makes of it in its place, whether that can be
recorded or not, and changes no other document of the collection. -/
theorem exec_update_done (hs : Valid c.store) (hne : m.collection ≠ m.auditCollection)
    (hl : lookup? c.store m.collection id.toText = some d) {changed : Bool}
    (hrun : (m.stampedUpdate u c.now).run d = (e, .ok changed)) :
  ∃ answer t, (m.update Card id u).exec c = (answer, { c with store := t }) ∧ Valid t
    ∧ SameBut m.collection id.toText c.store t
    ∧ lookup? t m.collection id.toText = some e
  := by
  have hid : e.id = id.toText := id_of_run hl hrun
  obtain ⟨t, hexec, ht, hputs⟩ := exec_update_found hs hl hrun
  obtain ⟨answer, t', haudit, ht', hsame⟩ := exec_auditById_frame (m := m)
    (c := { c with store := t }) ht hne id.toText (some (m.auditKey .update))
  have hsimple := exec_simpleUpdate_matched hexec haudit
  have hothers : SameBut m.collection id.toText c.store t' := by
    intro i hi
    rw [hsame, hputs.lookup?_of_ne fun h => hi (h.2.trans hid)]
  have hstored : lookup? t' m.collection id.toText = some e := by
    rw [hsame, ← hid, hputs.lookup?_self]
  cases answer with
  | ok wrote =>
      have hfind := exec_find_owned (α := Card) (m := m) (c := { c with store := t' }) ht' id.toText
      exact ⟨_, t', exec_update_matched hsimple Nat.one_ne_zero hfind, ht', hothers, hstored⟩
  | error err => exact ⟨_, t', ManagerM.exec_bind_error hsimple, ht', hothers, hstored⟩

/-- Updating the document with an id changes no other document of the collection; and what the
update makes of it is stored in its place. -/
theorem exec_update_writes (hs : Valid c.store) (hne : m.collection ≠ m.auditCollection)
    (id : ObjectId) (u : Update) :
  ∃ answer t, (m.update Card id u).exec c = (answer, { c with store := t }) ∧ Valid t
    ∧ SameBut m.collection id.toText c.store t
    ∧ ∀ e, m.Makes id.toText u c e → lookup? t m.collection id.toText = some e
  := by
  cases hl : lookup? c.store m.collection id.toText with
  | none =>
      have hsimple : (m.simpleUpdate Card id.toText u (some (m.auditKey .update))).exec c
          = (_, { c with store := c.store }) :=
        exec_simpleUpdate_unmatched (exec_update_missing hs hl _)
      refine ⟨_, c.store, exec_update_unmatched hsimple rfl, hs, fun _ _ => rfl, ?_⟩
      rintro e ⟨d, changed, hd, -⟩
      exact nomatch hl.symm.trans hd
  | some d =>
      rcases hrun : (m.stampedUpdate u c.now).run d with ⟨e, why | changed⟩
      · obtain ⟨answer, t, hexec, ht, hsame⟩ := exec_update_refused hs hl hrun
        refine ⟨answer, t, hexec, ht, hsame, ?_⟩
        rintro e' ⟨d', changed, hd, hdone⟩
        obtain rfl := Option.some.inj (hl.symm.trans hd)
        exact nomatch hrun.symm.trans hdone
      · obtain ⟨answer, t, hexec, ht, hsame, hstored⟩ := exec_update_done hs hne hl hrun
        refine ⟨answer, t, hexec, ht, hsame, ?_⟩
        rintro e' ⟨d', changed', hd, hdone⟩
        obtain rfl := Option.some.inj (hl.symm.trans hd)
        obtain rfl : e = e' := congrArg Prod.fst (hrun.symm.trans hdone)
        exact hstored

end Update

end Manager

namespace Card

open Manager

/-- A card that was created is stored in a collection under its id, and is read from there as it
is. -/
structure IsHeld (card : Card) (collection : String) (id : ObjectId) (s : EmbeddedStore) : Prop where
  valid : Valid s
  written : ∃ d, lookup? s collection id.toText = some d ∧ card.IsWrittenIn id d
  has_id : card.base.id = some id
  is_created : card.base.createdDate.isSome = true
  dates : card.base.HasValidDates
  settled : card.settled = card

namespace IsHeld

variable {m : Manager} {c : Context EmbeddedStore} {card card' : Card} {collection : String}
  {id : ObjectId} {s t : EmbeddedStore}

theorem exists_lookup? (h : card.IsHeld collection id s) :
  ∃ d, lookup? s collection id.toText = some d ∧ card.IsWrittenIn id d
    ∧ Record.ofDocument d = .ok card
  := by
  obtain ⟨d, hd, hwritten⟩ := h.written
  exact ⟨d, hd, hwritten, hwritten.ofDocument h.has_id h.dates h.settled⟩

theorem exec_find (h : card.IsHeld m.collection id c.store)
    (hclient : m.settings.workingClientId = none) :
  (m.find Card id.toText).exec c = (.ok (some card), c)
  := by
  obtain ⟨d, hd, -, hread⟩ := h.exists_lookup?
  rw [exec_find_found h.valid hd (owns_of_no_client hclient d), hread]
  rfl

/-- A card is held as long as nothing is changed under its id. -/
theorem of_same (h : card.IsHeld collection id s) (ht : Valid t)
    (hsame : lookup? t collection id.toText = lookup? s collection id.toText) :
  card.IsHeld collection id t
  := by
  obtain ⟨d, hd, hwritten⟩ := h.written
  exact { h with valid := ht, written := ⟨d, by rw [hsame, hd], hwritten⟩ }

/-- A card that is written in the place of another one, with no other shared fields than those of
its last update, is held. -/
theorem touch (h : card.IsHeld collection id s) (ht : Valid t) (hbase : card'.base = card.base)
    {user : String} {now : Instant} (hnow : now.IsValid) (hnanos : now.nanos < Instant.nanosPerSecond)
    (hwritten : ∃ d, lookup? t collection id.toText = some d
      ∧ (card'.touch user now).IsWrittenIn id d) :
  (card'.touch user now).IsHeld collection id t
  where
  valid := ht
  written := hwritten
  has_id := by
    rw [Card.touch, hbase, h.has_id]
  is_created := by
    rw [Card.touch, hbase, h.is_created]
  dates := by
    rw [Card.touch, hbase]
    refine ⟨h.dates.created, ?_⟩
    rintro _ ⟨⟩
    exact hnow
  settled := by
    have hcreated : card.base.createdDate.map Instant.settled = card.base.createdDate :=
      congrArg (fun card => card.base.createdDate) h.settled
    simp only [Card.touch, Card.settled, BaseFields.settled, hbase, hcreated, Option.map_some,
      Instant.settled_eq_self hnanos]

/-- Saving a card that is held, with another name and limit, stores it. -/
theorem exec_save (h : card.IsHeld m.collection id c.store) (card' : Card)
    (hbase : card'.base = card.base) (hne : m.collection ≠ m.auditCollection) (hnow : c.now.IsValid)
    (hnanos : c.now.nanos < Instant.nanosPerSecond) :
  ∃ answer t, (m.save card').exec c = (answer, { c with store := t })
    ∧ (card'.touch m.settings.auditUser c.now).IsHeld m.collection id t
  := by
  have hid : card'.base.id = some id := by rw [hbase, h.has_id]
  have hcreated : card'.base.createdDate.isSome = true := by rw [hbase, h.is_created]
  obtain ⟨answer, t, hsave, ht, -, hstored⟩ :=
    exec_save_writes h.valid hne (exec_stamp_created m card' hid hcreated c) hid
  obtain ⟨old, hold, -⟩ := h.written
  refine ⟨answer, t, hsave, h.touch ht hbase hnow hnanos ⟨_, hstored ?_, isWrittenIn_document id _⟩⟩
  rw [hold]
  exact Option.some_ne_none old

/-- Updating a card that is held writes the changes. -/
theorem exec_update (h : card.IsHeld m.collection id c.store) (edits : List CardEdit)
    (hne : m.collection ≠ m.auditCollection) (hkind : m.kind = .typed) (hnow : c.now.IsValid)
    (hnanos : c.now.nanos < Instant.nanosPerSecond) :
  ∃ answer t, (m.update Card id (edits.map CardEdit.op)).exec c = (answer, { c with store := t })
    ∧ ((edits.foldl CardEdit.apply card).touch m.settings.auditUser c.now).IsHeld m.collection id t
  := by
  have hupdate : m.stampedUpdate (edits.map CardEdit.op) c.now
      = edits.map CardEdit.op ++ [.set "UpdatedDate" (.string c.now.toText),
        .set "UpdatedBy" (.string m.settings.auditUser)] := by
    have hdate : SchemaKind.typed.normalize updatedDateField = "UpdatedDate" := by decide +kernel
    have hby : SchemaKind.typed.normalize updatedByField = "UpdatedBy" := by decide +kernel
    rw [stampedUpdate, hkind, hdate, hby]
  obtain ⟨d, hd, hwritten⟩ := h.written
  obtain ⟨e, changed, hrun, he⟩ :=
    (Rewrites.edits edits (rewrites_stamp m.settings.auditUser c.now _)) id d hwritten
  rw [← hupdate] at hrun
  obtain ⟨answer, t, hexec, ht, -, hmade⟩ :=
    exec_update_writes h.valid hne id (edits.map CardEdit.op)
  exact ⟨answer, t, hexec, h.touch ht (CardEdit.base_foldl_apply edits card) hnow hnanos
    ⟨e, hmade e ⟨d, changed, hd, hrun⟩, he⟩⟩

/-- A revision of the card leaves the revised card. -/
theorem revise (h : card.IsHeld collection id c.store) {w : Revision} (hw : w.IsFor collection)
    (hid : w.id = id) (hnow : c.now = w.now) :
  ∃ answer t, w.program.exec c = (answer, { c with store := t })
    ∧ (w.apply card).IsHeld collection id t
  := by
  obtain ⟨m, now, id', change⟩ := w
  obtain ⟨rfl, hne, hkind, hclient, hvalid, hnanos⟩ := hw
  obtain rfl : id' = id := hid
  obtain rfl : c.now = now := hnow
  cases change with
  | resave name limit =>
      obtain ⟨answer, t, hsave, hheld⟩ :=
        h.exec_save (m := m) { card with name := name, limit := limit } rfl hne.symm hvalid hnanos
      refine ⟨answer.map some, t, ?_, hheld⟩
      rw [Revision.program, CardChange.program, ManagerM.exec_bind_ok (h.exec_find hclient)]
      exact ManagerM.exec_map some hsave
  | patch edits =>
      obtain ⟨answer, t, hupdate, hheld⟩ :=
        h.exec_update (m := m) edits hne.symm hkind hvalid hnanos
      exact ⟨answer.map some, t, ManagerM.exec_map some hupdate, hheld⟩

end IsHeld

end Card

namespace Revision

variable {w : Revision} {collection : String} {c : Context EmbeddedStore}

/-- A revision of a card changes no other document of the collection. -/
theorem exec_program_others (hw : w.IsFor collection) (hs : Valid c.store) :
  ∃ answer t, w.program.exec c = (answer, { c with store := t }) ∧ Valid t
    ∧ Manager.SameBut collection w.id.toText c.store t
  := by
  obtain ⟨m, now, id, change⟩ := w
  obtain ⟨rfl, hne, hkind, hclient, hvalid, hnanos⟩ := hw
  cases change with
  | resave name limit =>
      have hfind := Manager.exec_find (α := Card) hclient hs id.toText
      rw [program, CardChange.program]
      cases hl : lookup? c.store m.collection id.toText with
      | none =>
          rw [hl] at hfind
          exact ⟨_, c.store, ManagerM.exec_bind_ok hfind, hs, fun _ _ => rfl⟩
      | some d =>
          rw [hl] at hfind
          dsimp only at hfind
          cases hread : (Record.ofDocument d : Except Error Card) with
          | error e =>
              rw [hread] at hfind
              exact ⟨_, c.store, ManagerM.exec_bind_error hfind, hs, fun _ _ => rfl⟩
          | ok card =>
              rw [hread] at hfind
              obtain ⟨-, -, hid⟩ := Card.settled_of_ofDocument (id_of_lookup? hl) hread
              obtain ⟨stamped, isNew, hstamp, hstamped⟩ :=
                m.exec_stamp_of_id { card with name := name, limit := limit } hid c
              obtain ⟨answer, t, hsave, ht, hsame, -⟩ :=
                Manager.exec_save_writes hs hne.symm hstamp hstamped
              refine ⟨answer.map some, t, ?_, ht, hsame⟩
              rw [ManagerM.exec_bind_ok hfind]
              exact ManagerM.exec_map some hsave
  | patch edits =>
      obtain ⟨answer, t, hupdate, ht, hsame, -⟩ :=
        Manager.exec_update_writes hs hne.symm id (edits.map CardEdit.op)
      exact ⟨answer.map some, t, ManagerM.exec_map some hupdate, ht, hsame⟩

end Revision

namespace Card.IsHeld

variable {m : Manager} {c : Context EmbeddedStore} {card : Card} {collection : String}
  {id : ObjectId}

/-- Revisions in turn leave the card with its own revisions. -/
theorem run (h : card.IsHeld collection id c.store) {ws : List Revision}
    (hws : ∀ w ∈ ws, w.IsFor collection) :
  ((Revision.ofCard id ws).foldl Revision.apply card).IsHeld collection id
    (Revision.run ws c).store
  := by
  induction ws generalizing card c with
  | nil => exact h
  | cons w ws ih =>
      obtain ⟨hw, hrest⟩ := List.forall_mem_cons.mp hws
      rw [Revision.run, Revision.ofCard, List.filter_cons]
      split
      · next hid =>
          obtain ⟨answer, t, hexec, hheld⟩ :=
            h.revise (c := { c with now := w.now }) hw (of_decide_eq_true hid) rfl
          rw [hexec]
          exact ih (c := { c with store := t, now := w.now }) hheld hrest
      · next hid =>
          obtain ⟨answer, t, hexec, ht, hsame⟩ :=
            Revision.exec_program_others (c := { c with now := w.now }) hw h.valid
          rw [hexec]
          have hother : id.toText ≠ w.id.toText :=
            fun heq => hid (decide_eq_true (ObjectId.toText_injective heq).symm)
          exact ih (c := { c with store := t, now := w.now }) (h.of_same ht (hsame _ hother)) hrest

/-- A document that stores a card has the card written in it. -/
theorem isWrittenIn_of_isStoredIn {d : Document} (h : card.IsStoredIn id d) :
  card.IsWrittenIn id d
  := by
  cases h with
  | plain => exact isWrittenIn_document id card
  | withTrail v => exact (isWrittenIn_document id card).set_of_notMem (by decide) v

/-- A card that is created by the clock is held. -/
theorem of_create {item : Card} {c' : Context EmbeddedStore} (hs : Valid c.store)
    (hnow : c.now.IsValid) (hnanos : c.now.nanos < Instant.nanosPerSecond)
    (hcreate : (m.create item).exec c = (.ok card, c')) :
  ∃ id, card = m.created item id c.now ∧ card.IsHeld m.collection id c'.store
  := by
  obtain ⟨id, hcard, hkeeps⟩ := Manager.Keeps.of_create hs hnow hnanos hcreate
  obtain ⟨d, hd, hstored⟩ := hkeeps.stored
  exact ⟨id, hcard, hkeeps.valid, ⟨d, hd, isWrittenIn_of_isStoredIn hstored⟩, hkeeps.has_id,
    by rw [hcard]; rfl, hkeeps.dates, hkeeps.settled⟩

end Card.IsHeld

namespace Manager

/-- The manager of cards of a user. -/
def ofUser (user : String) : Manager :=
  .make Card {} { ManagerSettings.ofCollection "cards" with auditUser := user }

theorem isFor_ofUser {now : Instant} (hnow : now.IsValid)
    (hnanos : now.nanos < Instant.nanosPerSecond) (user : String) (id : ObjectId)
    (change : CardChange) :
  Revision.IsFor ⟨ofUser user, now, id, change⟩ "cards"
  where
  collection_eq := rfl
  audit_ne := (by decide : "cards" ++ "Audit" ≠ "cards")
  kind_eq := rfl
  no_client := rfl
  now_valid := hnow
  nanos_lt := hnanos

/-- A card that was created is stored under one id, in one document of this id.  However often
managers change its name and its limit, and those of other cards, whether they record that or not,
it is found by the id, with the user and the instant of its creation and the user of its last
change; and no manager that saves it again stamps it as new. -/
theorem exec_create_revised {l : Location} {m : Manager} {item card : Card}
    {c c' : Context EmbeddedStore} (hc : Reaches l.emptyStore c.store) (hnow : c.now.IsValid)
    (hnanos : c.now.nanos < Instant.nanosPerSecond)
    (hcreate : (m.create item).exec c = (.ok card, c')) :
  ∃ id, card.base.id = some id
    ∧ ∀ ws : List Revision, (∀ w ∈ ws, w.IsFor m.collection) →
      ∃ (found : Card) (d : Document),
        (documents (Revision.run ws c').store m.collection).filter (fun d => d.id == id.toText)
          = [d]
        ∧ Record.ofDocument d = .ok found
        ∧ (∀ m' : Manager, m'.collection = m.collection → m'.settings.workingClientId = none →
          (m'.find Card id.toText).exec (Revision.run ws c')
            = (.ok (some found), Revision.run ws c'))
        ∧ found.base.id = some id
        ∧ found.base.createdBy = some m.settings.auditUser
        ∧ found.base.createdDate = some c.now
        ∧ found.base.updatedBy
          = some ((Revision.ofCard id ws).getLast?.elim m.settings.auditUser Revision.user)
        ∧ ∀ (m' : Manager) (name : String) (limit : Int64), ∃ stamped,
          (m'.stamp { found with name := name, limit := limit }).exec (Revision.run ws c')
            = (.ok (stamped, false), Revision.run ws c')
  := by
  obtain ⟨id, hcard, hheld⟩ := Card.IsHeld.of_create (hc.valid l.valid_emptyStore) hnow hnanos hcreate
  refine ⟨id, hheld.has_id, fun ws hws => ?_⟩
  have hrun := hheld.run hws
  let found := (Revision.ofCard id ws).foldl Revision.apply card
  obtain ⟨date, hbase⟩ := Revision.base_foldl_apply card (Revision.ofCard id ws)
  obtain ⟨d, hd, -, hread⟩ := hrun.exists_lookup?
  refine ⟨found, d, filter_id_of_lookup? hrun.valid hd, hread, ?_, hrun.has_id, ?_, ?_, ?_, ?_⟩
  · intro m' hcollection hclient
    rw [← hcollection] at hrun
    exact hrun.exec_find hclient
  · rw [hbase, hcard]
    rfl
  · rw [hbase, hcard]
    rfl
  · rw [hbase, hcard]
    cases (Revision.ofCard id ws).getLast? with
    | none => rfl
    | some w => rfl
  · intro m' name limit
    exact ⟨_, exec_stamp_created m' { found with name := name, limit := limit } hrun.has_id
      hrun.is_created _⟩

/-- One user creates a card, another one saves it with a limit, and a third one renames it. -/
theorem exec_create_revised_by_others :
  let c : Context EmbeddedStore :=
    ⟨(Location.memory "db").emptyStore, ⟨List.replicate 5 0, rfl, 0⟩, ⟨0, 5⟩⟩
  let ws (id : ObjectId) : List Revision :=
    [⟨ofUser "eve", ⟨1, 0⟩, id, .resave "Visa" 7⟩, ⟨ofUser "kay", ⟨2, 0⟩, id, .patch [.name "Gold"]⟩]
  ∃ (c' : Context EmbeddedStore) (card found : Card) (id : ObjectId),
    ((ofUser "ada").create (⟨{}, "Visa", 0⟩ : Card)).exec c = (.ok card, c')
    ∧ card.base.id = some id
    ∧ ((ofUser "ada").find Card id.toText).exec (Revision.run (ws id) c')
      = (.ok (some found), Revision.run (ws id) c')
    ∧ found.base.createdBy = some "ada" ∧ found.base.createdDate = some ⟨0, 5⟩
    ∧ found.base.updatedBy = some "kay"
  := by
  intro c ws
  obtain ⟨card, c', hcreate, -⟩ := exists_exec_create_empty (m := ofUser "ada")
    (isSeparate_of_cards ⟨rfl, rfl⟩ rfl) ⟨{}, "Visa", 0⟩ ⟨0, 5⟩
  obtain ⟨id, hid, hrevised⟩ := exec_create_revised (l := .memory "db") (m := ofUser "ada") (c := c)
    .start ⟨by decide, by decide⟩ (by decide) hcreate
  have hws : ∀ w ∈ ws id, w.IsFor "cards" := by
    simp only [ws, List.forall_mem_cons]
    exact ⟨isFor_ofUser ⟨by decide, by decide⟩ (by decide) "eve" id _,
      isFor_ofUser ⟨by decide, by decide⟩ (by decide) "kay" id _, List.forall_mem_nil _⟩
  have hown : Revision.ofCard id (ws id) = ws id := by simp [Revision.ofCard, ws]
  obtain ⟨found, d, -, -, hfind, -, hcreatedBy, hcreatedDate, hupdatedBy, -⟩ :=
    hrevised (ws id) hws
  rw [hown] at hupdatedBy
  exact ⟨c', card, found, id, hcreate, hid, hfind _ rfl rfl, hcreatedBy, hcreatedDate, hupdatedBy⟩

end Manager

end AuditedStore
