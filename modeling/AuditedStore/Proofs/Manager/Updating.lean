import AuditedStore.Proofs.Audit.Adding
import AuditedStore.Proofs.Manager.Isolation
import AuditedStore.Proofs.Search.Reading

/-!
# Updates of managed cards

An update writes to the record with its id, whoever owns it; but what is recorded and what is
answered afterwards is looked up for the working client.  So an update of a record that is not
the client's, or that is not the client's any more, is done without a trace: no snapshot is
recorded, and the answer is that there is no such record.
-/

namespace AuditedStore

open LawfulStore

/-! ### Fields beside the trail -/

/-- Setting a field does not change what is found at the path of another one. -/
theorem Document.at?_set_of_ne {path name : String} (hpath : pathNames path = [path])
    (hne : path ≠ name) (v : Value) (d : Document) :
  (d.set name v).at? path = d.at? path
  := by
  simp only [at?, fieldAt?, hpath, Fields.at?, set, Assoc.get?_insert, if_neg hne]

/-- The trail in a document does not count for its owner. -/
theorem Search.isOwned_set_auditItems (client : Option String) (kind : SchemaKind) (v : Value)
    (d : Document) :
  isOwned client kind (d.set auditItemsField v) = isOwned client kind d
  := by
  obtain ⟨hpath, hne⟩ : pathNames (kind.normalize clientIdField) = [kind.normalize clientIdField]
      ∧ kind.normalize clientIdField ≠ auditItemsField := by
    cases kind with
    | dynamic => decide +kernel
    | typed => decide +kernel
  rw [isOwned, isOwned]
  cases client.bind SearchRequest.nonBlank with
  | none => rfl
  | some owner =>
      simp only [SearchRequest.clientPredicate, Predicate.holds, Document.at?_set_of_ne hpath hne]

namespace Manager

/-- A document is what an update makes of the record with an id. -/
def Makes {σ : Type} [DocumentStore σ] [LawfulStore σ] (m : Manager) (name : String) (u : Update)
    (c : Context σ) (e : Document) : Prop :=
  ∃ d changed, lookup? c.store m.collection name = some d
    ∧ (m.stampedUpdate u c.now).run d = (e, .ok changed)

section Auditing

variable {m : Manager} {c c' : Context EmbeddedStore} {name : String} {u : Update}
  {key : Option String} {e : Document}

/-- Recording a card that has an id adds its snapshot, or is refused and changes no document. -/
theorem exec_record_cases {card : Card} {id : ObjectId} (hs : Valid c.store)
    (hid : card.base.id = some id) :
  (∃ t, (m.record card).exec c = (.ok (), { c with store := t }) ∧ Valid t
      ∧ (Recording.ofDocument m.auditCollection (card.document id) m.cap).Adds c.store t)
    ∨ ∃ why t, (m.record card).exec c = (.error (.refused why), { c with store := t })
      ∧ Valid t ∧ lookup? t = lookup? c.store
  := by
  have hencoded : StoreM.exec (liftM (Record.toDocument card)) c.store
      = (.ok (card.document id), c.store) := by
    rw [StoreM.exec_lift, Card.toDocument_eq hid]
  rcases Recording.exec_run_cases hs
      (Recording.ofDocument m.auditCollection (card.document id) m.cap)
    with ⟨t, ht, hrest⟩ | ⟨why, t, ht, hrest⟩
  · refine Or.inl ⟨t, ManagerM.exec_onStore ?_, hrest⟩
    rw [AuditTrail.record, StoreM.exec_bind_ok hencoded, ht]
  · refine Or.inr ⟨why, t, ManagerM.exec_onStore ?_, hrest⟩
    rw [AuditTrail.record, StoreM.exec_bind_ok hencoded, ht]

/-- Auditing a record of the working client adds the snapshot of its stored state, which is found
afterwards as before; or it fails, but not as if the record were missing. -/
theorem exec_auditById_owned (hs : Valid c.store)
    (hl : lookup? c.store m.collection name = some e) (howned : m.owns e = true)
    (hkey : m.isAudited key = true) :
  (∃ id card t, ObjectId.read? name = some id
      ∧ AuditContainer.restore Card (card.document id).toValue = .ok card
      ∧ (Recording.ofDocument m.auditCollection (card.document id) m.cap).Adds c.store t
      ∧ (m.auditById Card name key).exec c = (.ok true, { c with store := t })
      ∧ (m.find Card name).exec { c with store := t } = (.ok (some card), { c with store := t }))
    ∨ ∃ err c', (m.auditById Card name key).exec c = (.error err, c')
      ∧ ∀ what, err ≠ .notFound what
  := by
  have hfind := exec_find_found (α := Card) hs hl howned
  rw [auditById, if_pos hkey]
  cases hread : (Record.ofDocument e : Except Error Card) with
  | error err =>
      rw [hread] at hfind
      refine Or.inr ⟨err, c, ManagerM.exec_bind_error hfind, fun what hwhat => ?_⟩
      exact nomatch hwhat.symm.trans (Card.eq_undecodable_of_ofDocument hread)
  | ok card =>
      rw [hread] at hfind
      obtain ⟨id, hname, hid, hdates, hsettled⟩ := Card.exists_id_of_ofDocument hread
      rw [id_of_lookup? hl] at hname
      rw [ManagerM.exec_bind_ok hfind]
      rcases exec_record_cases (m := m) hs hid with ⟨t, hrecord, hvalid, hadds⟩ | ⟨why, t, hrecord, -⟩
      · refine Or.inl ⟨id, card, t, hname, ?_, hadds, ManagerM.exec_bind_ok hrecord, ?_⟩
        · rw [Card.restore_document, Card.ofDocument_document hid hdates, hsettled]
        · -- The trail may be kept in the record itself; then it is skipped by the reader.
          obtain ⟨f, hf, hsame⟩ := hadds.exists_lookup? hl
          have hstored : m.owns f = true ∧ (Record.ofDocument f : Except Error Card) = .ok card := by
            rcases hsame with rfl | ⟨v, rfl⟩
            · exact ⟨howned, hread⟩
            · rw [owns, Search.isOwned_set_auditItems, Card.ofDocument_set (by decide) (by decide)]
              exact ⟨howned, hread⟩
          rw [exec_find_found hvalid hf hstored.1, hstored.2]
          rfl
      · refine Or.inr ⟨_, _, ManagerM.exec_bind_error hrecord, ?_⟩
        rintro what ⟨⟩

/-- Nothing is recorded of a record that is not the working client's. -/
theorem exec_auditById_disowned (hs : Valid c.store)
    (hl : lookup? c.store m.collection name = some e) (howned : m.owns e = false) :
  (m.auditById Card name key).exec c = (.ok false, c)
  := by
  rw [auditById]
  split
  · rw [ManagerM.exec_bind_ok (exec_find_disowned hs hl howned)]
    rfl
  · rfl

/-- An update that can be done puts what it makes of the record, whose new state may then be
recorded. -/
theorem exists_exec_simpleUpdate (hs : Valid c.store) (h : m.Makes name u c e) :
  ∃ changed t, Valid t ∧ Puts m.collection e c.store t
    ∧ lookup? t m.collection name = some e
    ∧ ∀ key answer c', (m.auditById Card name key).exec { c with store := t } = (answer, c') →
        (m.simpleUpdate Card name u key).exec c = (answer.map fun _ => .ofChange changed, c')
  := by
  obtain ⟨d, changed, hl, hrun⟩ := h
  obtain ⟨t, ht, hvalid, hputs⟩ := exec_update_found hs hl hrun
  refine ⟨changed, t, hvalid, hputs, ?_, fun key answer c' => exec_simpleUpdate_matched ht⟩
  rw [← id_of_run hl hrun]
  apply hputs.lookup?_self

/-- An update finds no record, makes something of the record that it finds, or is refused. -/
theorem exec_simpleUpdate_cases (hs : Valid c.store) (name : String) (u : Update) :
  (lookup? c.store m.collection name = none
      ∧ ∀ key, (m.simpleUpdate Card name u key).exec c = (.ok .unmatched, c))
    ∨ (∃ e, m.Makes name u c e)
    ∨ ∃ why, ∀ key, ∃ c', (m.simpleUpdate Card name u key).exec c = (.error (.refused why), c')
  := by
  cases hl : lookup? c.store m.collection name with
  | none =>
      refine Or.inl ⟨rfl, fun key => ?_⟩
      apply exec_simpleUpdate_unmatched (exec_update_missing hs hl _)
  | some d =>
      rcases hrun : (m.stampedUpdate u c.now).run d with ⟨e, why | changed⟩
      · obtain ⟨t, ht, -⟩ := exec_update_found_refused hs hl hrun
        exact Or.inr (Or.inr ⟨why, fun key => ⟨_, exec_simpleUpdate_error ht⟩⟩)
      · exact Or.inr (Or.inl ⟨e, d, changed, hl, hrun⟩)

/-! ### Updates -/

variable {id : ObjectId}

/-- An update that makes a record of another owner stores it all the same, records nothing, and
says that there is no such record. -/
theorem exec_update_disowned (hs : Valid c.store) (h : m.Makes id.toText u c e)
    (howned : m.owns e = false) :
  ∃ t, (m.update Card id u).exec c
      = (.error (.notFound (.record id.toText m.collection)), { c with store := t })
    ∧ Puts m.collection e c.store t
  := by
  obtain ⟨changed, t, hvalid, hputs, hl, hupdate⟩ := exists_exec_simpleUpdate hs h
  let c' : Context EmbeddedStore := { c with store := t }
  have hfind : (m.find Card id.toText).exec c' = (.ok none, c') :=
    exec_find_disowned (c := c') hvalid hl howned
  have haudit : (m.auditById Card id.toText (some (m.auditKey .update))).exec c' = (.ok false, c') :=
    exec_auditById_disowned (c := c') hvalid hl howned
  exact ⟨t, exec_update_matched (hupdate _ _ _ haudit) Nat.one_ne_zero hfind, hputs⟩

/-- An update that makes a record of the working client does not say that there is none. -/
theorem exec_update_owned (hs : Valid c.store) (h : m.Makes id.toText u c e)
    (howned : m.owns e = true) (what : Missing) :
  ((m.update Card id u).exec c).1 ≠ .error (.notFound what)
  := by
  obtain ⟨changed, t, hvalid, -, hl, hupdate⟩ := exists_exec_simpleUpdate hs h
  let c' : Context EmbeddedStore := { c with store := t }
  by_cases hkey : m.isAudited (some (m.auditKey .update)) = true
  · rcases exec_auditById_owned (c := c') hvalid hl howned hkey
      with ⟨_, card, _, -, -, -, haudit, hfind⟩ | ⟨err, c'', haudit, hne⟩
    · rw [exec_update_matched (hupdate _ _ _ haudit) Nat.one_ne_zero hfind]
      intro heq
      cases heq
    · rw [update, ManagerM.exec_bind_error (hupdate _ _ _ haudit)]
      exact fun heq => hne what (Except.error.inj heq)
  · have haudit : (m.auditById Card id.toText (some (m.auditKey .update))).exec c'
        = (.ok false, c') := by
      rw [auditById, if_neg hkey]
      rfl
    have hfind := exec_find_found (α := Card) (c := c') hvalid hl howned
    rw [exec_update_matched (hupdate _ _ _ haudit) Nat.one_ne_zero hfind]
    cases hread : (Record.ofDocument e : Except Error Card) with
    | ok card =>
        intro heq
        cases heq
    | error err =>
        rw [Card.eq_undecodable_of_ofDocument hread]
        intro heq
        cases heq

/-- An update says that there is no record in two cases: there is none with the id, or the one
that it stores is not the working client's. -/
theorem exec_update_notFound_cases (hs : Valid c.store) {what : Missing}
    (h : (m.update Card id u).exec c = (.error (.notFound what), c')) :
  what = .record id.toText m.collection
    ∧ (lookup? c.store m.collection id.toText = none ∧ c' = c
      ∨ ∃ e, m.Makes id.toText u c e ∧ m.owns e = false ∧ Puts m.collection e c.store c'.store)
  := by
  rcases exec_simpleUpdate_cases (m := m) hs id.toText u
    with ⟨hl, hupdate⟩ | ⟨e, hmakes⟩ | ⟨why, hupdate⟩
  · rw [exec_update_unmatched (hupdate _) rfl] at h
    cases h
    exact ⟨rfl, Or.inl ⟨hl, rfl⟩⟩
  · cases howned : m.owns e with
    | true => exact absurd (congrArg Prod.fst h) (exec_update_owned hs hmakes howned what)
    | false =>
        obtain ⟨t, ht, hputs⟩ := exec_update_disowned hs hmakes howned
        rw [ht] at h
        cases h
        exact ⟨rfl, Or.inr ⟨e, hmakes, howned, hputs⟩⟩
  · obtain ⟨_, hrefused⟩ := hupdate (some (m.auditKey .update))
    rw [update, ManagerM.exec_bind_error hrefused] at h
    cases h

/-- An audited update that has matched a record adds the snapshot of what it has stored to the
trail, unless that is not the working client's. -/
theorem exec_simpleUpdate_audited (hs : Valid c.store) {result : UpdateResult}
    (h : (m.simpleUpdate Card name u key).exec c = (.ok result, c')) (hmatched : result.matched = 1)
    (hkey : m.isAudited key = true) :
  ∃ e t, m.Makes name u c e ∧ Puts m.collection e c.store t
    ∧ (m.owns e = false → c'.store = t)
    ∧ (m.owns e = true → ∃ id card, ObjectId.read? name = some id
      ∧ (m.find Card name).exec c' = (.ok (some card), c')
      ∧ AuditContainer.restore Card (card.document id).toValue = .ok card
      ∧ (Recording.ofDocument m.auditCollection (card.document id) m.cap).Adds t c'.store)
  := by
  rcases exec_simpleUpdate_cases (m := m) hs name u
    with ⟨-, hupdate⟩ | ⟨e, hmakes⟩ | ⟨why, hupdate⟩
  · rw [hupdate] at h
    cases h
    cases hmatched
  · obtain ⟨changed, t, hvalid, hputs, hl, hupdate⟩ := exists_exec_simpleUpdate hs hmakes
    refine ⟨e, t, hmakes, hputs, fun howned => ?_, fun howned => ?_⟩
    · have haudit : (m.auditById Card name key).exec { c with store := t }
          = (.ok false, { c with store := t }) :=
        exec_auditById_disowned hvalid hl howned
      rw [hupdate _ _ _ haudit] at h
      cases h
      rfl
    · rcases exec_auditById_owned (c := { c with store := t }) hvalid hl howned hkey
        with ⟨id, card, t', hname, hrestore, hadds, haudit, hfind⟩ | ⟨err, c'', haudit, -⟩
      · rw [hupdate _ _ _ haudit] at h
        cases h
        exact ⟨id, card, hname, hfind, hrestore, hadds⟩
      · rw [hupdate _ _ _ haudit] at h
        cases h
  · obtain ⟨_, hrefused⟩ := hupdate key
    rw [hrefused] at h
    cases h

end Auditing

/-- A document with the name of a client as its owner is exactly this client's. -/
theorem owns_eq_of_at? {m : Manager} {client owner : String} {d : Document}
    (hkind : m.kind = .typed) (hclient : m.settings.workingClientId = some client)
    (hblank : Text.isBlank client = false) (howner : d.at? "ClientId" = some (.string owner)) :
  m.owns d = (owner == client)
  := by
  have hnonBlank : SearchRequest.nonBlank client = some client := by
    rw [SearchRequest.nonBlank, hblank]
    rfl
  rw [owns, Search.isOwned, hclient, Option.bind_some, hnonBlank, hkind,
    SearchRequest.holds_clientPredicate_of_at? howner]

/-- An update of cards says that there is no record if there is none with the id, and then changes
nothing, or if the record that it has stored by then is not the working client's, and in no
other case.  An audited update that has matched a record adds one snapshot to the trail of its
id, from which the card is restored that is found afterwards; unless the record that it has
stored is not the working client's: then it does nothing more.  Without a working client every
record counts as the client's. -/
theorem exec_update_by_owner (l : Location) (m : Manager) {c : Context EmbeddedStore}
    (hc : Reaches l.emptyStore c.store) :
  (∀ id u,
      ((∃ what c', (m.update Card id u).exec c = (.error (.notFound what), c'))
        ↔ lookup? c.store m.collection id.toText = none
          ∨ ∃ e, m.Makes id.toText u c e ∧ m.owns e = false)
      ∧ ∀ what c', (m.update Card id u).exec c = (.error (.notFound what), c') →
          what = .record id.toText m.collection
          ∧ (lookup? c.store m.collection id.toText = none ∧ c' = c
            ∨ ∃ e, m.Makes id.toText u c e ∧ m.owns e = false
              ∧ Puts m.collection e c.store c'.store))
    ∧ (∀ name u key result c',
        (m.simpleUpdate Card name u key).exec c = (.ok result, c') → result.matched = 1 →
        m.isAudited key = true →
        ∃ e t, m.Makes name u c e ∧ Puts m.collection e c.store t
          ∧ (m.owns e = false → c'.store = t)
          ∧ (m.owns e = true → ∃ id card, ObjectId.read? name = some id
            ∧ (m.find Card name).exec c' = (.ok (some card), c')
            ∧ AuditContainer.restore Card (card.document id).toValue = .ok card
            ∧ (Recording.ofDocument m.auditCollection (card.document id) m.cap).Adds t c'.store))
    ∧ (m.settings.workingClientId = none → ∀ d, m.owns d = true)
  := by
  have hs : Valid c.store := hc.valid l.valid_emptyStore
  refine ⟨fun id u => ⟨⟨?_, ?_⟩, fun what c' => exec_update_notFound_cases hs⟩,
    fun name u key result c' => exec_simpleUpdate_audited hs, owns_of_no_client⟩
  · rintro ⟨what, c', h⟩
    obtain ⟨-, ⟨hl, -⟩ | ⟨e, hmakes, howned, -⟩⟩ := exec_update_notFound_cases hs h
    · exact Or.inl hl
    · exact Or.inr ⟨e, hmakes, howned⟩
  · rintro (hl | ⟨e, hmakes, howned⟩)
    · have hmissing : (m.simpleUpdate Card id.toText u (some (m.auditKey .update))).exec c
          = (.ok .unmatched, c) :=
        exec_simpleUpdate_unmatched (exec_update_missing hs hl _)
      exact ⟨_, _, exec_update_unmatched hmissing rfl⟩
    · obtain ⟨t, ht, -⟩ := exec_update_disowned hs hmakes howned
      exact ⟨_, _, ht⟩

/-- The card of one client after its name is set and it is stamped. -/
def renamedDocument (id : ObjectId) (now : Instant) : Document :=
  ⟨id.toText, [("Archived", .bool false), ("ClientId", .string "globex"), ("Deleted", .bool false),
    ("Name", .string "b"), ("UpdatedBy", .string "system"), ("UpdatedDate", .string now.toText)]⟩

theorem run_stampedUpdate_rename (id : ObjectId) (now : Instant) :
  ((ofCards "acme").stampedUpdate [.set "Name" (.string "b")] now).run
      (Card.documentWithClient id (.string "globex"))
    = (renamedDocument id now, .ok true)
  := by
  have hupdate : (ofCards "acme").stampedUpdate [.set "Name" (.string "b")] now
      = [.set "Name" (.string "b"), .set "UpdatedDate" (.string now.toText),
        .set "UpdatedBy" (.string "system")] := by
    have hdate : SchemaKind.typed.normalize updatedDateField = "UpdatedDate" := by decide +kernel
    have hby : SchemaKind.typed.normalize updatedByField = "UpdatedBy" := by decide +kernel
    change _ ++ [UpdateOp.set (SchemaKind.typed.normalize updatedDateField) _,
      UpdateOp.set (SchemaKind.typed.normalize updatedByField) _] = _
    rw [hdate, hby]
    rfl
  rw [hupdate, renamedDocument]
  generalize now.toText = text
  rfl

/-- A card of one client is the only document in a store, and another client updates its name. -/
theorem exists_makes_disowned (l : Location) :
  ∃ (c : Context EmbeddedStore) (id : ObjectId),
    Reaches l.emptyStore c.store
    ∧ lookup? c.store "cards" id.toText = some (Card.documentWithClient id (.string "globex"))
    ∧ lookup? c.store "cardsAudit" id.toText = none
    ∧ (ofCards "acme").Makes id.toText [.set "Name" (.string "b")] c (renamedDocument id c.now)
    ∧ (ofCards "acme").owns (renamedDocument id c.now) = false
  := by
  let id : ObjectId := ⟨List.replicate 12 0, rfl⟩
  let d := Card.documentWithClient id (.string "globex")
  have hempty : ∀ name i, lookup? l.emptyStore name i = none := by
    intro name i
    rw [lookup?, l.documents_emptyStore]
    rfl
  have haccepts : Accepts EmbeddedStore "cards" := (rfl : SortedStore.isReserved "cards" = false)
  obtain ⟨s, hinsert, -, hputs⟩ :=
    exec_insert_missing (d := d) l.valid_emptyStore haccepts (hempty _ _)
  have hreach := Reaches.command (.insert "cards" d) (Reaches.start (s := l.emptyStore))
  rw [hinsert] at hreach
  let c : Context EmbeddedStore := ⟨s, ⟨List.replicate 5 0, rfl, 0⟩, default⟩
  have hl : lookup? c.store "cards" id.toText = some d := hputs.lookup?_self
  have htrail : lookup? c.store "cardsAudit" id.toText = none := by
    rw [hputs.lookup?_of_ne (fun h => absurd h.1 (by decide)), hempty]
  have howner : (renamedDocument id c.now).at? "ClientId" = some (.string "globex") := by
    rw [Document.at?_eq_get? (by decide) (by decide)]
    rfl
  refine ⟨c, id, hreach, hl, htrail, ⟨d, true, hl, run_stampedUpdate_rename id c.now⟩, ?_⟩
  rw [owns_eq_of_at? rfl rfl (by decide) howner]
  decide

/-- One client updates a card of another one and is told that there is none; a manager without a
client is never told so of this card. -/
theorem exec_update_by_owner_acme :
  ∃ (c : Context EmbeddedStore) (id : ObjectId),
    Reaches (Location.memory "db").emptyStore c.store
    ∧ (∃ what c', ((ofCards "acme").update Card id [.set "Name" (.string "b")]).exec c
        = (.error (.notFound what), c'))
    ∧ ∀ u what c', ((Manager.make Card {} (.ofCollection "cards")).update Card id u).exec c
        ≠ (.error (.notFound what), c')
  := by
  obtain ⟨c, id, hreach, hl, -, hmakes, howned⟩ := exists_makes_disowned (.memory "db")
  obtain ⟨hacme, -⟩ := exec_update_by_owner (.memory "db") (ofCards "acme") hreach
  obtain ⟨hall, -, howns⟩ :=
    exec_update_by_owner (.memory "db") (.make Card {} (.ofCollection "cards")) hreach
  refine ⟨c, id, hreach, (hacme id _).1.mpr (Or.inr ⟨_, hmakes, howned⟩), fun u what c' h => ?_⟩
  rcases (hall id u).1.mp ⟨what, c', h⟩ with hnone | ⟨e, -, hdisowned⟩
  · exact nomatch hl.symm.trans hnone
  · rw [howns rfl e] at hdisowned
    cases hdisowned

/-- An update that says that there is no record can have changed one, and an audited update that
has matched a record can have left no trail. -/
theorem exec_update_foreign :
  ∃ (c : Context EmbeddedStore) (id : ObjectId) (u : Update),
    Reaches (Location.memory "db").emptyStore c.store
    ∧ lookup? c.store "cards" id.toText ≠ none
    ∧ (∃ what c', ((ofCards "acme").update Card id u).exec c = (.error (.notFound what), c')
      ∧ lookup? c'.store "cards" id.toText ≠ lookup? c.store "cards" id.toText)
    ∧ ∃ key result c', ((ofCards "acme").simpleUpdate Card id.toText u key).exec c
        = (.ok result, c')
      ∧ result.matched = 1 ∧ (ofCards "acme").isAudited key = true
      ∧ lookup? c'.store "cardsAudit" id.toText = none
  := by
  obtain ⟨c, id, hreach, hl, htrail, hmakes, howned⟩ := exists_makes_disowned (.memory "db")
  have hs : Valid c.store := hreach.valid (Location.valid_emptyStore _)
  refine ⟨c, id, [.set "Name" (.string "b")], hreach, ?_, ?_, ?_⟩
  · rw [hl]
    apply Option.some_ne_none
  · obtain ⟨t, ht, hputs⟩ := exec_update_disowned hs hmakes howned
    refine ⟨_, _, ht, fun hsame => ?_⟩
    have hput : lookup? t "cards" id.toText = some (renamedDocument id c.now) := hputs.lookup?_self
    rw [hput, hl] at hsame
    have hlength := congrArg (fun d => d.fields.length) (Option.some.inj hsame)
    cases hlength
  · obtain ⟨changed, t, hvalid, hputs, hfound, hupdate⟩ := exists_exec_simpleUpdate hs hmakes
    have haudit : ((ofCards "acme").auditById Card id.toText none).exec { c with store := t }
        = (.ok false, { c with store := t }) :=
      exec_auditById_disowned hvalid hfound howned
    refine ⟨none, _, _, hupdate _ _ _ haudit, rfl, rfl, ?_⟩
    rw [← htrail]
    apply hputs.lookup?_of_ne
    exact fun h => absurd h.1 (by decide)

end Manager

end AuditedStore
