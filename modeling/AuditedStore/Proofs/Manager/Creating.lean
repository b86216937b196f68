import AuditedStore.Proofs.Manager.Updating
import AuditedStore.Proofs.ObjectId.Generation

/-!
# Creating cards

A card that is created is stored under an id of its own, and is found by it from then on.  The
fields of its document are always named strictly, but a repository can make its managers name
them loosely in searches; then a search asks for the flags of cards under names that no card
has, and finds nothing unless it ignores the flags.
-/

namespace AuditedStore

open LawfulStore

/-! ### The flags of stored cards -/

namespace Card

variable {card : Card} {id : ObjectId} {d : Document}

/-- A document stores a card: it is the document of the card, in which there may be a trail. -/
inductive IsStoredIn (card : Card) (id : ObjectId) : Document → Prop where
  | plain : IsStoredIn card id (card.document id)
  | withTrail (v : Value) : IsStoredIn card id ((card.document id).set auditItemsField v)

/-- A card that is stored is read, with the instants that its dates show. -/
theorem IsStoredIn.ofDocument (h : card.IsStoredIn id d) (hid : card.base.id = some id)
    (hdates : card.base.HasValidDates) :
  Record.ofDocument d = .ok card.settled
  := by
  cases h with
  | plain => exact ofDocument_document hid hdates
  | withTrail v =>
      rw [ofDocument_set (by decide) (by decide)]
      exact ofDocument_document hid hdates

/-- The fields of a document that stores a card are the members of the card. -/
theorem IsStoredIn.at?_eq (h : card.IsStoredIn id d) {path : String}
    (hpath : pathNames path = [path]) (hne : path ≠ idField ∧ path ≠ recordIdField)
    (htrail : path ≠ auditItemsField) :
  d.at? path = (Assoc.get? path card.members).map Value.ofTree
  := by
  have hdocument : (card.document id).at? path = (Assoc.get? path card.members).map Value.ofTree := by
    rw [Document.at?_eq_get? hne.1 hpath, get?_document hne.2]
  cases h with
  | plain => exact hdocument
  | withTrail v =>
      rw [Document.at?_set_of_ne hpath htrail]
      exact hdocument

/-- The flags of a stored card are found where fields are named strictly, and nowhere else. -/
theorem IsStoredIn.hasFlags (h : card.IsStoredIn id d) {r : SearchRequest} (kind : SchemaKind)
    (hdeleted : r.deleted = card.base.deleted) (harchived : r.archived = card.base.archived) :
  r.hasFlags kind d = (kind == .typed || r.ignoreDeleted && r.ignoreArchived)
  := by
  obtain ⟨-, hdeletedMember, harchivedMember, -⟩ := card.base.get?_toMembers
  cases kind with
  | typed =>
      have hdeletedField : d.at? "Deleted" = some (.bool r.deleted) := by
        rw [h.at?_eq (by decide) (by decide) (by decide), card.get?_members _ (by decide),
          hdeletedMember, hdeleted, Option.map_some, Value.ofTree]
      have harchivedField : d.at? "Archived" = some (.bool r.archived) := by
        rw [h.at?_eq (by decide) (by decide) (by decide), card.get?_members _ (by decide),
          harchivedMember, harchived, Option.map_some, Value.ofTree]
      obtain ⟨hdeletedName, harchivedName, -⟩ := SearchRequest.normalize_typed
      rw [SearchRequest.hasFlags, hdeletedName, harchivedName,
        SearchRequest.holds_flagPredicate_of_at? hdeletedField,
        SearchRequest.holds_flagPredicate_of_at? harchivedField]
      rfl
  | dynamic =>
      have hnames : SchemaKind.dynamic.normalize deletedField = "deleted"
          ∧ SchemaKind.dynamic.normalize archivedField = "archived" := by decide +kernel
      have hmissing : d.at? "deleted" = none ∧ d.at? "archived" = none := by
        constructor
        · rw [h.at?_eq (by decide) (by decide) (by decide), card.get?_members_eq_none (by decide)]
          rfl
        · rw [h.at?_eq (by decide) (by decide) (by decide), card.get?_members_eq_none (by decide)]
          rfl
      rw [SearchRequest.hasFlags, hnames.1, hnames.2,
        SearchRequest.holds_flagPredicate_of_missing hmissing.1,
        SearchRequest.holds_flagPredicate_of_missing hmissing.2]
      rfl

end Card

namespace Manager

variable {m : Manager}

/-- Saving a record that the store refuses fails. -/
theorem exec_save_error {σ : Type} [DocumentStore σ] {α : Type} [Entity α] {c c' : Context σ}
    {item stamped : α} {isNew : Bool} {d : Document} {e : Error} {t : σ}
    (hstamp : (m.stamp item).exec c = (.ok (stamped, isNew), c'))
    (hdoc : Record.toDocument stamped = .ok d)
    (hreplace : DocumentStore.exec (.replace m.collection (.hasId d.id) d true) c'.store
      = (.error e, t)) :
  (m.save item).exec c = (.error e, { c' with store := t })
  := by
  have hencoded : (liftM (Record.toDocument stamped) : ManagerM σ Document).exec c' = (.ok d, c') := by
    rw [ManagerM.exec_lift, hdoc]
  rw [save, ManagerM.exec_bind_ok hstamp]
  dsimp only
  rw [ManagerM.exec_bind_ok hencoded]
  exact ManagerM.exec_bind_error (ManagerM.exec_onStore hreplace)

/-- The card that is saved to create another one: it has an id, and counts as new. -/
def renewed (item : Card) (id : ObjectId) : Card :=
  { item with base := { item.base with id := some id, createdDate := none } }

/-- The card that is created of another one: it gets an id and is stamped as new. -/
def created (m : Manager) (item : Card) (id : ObjectId) (now : Instant) : Card :=
  { item with base := { item.base with
      id := some id
      createdBy := some m.settings.auditUser, createdDate := some now
      updatedBy := some m.settings.auditUser, updatedDate := some now } }

variable {c : Context EmbeddedStore} {item : Card} {id : ObjectId} {g : ObjectId.Generator}
  {t : EmbeddedStore}

/-- To create a card is to save it as a new one under a fresh id. -/
theorem exec_create_eq (hfresh : c.generator.next c.now = (id, g)) :
  (m.create item).exec c = (m.save (renewed item id)).exec { c with generator := g }
  := by
  have hid : ManagerM.freshId.exec c = (.ok id, { c with generator := g }) := by
    rw [ManagerM.exec, ManagerM.freshId, hfresh]
  apply ManagerM.exec_bind_ok hid

theorem exec_stamp_renewed (m : Manager) (item : Card) (id : ObjectId)
    (c : Context EmbeddedStore) :
  (m.stamp (renewed item id)).exec c = (.ok (m.created item id c.now, true), c)
  := rfl

/-- Creating a card stores it under a fresh id, and then may record it. -/
theorem exec_create_stored {answer : UpdateResult} (hfresh : c.generator.next c.now = (id, g))
    (hreplace : DocumentStore.exec (.replace m.collection (.hasId id.toText)
        ((m.created item id c.now).document id) true) c.store = (.ok answer, t)) :
  (m.create item).exec c
    = ManagerM.exec
        (if m.isAudited (some (m.auditKey .save)) && m.settings.auditNewItems then do
          m.record (m.created item id c.now)
          pure (m.created item id c.now)
        else pure (m.created item id c.now))
        ⟨t, g, c.now⟩
  := by
  have hstamp := exec_stamp_renewed m item id { c with generator := g }
  rw [exec_create_eq hfresh]
  apply exec_save hstamp (Card.toDocument_eq rfl) hreplace

/-- Creating a card that the store refuses fails. -/
theorem exec_create_error {e : Error} (hfresh : c.generator.next c.now = (id, g))
    (hreplace : DocumentStore.exec (.replace m.collection (.hasId id.toText)
        ((m.created item id c.now).document id) true) c.store = (.error e, t)) :
  (m.create item).exec c = (.error e, ⟨t, g, c.now⟩)
  := by
  have hstamp := exec_stamp_renewed m item id { c with generator := g }
  rw [exec_create_eq hfresh]
  apply exec_save_error hstamp (Card.toDocument_eq rfl) hreplace

/-- Creating a card changes nothing under other ids than the fresh one, whether it succeeds or
not; if it succeeds, the card that it gives is stored. -/
theorem exec_create_cases (hs : Valid c.store) (item : Card)
    (hfresh : c.generator.next c.now = (id, g)) :
  ∃ answer t, (m.create item).exec c = (answer, ⟨t, g, c.now⟩)
    ∧ Valid t
    ∧ (∀ name i, i ≠ id.toText → lookup? t name i = lookup? c.store name i)
    ∧ ∀ card, answer = .ok card →
        card = m.created item id c.now
        ∧ ∃ d, lookup? t m.collection id.toText = some d ∧ card.IsStoredIn id d
  := by
  let card := m.created item id c.now
  rcases EmbeddedStore.exec_upsert_cases hs m.collection (card.document id)
    with ⟨answer, t, hreplace, hvalid, hputs⟩ | ⟨hrefused, -⟩
  · have hothers : ∀ name i, i ≠ id.toText → lookup? t name i = lookup? c.store name i :=
      fun name i hi => hputs.lookup?_of_ne fun h => hi h.2
    have hstored : lookup? t m.collection id.toText = some (card.document id) := hputs.lookup?_self
    have hcreate := exec_create_stored hfresh hreplace
    split at hcreate
    · have hid : card.base.id = some id := rfl
      rcases exec_record_cases (m := m) (c := ⟨t, g, c.now⟩) hvalid hid
        with ⟨t', hrecord, hvalid', hadds⟩ | ⟨why, t', hrecord, hvalid', hsame⟩
      · rw [ManagerM.exec_bind_ok hrecord] at hcreate
        refine ⟨_, _, hcreate, hvalid', fun name i hi => ?_, ?_⟩
        · rw [hadds.lookup?_of_ne hi, hothers name i hi]
        · rintro created ⟨⟩
          obtain ⟨d, hd, rfl | ⟨v, rfl⟩⟩ := hadds.exists_lookup? hstored
          · exact ⟨rfl, _, hd, .plain⟩
          · exact ⟨rfl, _, hd, .withTrail v⟩
      · rw [ManagerM.exec_bind_error hrecord] at hcreate
        refine ⟨_, _, hcreate, hvalid', fun name i hi => ?_, ?_⟩
        · rw [hsame, hothers name i hi]
        · rintro created ⟨⟩
    · refine ⟨_, _, hcreate, hvalid, hothers, ?_⟩
      rintro created ⟨⟩
      exact ⟨rfl, _, hstored, .plain⟩
  · refine ⟨_, _, exec_create_error hfresh hrefused, hs, fun name i _ => rfl, ?_⟩
    rintro created ⟨⟩

/-- Where both collections can be written and the fresh id has no trail yet, creating a card
succeeds. -/
theorem exists_exec_create (hs : Valid c.store) (hm : m.IsSeparate (Accepts EmbeddedStore))
    (item : Card) (hfresh : c.generator.next c.now = (id, g))
    (hfree : lookup? c.store m.auditCollection id.toText = none) :
  ∃ c', (m.create item).exec c = (.ok (m.created item id c.now), c')
  := by
  let card := m.created item id c.now
  obtain ⟨answer, t, hreplace, hvalid, hputs⟩ :=
    exec_upsert_hasId hs hm.accepts (card.document id)
  have hcreate := exec_create_stored hfresh hreplace
  have hl : lookup? t m.auditCollection id.toText = none := by
    rw [hputs.lookup?_of_ne fun h => hm.collection_ne h.1.symm]
    exact hfree
  split at hcreate
  · have hdocument : Record.toDocument card = .ok (card.document id) := Card.toDocument_eq rfl
    have hcontainer : lookup? t m.auditCollection (card.document id).id
        = AuditContainer.stored? id.toText [] := hl
    obtain ⟨t', hrecord, -⟩ :=
      exec_record (c := ⟨t, g, c.now⟩) hvalid hm.accepts_audit hdocument hcontainer
    rw [ManagerM.exec_bind_ok hrecord] at hcreate
    exact ⟨_, hcreate⟩
  · exact ⟨_, hcreate⟩

/-! ### Creating in turn -/

/-- Creates cards in turn, each at an instant, whether that succeeds or not. -/
def createAll (m : Manager) :
    List (Instant × Card) → Context EmbeddedStore → Context EmbeddedStore
  | [], c => c
  | (now, item) :: items, c => m.createAll items ((m.create item).exec { c with now := now }).2

/-- Creating cards changes nothing under other ids than those that are made for them. -/
theorem createAll_frame (hs : Valid c.store) (items : List (Instant × Card)) :
  Valid (m.createAll items c).store
    ∧ ∀ id : ObjectId, id ∉ c.generator.ids (items.map Prod.fst) → ∀ name,
      lookup? (m.createAll items c).store name id.toText = lookup? c.store name id.toText
  := by
  induction items generalizing c with
  | nil => exact ⟨hs, fun _ _ _ => rfl⟩
  | cons w items ih =>
      obtain ⟨now, item⟩ := w
      rcases hfresh : c.generator.next now with ⟨fresh, g⟩
      obtain ⟨answer, t, hcreate, hvalid, hothers, -⟩ :=
        exec_create_cases (m := m) (c := { c with now := now }) hs item hfresh
      obtain ⟨hrest, hsame⟩ := ih (c := ⟨t, g, now⟩) hvalid
      rw [createAll, hcreate, List.map_cons, ObjectId.Generator.ids, hfresh]
      refine ⟨hrest, fun id hid name => ?_⟩
      obtain ⟨hne, hid⟩ := not_or.mp (mt List.mem_cons.mpr hid)
      rw [hsame id hid name]
      apply hothers
      exact fun h => hne (ObjectId.toText_injective h)

/-! ### Finding what was created -/

/-- A card is stored under its id, and is read from there as it is. -/
structure Keeps (m : Manager) (card : Card) (id : ObjectId) (s : EmbeddedStore) : Prop where
  valid : Valid s
  stored : ∃ d, lookup? s m.collection id.toText = some d ∧ card.IsStoredIn id d
  has_id : card.base.id = some id
  dates : card.base.HasValidDates
  settled : card.settled = card

namespace Keeps

variable {card : Card} {id : ObjectId}

/-- A card that is created by the clock is kept. -/
theorem of_create {item : Card} {c' : Context EmbeddedStore} (hs : Valid c.store)
    (hnow : c.now.IsValid) (hnanos : c.now.nanos < Instant.nanosPerSecond)
    (hcreate : (m.create item).exec c = (.ok card, c')) :
  ∃ id, card = m.created item id c.now ∧ m.Keeps card id c'.store
  := by
  rcases hfresh : c.generator.next c.now with ⟨id, g⟩
  obtain ⟨answer, t, hexec, ht, -, hanswer⟩ := exec_create_cases (m := m) hs item hfresh
  rw [hexec] at hcreate
  cases hcreate
  obtain ⟨rfl, hstored⟩ := hanswer card rfl
  refine ⟨id, rfl, ht, hstored, rfl, ⟨?_, ?_⟩, ?_⟩
  · rintro _ ⟨⟩
    exact hnow
  · rintro _ ⟨⟩
    exact hnow
  · simp only [Card.settled, BaseFields.settled, created, Option.map_some,
      Instant.settled_eq_self hnanos]

/-- A card is kept as long as no id that is made is its own. -/
theorem createAll (h : m.Keeps card id c.store) {later : List (Instant × Card)}
    (hlater : id ∉ c.generator.ids (later.map Prod.fst)) :
  m.Keeps card id (m.createAll later c).store
  := by
  obtain ⟨hvalid, hsame⟩ := createAll_frame (m := m) h.valid later
  obtain ⟨d, hd, hstored⟩ := h.stored
  refine ⟨hvalid, ⟨d, ?_, hstored⟩, h.has_id, h.dates, h.settled⟩
  rw [hsame id hlater, hd]

/-- A card that is kept is read from the document under its id. -/
theorem exists_lookup? (h : m.Keeps card id c.store) :
  ∃ d, lookup? c.store m.collection id.toText = some d ∧ card.IsStoredIn id d
    ∧ Record.ofDocument d = .ok card
  := by
  obtain ⟨d, hd, hstored⟩ := h.stored
  refine ⟨d, hd, hstored, ?_⟩
  rw [hstored.ofDocument h.has_id h.dates, h.settled]

/-- A card that is kept is found by its id. -/
theorem exec_find (h : m.Keeps card id c.store) (hclient : m.settings.workingClientId = none) :
  (m.find Card id.toText).exec c = (.ok (some card), c)
  := by
  obtain ⟨d, hd, -, hread⟩ := h.exists_lookup?
  rw [exec_find_found h.valid hd (owns_of_no_client hclient d), hread]
  rfl

/-- A search for the id and the flags of a card that is kept finds the card alone, if fields are
named strictly or the flags do not count, and otherwise nothing. -/
theorem exec_search (h : m.Keeps card id c.store) (hclient : m.settings.workingClientId = none)
    {r : SearchRequest} (hdeleted : r.deleted = card.base.deleted)
    (harchived : r.archived = card.base.archived) (hfilter : r.filter = some ("_id:" ++ id.toText))
    (hterm : r.term = none) (howner : r.clientId = none) (hstart : r.startAt = 0)
    (hpage : 0 < r.pageSize) :
  ∃ found, (m.search Card r).exec c = (.ok found, c)
    ∧ found.totalCount = found.results.length
    ∧ found.results =
      if m.kind = .dynamic ∧ ¬ (r.ignoreDeleted ∧ r.ignoreArchived) then [] else [card]
  := by
  obtain ⟨d, hd, hstored, hread⟩ := h.exists_lookup?
  have hscope : m.forClient r = r := by rw [forClient, hclient, Option.or_none]
  obtain ⟨found, hrun, hresults, hcount⟩ := Search.exec_run_id (α := Card) m.kind h.valid hd hread
    hterm howner hfilter hstart hpage
  refine ⟨found, ?_, hcount, ?_⟩
  · rw [search, hscope]
    exact ManagerM.exec_onStore hrun
  · rw [hresults, hstored.hasFlags m.kind hdeleted harchived]
    cases m.kind with
    | typed => rfl
    | dynamic => cases r.ignoreDeleted <;> cases r.ignoreArchived <;> rfl

end Keeps

/-- The manager of cards in a repository with a naming of fields. -/
def ofNaming (naming : Option SchemaKind) : Manager :=
  .make Card { fieldNaming := naming } (.ofCollection "cards")

/-- Cards and their trails can be kept in collections with names of their own. -/
theorem isSeparate_of_cards (hcards : m.collection = "cards" ∧ m.auditCollection = "cardsAudit")
    (hclient : m.settings.workingClientId = none) :
  m.IsSeparate (Accepts EmbeddedStore)
  := by
  constructor
  · rw [hcards.1, hcards.2]
    decide
  · rw [hcards.1]
    exact (rfl : SortedStore.isReserved "cards" = false)
  · rw [hcards.2]
    exact (rfl : SortedStore.isReserved "cardsAudit" = false)
  · exact hclient

/-- Over an empty store in memory, creating a card succeeds. -/
theorem exists_exec_create_empty (hm : m.IsSeparate (Accepts EmbeddedStore)) (item : Card)
    (now : Instant) :
  ∃ card c', (m.create item).exec
      ⟨(Location.memory "db").emptyStore, ⟨List.replicate 5 0, rfl, 0⟩, now⟩ = (.ok card, c')
    ∧ card.base.deleted = item.base.deleted ∧ card.base.archived = item.base.archived
  := by
  have hvalid : Valid (Location.memory "db").emptyStore := Location.valid_emptyStore _
  have hfree : ∀ name i, lookup? (Location.memory "db").emptyStore name i = none := by
    intro name i
    rw [lookup?, Location.documents_emptyStore]
    rfl
  obtain ⟨c', hcreate⟩ := exists_exec_create
    (c := ⟨(Location.memory "db").emptyStore, ⟨List.replicate 5 0, rfl, 0⟩, now⟩)
    hvalid hm item rfl (hfree _ _)
  exact ⟨_, c', hcreate, rfl, rfl⟩

/-- A card that a manager without a client has created is found by its id at once, and as long as
no id that is made for another card is the same.  A search for its id and its flags finds
exactly the card; unless the repository makes searches name fields loosely: then they find
nothing, if they do not ignore both flags. -/
theorem exec_create_found (l : Location) (repository : RepositorySettings)
    {settings : ManagerSettings} (hclient : settings.workingClientId = none) {m : Manager}
    (hm : m = .make Card repository settings) (before : List (Instant × Card))
    (g : ObjectId.Generator) (start : Instant) {now : Instant} (hnow : now.IsValid)
    (hnanos : now.nanos < Instant.nanosPerSecond) {item card : Card} {c : Context EmbeddedStore}
    (hcreate : (m.create item).exec { m.createAll before ⟨l.emptyStore, g, start⟩ with now := now }
      = (.ok card, c)) :
  ∃ id, card.base.id = some id
    ∧ ∀ later : List (Instant × Card), id ∉ c.generator.ids (later.map Prod.fst) →
      (m.find Card id.toText).exec (m.createAll later c) = (.ok (some card), m.createAll later c)
      ∧ ∀ r : SearchRequest, r.deleted = card.base.deleted → r.archived = card.base.archived →
          r.filter = some ("_id:" ++ id.toText) → r.term = none → r.clientId = none →
          r.startAt = 0 → 0 < r.pageSize →
          ∃ found, (m.search Card r).exec (m.createAll later c) = (.ok found, m.createAll later c)
            ∧ found.totalCount = found.results.length
            ∧ found.results =
              if repository.fieldNaming = some .dynamic ∧ ¬ (r.ignoreDeleted ∧ r.ignoreArchived)
              then [] else [card]
  := by
  have hempty := (createAll_frame (m := m) (c := ⟨l.emptyStore, g, start⟩) l.valid_emptyStore before).1
  obtain ⟨id, -, hkeeps⟩ := Keeps.of_create
    (c := { m.createAll before ⟨l.emptyStore, g, start⟩ with now := now }) hempty hnow hnanos hcreate
  refine ⟨id, hkeeps.has_id, fun later hlater => ?_⟩
  have hnone : m.settings.workingClientId = none := by
    rw [hm]
    exact hclient
  have hkind : m.kind = .dynamic ↔ repository.fieldNaming = some .dynamic := by
    rw [hm]
    change repository.fieldNaming.getD .typed = .dynamic ↔ _
    cases repository.fieldNaming with
    | none => simp
    | some kind => simp
  have hlast := hkeeps.createAll hlater
  use hlast.exec_find hnone
  intro r hdeleted harchived hfilter hterm howner hstart hpage
  obtain ⟨found, hsearch, hcount, hresults⟩ :=
    hlast.exec_search hnone hdeleted harchived hfilter hterm howner hstart hpage
  simp only [hkind] at hresults
  exact ⟨found, hsearch, hcount, hresults⟩

/-- A deleted card is created where fields are named strictly, and is found and searched. -/
theorem exec_create_found_typed :
  let c : Context EmbeddedStore :=
    ⟨(Location.memory "db").emptyStore, ⟨List.replicate 5 0, rfl, 0⟩, ⟨0, 0⟩⟩
  ∃ (card : Card) (c' : Context EmbeddedStore) (id : ObjectId) (found : SearchResult Card),
    ((ofNaming (some .typed)).create (⟨{ deleted := true }, "Visa", 0⟩ : Card)).exec c
      = (.ok card, c')
    ∧ card.base.id = some id
    ∧ ((ofNaming (some .typed)).find Card id.toText).exec c' = (.ok (some card), c')
    ∧ ((ofNaming (some .typed)).search Card
        { deleted := true, filter := some ("_id:" ++ id.toText) }).exec c' = (.ok found, c')
    ∧ found.results = [card] ∧ found.totalCount = 1
  := by
  intro c
  obtain ⟨card, c', hcreate, hdeleted, harchived⟩ :=
    exists_exec_create_empty (m := ofNaming (some .typed)) (isSeparate_of_cards ⟨rfl, rfl⟩ rfl)
      ⟨{ deleted := true }, "Visa", 0⟩ ⟨0, 0⟩
  have hclient : (ManagerSettings.ofCollection "cards").workingClientId = none := rfl
  have hm : ofNaming (some .typed)
      = .make Card { fieldNaming := some .typed } (.ofCollection "cards") := rfl
  have hnow : (⟨0, 0⟩ : Instant).IsValid := ⟨by decide, by decide⟩
  obtain ⟨id, hid, hfound⟩ := exec_create_found (.memory "db") { fieldNaming := some .typed }
    hclient hm [] _ ⟨0, 0⟩ hnow (by decide) hcreate
  obtain ⟨hfind, hsearches⟩ := hfound [] List.not_mem_nil
  obtain ⟨found, hsearch, hcount, hresults⟩ :=
    hsearches { deleted := true, filter := some ("_id:" ++ id.toText) } hdeleted.symm
      harchived.symm rfl rfl rfl rfl (Nat.succ_pos 499)
  rw [if_neg (by simp)] at hresults
  rw [hresults] at hcount
  exact ⟨card, c', id, found, hcreate, hid, hfind, hsearch, hresults, hcount⟩

/-- Where a repository makes searches name fields loosely, a card that was created is not searched
by its id and its flags. -/
theorem exec_create_unsearched :
  let c : Context EmbeddedStore :=
    ⟨(Location.memory "db").emptyStore, ⟨List.replicate 5 0, rfl, 0⟩, ⟨0, 0⟩⟩
  ∃ (card : Card) (c' : Context EmbeddedStore) (id : ObjectId) (found : SearchResult Card),
    ((ofNaming (some .dynamic)).create (⟨{}, "Visa", 0⟩ : Card)).exec c = (.ok card, c')
    ∧ card.base.id = some id ∧ card.base.deleted = false ∧ card.base.archived = false
    ∧ ((ofNaming (some .dynamic)).search Card { filter := some ("_id:" ++ id.toText) }).exec c'
      = (.ok found, c')
    ∧ found.results = [] ∧ found.totalCount = 0
  := by
  intro c
  obtain ⟨card, c', hcreate, hdeleted, harchived⟩ :=
    exists_exec_create_empty (m := ofNaming (some .dynamic)) (isSeparate_of_cards ⟨rfl, rfl⟩ rfl)
      ⟨{}, "Visa", 0⟩ ⟨0, 0⟩
  have hvalid : Valid c.store := Location.valid_emptyStore (.memory "db")
  obtain ⟨id, -, hkeeps⟩ := Keeps.of_create hvalid ⟨by decide, by decide⟩ (by decide) hcreate
  obtain ⟨found, hsearch, hcount, hresults⟩ := hkeeps.exec_search rfl
    (r := { filter := some ("_id:" ++ id.toText) }) hdeleted.symm harchived.symm rfl rfl rfl rfl
    (Nat.succ_pos 499)
  rw [if_pos ⟨rfl, by simp⟩] at hresults
  rw [hresults] at hcount
  exact ⟨card, c', id, found, hcreate, hkeeps.has_id, hdeleted, harchived, hsearch, hresults, hcount⟩

end Manager

end AuditedStore
