import AuditedStore.Proofs.Manager.Programs
import AuditedStore.Proofs.Query.Compare
import AuditedStore.Proofs.Query.Conjunction
import AuditedStore.Proofs.Query.Selection
import AuditedStore.Proofs.Record.Card
import AuditedStore.Proofs.Store.Embedded
import AuditedStore.Proofs.Store.Scanning

/-!
# Searches of one owner

A search by a manager with a working client narrows every request to this owner.  The clauses
of a filter and the term are joined with that condition, so they can only narrow it further:
the cards that are found have the flags that the request asks for and belong to the owner.
The exception is an owner that is called by a name for nothing, such as `null`; he also finds
cards without an owner if their documents hold a null or an infinite number in its place.
-/

namespace AuditedStore

open Json (Tree)

/-! ### Documents of cards -/

/-- A path of one name leads to a field of the document itself. -/
theorem Document.at?_eq_get? {path : String} (hid : path ≠ idField)
    (hpath : pathNames path = [path]) (d : Document) :
  d.at? path = Assoc.get? path d.fields
  := by rw [at?, if_neg hid, fieldAt?, hpath, Fields.at?]

namespace Card

variable {d : Document} {card : Card}

/-- A field that a document has is the member that a card is read from. -/
theorem member?_eq_of_at? {α : Type} {name : String} (hid : name ≠ idField)
    (hrecord : name ≠ recordIdField) (hpath : pathNames name = [name]) {v : Value}
    (hv : d.at? name = some v) (absent : α) (read : Tree → Option α) :
  Tree.member? (Value.toMembers (Assoc.insert recordIdField (.string d.id) d.fields)) name absent
    read = read v.toTree
  := by
  rw [Document.at?_eq_get? hid hpath] at hv
  rw [Tree.member?, Value.toMembers_eq_mapValues, Assoc.get?_mapValues, Assoc.get?_insert,
    if_neg hrecord, hv]
  rfl

/-- A field that a document has not is absent where a card is read. -/
theorem member?_eq_of_at?_eq_none {α : Type} {name : String} (hid : name ≠ idField)
    (hrecord : name ≠ recordIdField) (hpath : pathNames name = [name]) (hv : d.at? name = none)
    (absent : α) (read : Tree → Option α) :
  Tree.member? (Value.toMembers (Assoc.insert recordIdField (.string d.id) d.fields)) name absent
    read = some absent
  := by
  rw [Document.at?_eq_get? hid hpath] at hv
  rw [Tree.member?, Value.toMembers_eq_mapValues, Assoc.get?_mapValues, Assoc.get?_insert,
    if_neg hrecord, hv]
  rfl

/-- The flags and the client of a card are read from the fields of its document. -/
theorem scope_of_ofDocument (h : Record.ofDocument d = .ok card) {v : Value} :
  (d.at? "Deleted" = some v → Tree.bool? v.toTree = some card.base.deleted)
    ∧ (d.at? "Archived" = some v → Tree.bool? v.toTree = some card.base.archived)
    ∧ (d.at? "ClientId" = some v →
      Tree.optional? Tree.string? v.toTree = some card.base.clientId)
  := by
  obtain ⟨-, hdeleted, harchived, hclient, -⟩ :=
    BaseFields.member?_of_ofMembers? (ofMembers?_of_ofDocument h)
  refine ⟨fun hv => ?_, fun hv => ?_, fun hv => ?_⟩
  · rw [← hdeleted, member?_eq_of_at? (by decide) (by decide) (by decide) hv]
  · rw [← harchived, member?_eq_of_at? (by decide) (by decide) (by decide) hv]
  · rw [← hclient, member?_eq_of_at? (by decide) (by decide) (by decide) hv]

end Card

/-! ### Conditions of requests -/

namespace SearchRequest

variable {r : SearchRequest} {d : Document} {card : Card}

theorem normalize_typed :
  SchemaKind.typed.normalize deletedField = "Deleted"
    ∧ SchemaKind.typed.normalize archivedField = "Archived"
    ∧ SchemaKind.typed.normalize clientIdField = "ClientId"
  := by decide +kernel

/-- A flag is as it is asked for, or does not count. -/
theorem holds_flagPredicate_of_at? {field : String} {ignored flag : Bool}
    (h : d.at? field = some (.bool flag)) :
  (flagPredicate ignored field flag).holds d = true
  := by
  rw [flagPredicate]
  split
  · rfl
  · rw [Predicate.holds, h]
    exact (Query.compares_eq_bool flag flag).trans (beq_self_eq_true flag)

/-- A flag that is missing is not as it is asked for, whatever is asked for. -/
theorem holds_flagPredicate_of_missing {field : String} {ignored flag : Bool}
    (h : d.at? field = none) :
  (flagPredicate ignored field flag).holds d = ignored
  := by
  cases ignored with
  | true => rfl
  | false => simp [flagPredicate, Predicate.holds, h, Value.isNull]

/-- The condition for a client compares its name with that of the owner. -/
theorem holds_clientPredicate_of_at? {owner client : String}
    (h : d.at? "ClientId" = some (.string owner)) :
  (clientPredicate .typed (some client)).holds d = (owner == client)
  := by
  rw [clientPredicate, normalize_typed.2.2, Predicate.holds, h]
  exact Query.compares_eq_string owner client

/-- A flag that is asked for is a field that equals it. -/
theorem exists_of_holds_flagPredicate {ignored : Bool} {field : String} {flag : Bool}
    (hignored : ignored = false) (h : (flagPredicate ignored field flag).holds d = true) :
  ∃ v, d.at? field = some v ∧ Query.compares .eq v (.bool flag) = true
  := by
  rw [flagPredicate, hignored] at h
  apply Predicate.exists_of_holds_equal rfl h

/-- A card whose document satisfies the condition for an owner belongs to the owner, or to nobody if
the owner is called by a name for nothing. -/
theorem owner_of_holds_clientPredicate {c : String}
    (h : (clientPredicate .typed (some c)).holds d = true) (hcard : Record.ofDocument d = .ok card) :
  card.base.clientId = some c ∨ card.base.clientId = none ∧ Query.NamesNothing c
  := by
  rw [clientPredicate, normalize_typed.2.2] at h
  obtain ⟨v, hv, htext⟩ := Predicate.exists_of_holds_equal rfl h
  apply Query.text_of_compares htext ((Card.scope_of_ofDocument hcard).2.2 hv)

/-- A card whose document satisfies a request of an owner has the flags that are asked for, and
belongs to the owner, or to nobody if the owner is called by a name for nothing. -/
theorem scope_of_holds {c : String} (hclient : r.clientId = some c) {p : Predicate}
    (hp : r.predicate .typed = .ok p) (h : p.holds d = true)
    (hcard : Record.ofDocument d = .ok card) :
  (r.ignoreDeleted = false → card.base.deleted = r.deleted)
    ∧ (r.ignoreArchived = false → card.base.archived = r.archived)
    ∧ (card.base.clientId = some c ∨ card.base.clientId = none ∧ Query.NamesNothing c)
  := by
  obtain ⟨hdeleted, harchived, howner⟩ := holds_of_predicate hp h
  obtain ⟨hdeletedName, harchivedName, -⟩ := normalize_typed
  rw [hdeletedName] at hdeleted
  rw [harchivedName] at harchived
  rw [hclient] at howner
  refine ⟨fun hignored => ?_, fun hignored => ?_, owner_of_holds_clientPredicate howner hcard⟩
  · obtain ⟨v, hv, hflag⟩ := exists_of_holds_flagPredicate hignored hdeleted
    apply Query.flag_of_compares hflag ((Card.scope_of_ofDocument hcard).1 hv)
  · obtain ⟨v, hv, hflag⟩ := exists_of_holds_flagPredicate hignored harchived
    apply Query.flag_of_compares hflag ((Card.scope_of_ofDocument hcard).2.1 hv)

end SearchRequest

/-! ### Searches -/

/-- Both kinds of store select from some documents. -/
theorem EmbeddedStore.exists_exec_find (s : EmbeddedStore) (name : String) (p : Predicate)
    (options : FindOptions) :
  ∃ candidates,
    DocumentStore.exec (.find name p options) s = (.ok (options.select p candidates), s)
  := by
  cases s with
  | memory s => exact ⟨_, rfl⟩
  | sorted s => exact ⟨_, rfl⟩

/-- Every record that a search finds is read from a document that satisfies the condition of
the request. -/
theorem Search.exists_of_mem_run {α : Type} [Record α] {collection : String} {r : SearchRequest}
    {kind : SchemaKind} {s t : EmbeddedStore} {found : SearchResult α}
    (h : (run α collection r kind).exec s = (.ok found, t)) {item : α}
    (hitem : item ∈ found.results) :
  ∃ p d, r.predicate kind = .ok p ∧ p.holds d = true ∧ Record.ofDocument d = .ok item
  := by
  rw [run] at h
  obtain ⟨p, s₁, hp, h⟩ := StoreM.exists_of_exec_bind_ok h
  obtain ⟨total, s₂, hcount, h⟩ := StoreM.exists_of_exec_bind_ok h
  obtain ⟨docs, s₃, hfind, h⟩ := StoreM.exists_of_exec_bind_ok h
  obtain ⟨items, s₄, hread, h⟩ := StoreM.exists_of_exec_bind_ok h
  cases h
  rw [StoreM.exec_lift] at hp hread
  obtain ⟨d, hd, hdocument⟩ := (mem_iff_of_mapM (Prod.ext_iff.mp hread).1).mp hitem
  rw [StoreM.exec_perform] at hfind
  obtain ⟨candidates, hcandidates⟩ := s₂.exists_exec_find collection p (r.options kind)
  rw [hcandidates] at hfind
  cases hfind
  exact ⟨p, d, (Prod.ext_iff.mp hp).1, FindOptions.holds_of_mem_select rfl hd, hdocument⟩

/-! ### Cards in the place of whose owner something is stored -/

namespace Card

/-- The document of a card with an id alone, and something in the place of its owner. -/
def documentWithClient (id : ObjectId) (client : Value) : Document :=
  ⟨id.toText, [("Archived", .bool false), ("ClientId", client), ("Deleted", .bool false)]⟩

/-- The card of an owner with an id alone. -/
def ofOwner (id : ObjectId) (owner : Option String) : Card :=
  { base := { id := some id, clientId := owner }, name := "", limit := 0 }

variable {client : Value} {owner : Option String}

/-- The members that the card is read from. -/
def membersWithClient (id : ObjectId) (client : Value) : Assoc Tree :=
  [("Archived", .bool false), ("ClientId", client.toTree), ("Deleted", .bool false),
    ("Id", .string id.toText)]

theorem ascending_membersWithClient (id : ObjectId) (client : Value) :
  Assoc.Ascending (membersWithClient id client)
  := by
  have hnames : ["Archived", "ClientId", "Deleted", "Id"].Pairwise (· < ·) := by decide
  apply List.pairwise_map.mp hnames

theorem treeOfDocument_documentWithClient (id : ObjectId) (client : Value) :
  Record.treeOfDocument (documentWithClient id client) = .object (membersWithClient id client)
  := by
  have hinsert : Assoc.insert recordIdField (.string id.toText)
      (documentWithClient id client).fields
      = [("Archived", .bool false), ("ClientId", client), ("Deleted", .bool false),
        ("Id", .string id.toText)] := by
    rw [documentWithClient, recordIdField, Assoc.insert, if_neg (by decide), if_neg (by decide),
      Assoc.insert, if_neg (by decide), if_neg (by decide), Assoc.insert, if_neg (by decide),
      if_neg (by decide), Assoc.insert]
  change (Value.object (Assoc.insert recordIdField (.string id.toText)
    (documentWithClient id client).fields)).toTree = _
  rw [hinsert]
  simp only [Value.toTree, Value.toMembers, membersWithClient]

/-- The owner of the card is what is read in its place. -/
theorem ofDocument_documentWithClient (id : ObjectId)
    (howner : Tree.optional? Tree.string? client.toTree = some owner) :
  Record.ofDocument (documentWithClient id client) = .ok (ofOwner id owner)
  := by
  have hobject : Tree.objectMembers? ("Name" :: "Limit" :: BaseFields.names)
      (.object (membersWithClient id client)) = some (membersWithClient id client) := by
    rw [Tree.objectMembers?, if_pos]
    apply List.all_eq_true.mpr
    intro name _
    apply decide_eq_true
    apply (ascending_membersWithClient id client).length_filter_le name
  have hread : Tree.member? (membersWithClient id client) "ClientId" none
      (Tree.optional? Tree.string?) = some owner := howner
  have hget : Assoc.get? "Id" (membersWithClient id client)
      = (some id).map fun id => .string id.toText := rfl
  have hbase : BaseFields.ofMembers? (membersWithClient id client)
      = some (ofOwner id owner).base := by
    rw [BaseFields.ofMembers?, BaseFields.member?_id hget, hread]
    rfl
  have hname : Tree.member? (membersWithClient id client) "Name" "" Tree.string? = some "" := rfl
  have hlimit : Tree.member? (membersWithClient id client) "Limit" 0 Tree.int64? = some 0 := rfl
  apply ofTree_eq_ok_iff.mpr
  rw [treeOfDocument_documentWithClient, ofTree?, hobject]
  simp only [Option.bind_eq_bind, Option.bind_some, hbase, hname, hlimit]
  rfl

/-- The flags are as a plain request asks for them. -/
theorem hasFlags_documentWithClient (id : ObjectId) (client : Value) {r : SearchRequest}
    (hdeleted : r.deleted = false) (harchived : r.archived = false) :
  r.hasFlags .typed (documentWithClient id client) = true
  := by
  obtain ⟨hdeletedName, harchivedName, -⟩ := SearchRequest.normalize_typed
  have hdeletedField : (documentWithClient id client).at? "Deleted" = some (.bool false) := by
    rw [Document.at?_eq_get? (by decide) (by decide)]
    rfl
  have harchivedField : (documentWithClient id client).at? "Archived" = some (.bool false) := by
    rw [Document.at?_eq_get? (by decide) (by decide)]
    rfl
  rw [SearchRequest.hasFlags, hdeletedName, harchivedName, hdeleted, harchived,
    SearchRequest.holds_flagPredicate_of_at? hdeletedField,
    SearchRequest.holds_flagPredicate_of_at? harchivedField]
  rfl

/-- A document satisfies the plain request of an owner to whom what stands in the place of its
owner is equal. -/
theorem exists_predicate_documentWithClient (id : ObjectId) {c : String}
    (hclient : Query.compares .eq client (.string c) = true) :
  ∃ p, SearchRequest.predicate { clientId := some c } .typed = .ok p
    ∧ p.holds (documentWithClient id client) = true
  := by
  have howner : (documentWithClient id client).at? "ClientId" = some client := by
    rw [Document.at?_eq_get? (by decide) (by decide)]
    rfl
  obtain ⟨p, hp, hholds⟩ :=
    SearchRequest.exists_predicate_of_no_term (r := { clientId := some c }) .typed rfl
  refine ⟨p, hp, ?_⟩
  rw [hholds, SearchRequest.isInScope, hasFlags_documentWithClient id client rfl rfl,
    SearchRequest.clientPredicate, SearchRequest.normalize_typed.2.2, Predicate.holds, howner]
  simp [hclient, SearchRequest.passesFilter, Predicate.holdAll]

end Card

namespace Manager

variable {m : Manager} {c : String}

/-- In a store with the document of one card, a plain search of a client finds the card if the
client equals what is stored in the place of the owner. -/
theorem exists_exec_search (hkind : m.kind = .typed) (hc : m.settings.workingClientId = some c)
    {client : Value} {owner : Option String} (hclient : Query.compares .eq client (.string c) = true)
    (howner : Tree.optional? Tree.string? client.toTree = some owner) :
  ∃ (s : MemoryStore) (ctx : Context EmbeddedStore) (id : ObjectId) (found : SearchResult Card),
    Reaches {} s ∧ ctx.store = .memory s
    ∧ (m.search Card {}).exec ctx = (.ok found, ctx)
    ∧ found.results = [Card.ofOwner id owner]
  := by
  let id : ObjectId := ⟨List.replicate 12 0, rfl⟩
  let r : SearchRequest := { clientId := some c }
  obtain ⟨p, hp, hholds⟩ := Card.exists_predicate_documentWithClient id hclient
  obtain ⟨s, hreach, hdocs⟩ :=
    MemoryStore.exists_reaches_singleton m.collection (Card.documentWithClient id client)
  have hrequest : m.forClient {} = r := by
    rw [forClient, hc]
    rfl
  have hselect : (r.options .typed).select p (s.documents m.collection)
      = [Card.documentWithClient id client] := by
    rw [hdocs]
    simp [FindOptions.select, hholds, SearchRequest.options, r, LawfulStore.sort_nil]
  have hvalid : LawfulStore.Valid (EmbeddedStore.memory s) := hreach.valid MemoryStore.Valid.empty
  have hitems : (FindOptions.select (r.options .typed) p (s.documents m.collection)).mapM
      Record.ofDocument = .ok [Card.ofOwner id owner] := by
    rw [hselect, List.mapM_cons, Card.ofDocument_documentWithClient id howner]
    rfl
  have hrun := Search.exec_run_eq hvalid hp hitems
  change (Search.run Card m.collection r .typed).exec _ = _ at hrun
  rw [← hrequest, ← hkind] at hrun
  exact ⟨s, ⟨.memory s, ⟨List.replicate 5 0, rfl, 0⟩, default⟩, id, _, hreach, rfl,
    ManagerM.exec_onStore hrun, rfl⟩

/-- A client that is called by a name for nothing finds a card without an owner in some store. -/
theorem exists_exec_search_ownerless (hkind : m.kind = .typed)
    (hc : m.settings.workingClientId = some c) (hnothing : Query.NamesNothing c) :
  ∃ (s : MemoryStore) (ctx : Context EmbeddedStore) (found : SearchResult Card),
    Reaches {} s ∧ ctx.store = .memory s
    ∧ (m.search Card {}).exec ctx = (.ok found, ctx)
    ∧ ∃ card ∈ found.results, card.base.clientId = none
  := by
  obtain ⟨client, hnull, hclient⟩ := Query.exists_of_namesNothing hnothing
  have howner : Tree.optional? Tree.string? client.toTree = some none := by
    rw [hnull]
    rfl
  obtain ⟨s, ctx, id, found, hreach, hstore, hsearch, hresults⟩ :=
    exists_exec_search hkind hc hclient howner
  refine ⟨s, ctx, found, hreach, hstore, hsearch, ?_⟩
  rw [hresults]
  exact ⟨_, List.mem_singleton_self _, rfl⟩

/-- What a manager with a working client finds has the flags that are asked for and belongs to
this client, whatever else is asked for and whatever is stored.  Only a client that is called
by a name for nothing finds cards without an owner too, and from some stores it does. -/
theorem exec_search_scoped (hkind : m.kind = .typed) (hc : m.settings.workingClientId = some c) :
  (∀ (r : SearchRequest) (ctx ctx' : Context EmbeddedStore) (found : SearchResult Card),
      r.clientId = none → (m.search Card r).exec ctx = (.ok found, ctx') →
      ∀ card ∈ found.results,
        (r.ignoreDeleted = false → card.base.deleted = r.deleted)
        ∧ (r.ignoreArchived = false → card.base.archived = r.archived)
        ∧ (card.base.clientId = some c ∨ card.base.clientId = none ∧ Query.NamesNothing c))
    ∧ (Query.NamesNothing c → ∃ (s : MemoryStore) (ctx : Context EmbeddedStore)
        (found : SearchResult Card), Reaches {} s ∧ ctx.store = .memory s
        ∧ (m.search Card {}).exec ctx = (.ok found, ctx)
        ∧ ∃ card ∈ found.results, card.base.clientId = none)
  := by
  constructor
  · intro r ctx ctx' found hr hsearch card hcard
    have hrequest : (m.forClient r).clientId = some c := by
      rw [forClient, hr, hc]
      rfl
    have hrun := ManagerM.exec_of_exec_onStore hsearch
    rw [hkind] at hrun
    obtain ⟨p, d, hp, hholds, hdocument⟩ := Search.exists_of_mem_run hrun hcard
    apply SearchRequest.scope_of_holds (r := m.forClient r) hrequest hp hholds hdocument
  · apply exists_exec_search_ownerless hkind hc

/-- The manager of the cards of an owner, in a collection of their own. -/
def ofCards (client : String) : Manager :=
  .make Card {} { ManagerSettings.ofCollection "cards" with workingClientId := some client }

/-- The client `acme` finds a card in some store, and it is its own. -/
theorem exec_search_scoped_acme :
  ∃ (s : MemoryStore) (ctx : Context EmbeddedStore) (found : SearchResult Card),
    Reaches {} s ∧ ctx.store = .memory s
    ∧ ((ofCards "acme").search Card {}).exec ctx = (.ok found, ctx)
    ∧ found.results ≠ []
    ∧ ∀ card ∈ found.results, card.base.deleted = false ∧ card.base.clientId = some "acme"
  := by
  have hname : ¬ Query.NamesNothing "acme" := by
    rintro (hnull | ⟨x, hread, -⟩)
    · revert hnull
      decide
    · have hnone : Value.readNumber? "acme" = none := by decide +kernel
      rw [hnone] at hread
      cases hread
  have hclient : Query.compares .eq (.string "acme") (.string "acme") = true := by
    rw [Query.compares_eq_string]
    rfl
  have howner : Tree.optional? Tree.string? (Value.string "acme").toTree = some (some "acme") := by
    rw [Value.toTree]
    rfl
  obtain ⟨s, ctx, id, found, hreach, hstore, hsearch, hresults⟩ :=
    exists_exec_search (m := ofCards "acme") rfl rfl hclient howner
  obtain ⟨hscoped, -⟩ := exec_search_scoped (m := ofCards "acme") rfl rfl
  refine ⟨s, ctx, found, hreach, hstore, hsearch, by simp [hresults], ?_⟩
  intro card hcard
  obtain ⟨hdeleted, -, hclient⟩ := hscoped {} ctx ctx found rfl hsearch card hcard
  exact ⟨hdeleted rfl, hclient.resolve_right fun h => hname h.2⟩

/-- The client `null`, which is not blank, finds a card in some store that is not its own. -/
theorem exec_search_null :
  (ofCards "null").kind = .typed
    ∧ (ofCards "null").settings.workingClientId = some "null"
    ∧ Text.isBlank "null" = false
    ∧ ∃ (s : MemoryStore) (ctx : Context EmbeddedStore) (found : SearchResult Card),
      Reaches {} s ∧ ctx.store = .memory s
      ∧ ((ofCards "null").search Card {}).exec ctx = (.ok found, ctx)
      ∧ ∃ card ∈ found.results, card.base.clientId ≠ some "null"
  := by
  have hname : Query.NamesNothing "null" := Or.inl (by decide)
  obtain ⟨s, ctx, found, hreach, hstore, hsearch, card, hcard, hnone⟩ :=
    exists_exec_search_ownerless (m := ofCards "null") rfl rfl hname
  refine ⟨rfl, rfl, by decide, s, ctx, found, hreach, hstore, hsearch, card, hcard, ?_⟩
  rw [hnone]
  intro h
  cases h

end Manager

end AuditedStore
