import AuditedStore.Proofs.Manager.Isolation

/-!
# Finding and searching a card by its id

A manager can find a card by its id, and search for it with a filter.  Both are narrowed to the
working client, but finding passes over a client that is blank, and searching does not.  So the two
agree unless the client is blank and the card that is found is not its own.
-/

namespace AuditedStore

open LawfulStore
open Json (Tree)

/-! ### Owners of cards -/

namespace Card

variable {d : Document} {card : Card} {client : String}

/-- The client of a card stands in its document. -/
theorem at?_clientId_of_ofDocument (h : Record.ofDocument d = .ok card)
    (hclient : card.base.clientId = some client) :
  d.at? "ClientId" = some (.string client)
  := by
  cases hv : d.at? "ClientId" with
  | none =>
      obtain ⟨-, -, -, hread, -⟩ := BaseFields.member?_of_ofMembers? (ofMembers?_of_ofDocument h)
      rw [member?_eq_of_at?_eq_none (by decide) (by decide) (by decide) hv, hclient] at hread
      cases hread
  | some v =>
      have hread := (scope_of_ofDocument h).2.2 hv
      rw [hclient] at hread
      rcases Value.optional?_string?_toTree hread with ⟨s, rfl, hs⟩ | ⟨-, hnone⟩
      · rw [Option.some.inj hs]
      · cases hnone

/-- The document of a card satisfies the condition for its client. -/
theorem holds_clientPredicate (h : Record.ofDocument d = .ok card)
    (hclient : card.base.clientId = some client) :
  (SearchRequest.clientPredicate .typed (some client)).holds d = true
  := by
  rw [SearchRequest.holds_clientPredicate_of_at? (at?_clientId_of_ofDocument h hclient),
    beq_self_eq_true]

/-- The condition for a client is satisfied by the documents of the client's cards alone, unless the
text that names the client also names nothing. -/
theorem holds_clientPredicate_iff (h : Record.ofDocument d = .ok card)
    (hname : ¬ Query.NamesNothing client) :
  (SearchRequest.clientPredicate .typed (some client)).holds d = true
    ↔ card.base.clientId = some client
  := by
  constructor
  · intro hholds
    exact (SearchRequest.owner_of_holds_clientPredicate hholds h).resolve_right
      fun hnothing => hname hnothing.2
  · exact holds_clientPredicate h

end Card

/-! ### Requests for an id -/

/-- A request asks for one id and nothing else, and gives a first page that is not empty. -/
structure SearchRequest.AsksForId (r : SearchRequest) (id : String) : Prop where
  ignores_deleted : r.ignoreDeleted = true
  ignores_archived : r.ignoreArchived = true
  no_client : r.clientId = none
  no_term : r.term = none
  filter_eq : r.filter = some ("_id:" ++ id)
  startAt_eq : r.startAt = 0
  pageSize_pos : 0 < r.pageSize

/-- The plain request for an id. -/
def SearchRequest.forId (id : String) : SearchRequest :=
  { filter := some ("_id:" ++ id), ignoreDeleted := true, ignoreArchived := true }

theorem SearchRequest.asksForId_forId (id : String) :
  (forId id).AsksForId id
  := ⟨rfl, rfl, rfl, rfl, rfl, rfl, Nat.succ_pos 499⟩

namespace Manager

variable {m : Manager} {c : Context EmbeddedStore} {id : String} {r : SearchRequest}

/-- Whether searches reach a document: it satisfies the condition for the working client, blank
or not. -/
def reaches (m : Manager) (d : Document) : Bool :=
  (SearchRequest.clientPredicate m.kind m.settings.workingClientId).holds d

theorem owns_of_isBlank {client : String} (hclient : m.settings.workingClientId = some client)
    (hblank : Text.isBlank client = true) (d : Document) :
  m.owns d = true
  := by
  rw [owns, Search.isOwned, hclient, Option.bind_some, SearchRequest.nonBlank, if_pos hblank,
    SearchRequest.clientPredicate, Predicate.holds]

/-- Searches reach what lookups reach, unless the working client is blank. -/
theorem reaches_eq_owns
    (h : ∀ client, m.settings.workingClientId = some client → Text.isBlank client = false)
    (d : Document) :
  m.reaches d = m.owns d
  := by
  rw [reaches, owns, Search.isOwned]
  cases hclient : m.settings.workingClientId with
  | none => rfl
  | some client =>
      rw [Option.bind_some, SearchRequest.nonBlank, h client hclient, if_neg Bool.false_ne_true]

/-- Searches reach only what lookups reach. -/
theorem owns_of_reaches {d : Document} (h : m.reaches d = true) :
  m.owns d = true
  := by
  by_cases hblank : ∃ client, m.settings.workingClientId = some client ∧ Text.isBlank client = true
  · obtain ⟨client, hclient, hblank⟩ := hblank
    exact owns_of_isBlank hclient hblank d
  · rwa [← reaches_eq_owns fun client hclient => Bool.eq_false_iff.mpr
      fun h => hblank ⟨client, hclient, h⟩]

/-- Searches reach a card that lookups reach, unless the working client is blank and the card is not
its own. -/
theorem reaches_iff {d : Document} {card : Card} (hkind : m.kind = .typed)
    (hcard : Record.ofDocument d = .ok card) (howned : m.owns d = true) :
  m.reaches d = true ↔ ∀ client, m.settings.workingClientId = some client →
    Text.isBlank client = true → card.base.clientId = some client
  := by
  have hblank : ∀ client, m.settings.workingClientId = some client → Text.isBlank client = true →
      (m.reaches d = true ↔ card.base.clientId = some client) := by
    intro client hclient hblank
    rw [reaches, hclient, hkind,
      Card.holds_clientPredicate_iff hcard (Query.not_namesNothing_of_isBlank hblank)]
  constructor
  · intro h client hclient hclientBlank
    exact (hblank client hclient hclientBlank).mp h
  · intro h
    by_contra hreach
    -- A client that is blank is ruled out, so that both conditions are the same.
    apply hreach
    rw [reaches_eq_owns _ d, howned]
    intro client hclient
    rw [Bool.eq_false_iff]
    intro hclientBlank
    exact hreach ((hblank client hclient hclientBlank).mpr (h client hclient hclientBlank))

/-- A lookup gives what is read from the document with the id, if it is the working client's. -/
theorem exec_find_of_read {answer : Option Card} (hs : Valid c.store)
    (hread : ((lookup? c.store m.collection id).filter m.owns).map Record.ofDocument
      = answer.map .ok) :
  (m.find Card id).exec c = (.ok answer, c)
  := by
  rw [exec_find_owned hs]
  cases hd : (lookup? c.store m.collection id).filter m.owns with
  | none =>
      rw [hd] at hread
      obtain rfl := Option.map_eq_none_iff.mp hread.symm
      rfl
  | some d =>
      rw [hd] at hread
      obtain ⟨card, rfl, hcard⟩ := Option.map_eq_some_iff.mp hread.symm
      dsimp only
      rw [← hcard]
      rfl

/-- A search for an id gives what is read from the document with the id, if searches reach it. -/
theorem exec_search_of_read {answer : Option Card} (hs : Valid c.store)
    (hid : FilterToken.IsPlain id) (hr : r.AsksForId id)
    (hread : ((lookup? c.store m.collection id).filter m.reaches).map Record.ofDocument
      = answer.map .ok) :
  ∃ found, (m.search Card r).exec c = (.ok found, c)
    ∧ found.results = answer.toList
    ∧ found.totalCount = found.results.length
  := by
  have hscope : (m.forClient r).isInScope m.kind = m.reaches := by
    funext d
    rw [SearchRequest.isInScope, SearchRequest.hasFlags, forClient, SearchRequest.flagPredicate,
      SearchRequest.flagPredicate, hr.no_client, hr.ignores_deleted, hr.ignores_archived, reaches]
    rfl
  rw [← hscope] at hread
  obtain ⟨found, hrun, hresults⟩ := Search.exec_run_hasId m.kind hs hid hread hr.no_term
    hr.filter_eq hr.startAt_eq hr.pageSize_pos
  exact ⟨found, ManagerM.exec_onStore hrun, hresults⟩

/-- A card is read from its document, if a condition lets it through. -/
theorem map_ofDocument_filter {d : Document} {card : Card} (hcard : Record.ofDocument d = .ok card)
    (q : Document → Bool) :
  ((some d).filter q).map Record.ofDocument = (if q d then some card else none).map .ok
  := by
  rw [Option.filter_some]
  split
  · exact congrArg some hcard
  · rfl

/-- Where all documents can be read, the one with an id is, if it is there. -/
theorem exists_map_ofDocument {collection : String}
    (hcards : ∀ d ∈ documents c.store collection, ∃ card : Card, Record.ofDocument d = .ok card)
    (id : String) (q : Document → Bool) :
  ∃ answer : Option Card, ((lookup? c.store collection id).filter q).map Record.ofDocument
    = answer.map .ok
  := by
  cases hl : lookup? c.store collection id with
  | none => exact ⟨none, rfl⟩
  | some d =>
      obtain ⟨card, hcard⟩ := hcards d (List.mem_of_find?_eq_some hl)
      exact ⟨_, map_ofDocument_filter hcard q⟩

/-- Where lookups read a card, searches read it too, unless the working client is blank and the card
is not its own: then they read nothing. -/
theorem exists_map_reaches (hkind : m.kind = .typed) {found : Option Document}
    {answer : Option Card} (hread : (found.filter m.owns).map Record.ofDocument = answer.map .ok) :
  ∃ searched : Option Card, (found.filter m.reaches).map Record.ofDocument = searched.map .ok
    ∧ (searched = answer ∨ searched = none)
    ∧ (searched = answer ↔ ∀ client, m.settings.workingClientId = some client →
        Text.isBlank client = true → ∀ card ∈ answer, card.base.clientId = some client)
  := by
  cases hd : found.filter m.owns with
  | none =>
      rw [hd] at hread
      obtain rfl := Option.map_eq_none_iff.mp hread.symm
      have hnone : found.filter m.reaches = none := by
        rw [Option.filter_eq_none_iff] at hd ⊢
        exact fun d hfound hreach => hd d hfound (owns_of_reaches hreach)
      refine ⟨none, by rw [hnone]; rfl, Or.inl rfl, iff_of_true rfl ?_⟩
      intro client _ _ card hcard
      cases hcard
  | some d =>
      rw [hd] at hread
      obtain ⟨card, rfl, hcard⟩ := Option.map_eq_some_iff.mp hread.symm
      obtain ⟨rfl, howned⟩ := Option.filter_eq_some_iff.mp hd
      have hiff := reaches_iff hkind hcard.symm howned
      rw [Option.filter_some]
      cases hreach : m.reaches d with
      | true =>
          rw [hreach] at hiff
          refine ⟨some card, congrArg some hcard.symm, Or.inl rfl, iff_of_true rfl ?_⟩
          rintro client hclient hblank _ ⟨⟩
          exact hiff.mp rfl client hclient hblank
      | false =>
          rw [hreach] at hiff
          refine ⟨none, rfl, Or.inr rfl, iff_of_false (by simp) ?_⟩
          intro h
          have hself := hiff.mpr fun client hclient hblank => h client hclient hblank card rfl
          cases hself

/-- Finding a card by its id and searching for it give the same, unless the working client is blank
and the card that is found is not its own: then the search gives an empty page. -/
theorem exec_find_search (hkind : m.kind = .typed) {l : Location}
    (hc : Reaches l.emptyStore c.store)
    (hcards : ∀ d ∈ documents c.store m.collection, ∃ card : Card, Record.ofDocument d = .ok card)
    (hid : (ObjectId.read? id).isSome = true) (hr : r.AsksForId id) :
  ∃ (answer : Option Card) (found : SearchResult Card),
    (m.find Card id).exec c = (.ok answer, c)
    ∧ (m.search Card r).exec c = (.ok found, c)
    ∧ found.totalCount = found.results.length
    ∧ (found.results = answer.toList ∨ found.results = [])
    ∧ (found.results = answer.toList ↔ ∀ client, m.settings.workingClientId = some client →
        Text.isBlank client = true → ∀ card ∈ answer, card.base.clientId = some client)
  := by
  have hs := hc.valid l.valid_emptyStore
  obtain ⟨answer, hlooked⟩ := exists_map_ofDocument hcards id m.owns
  obtain ⟨searched, hsearched, hcases, hiff⟩ := exists_map_reaches hkind hlooked
  obtain ⟨found, hsearch, hresults, hcount⟩ :=
    exec_search_of_read hs (.of_read? hid) hr hsearched
  refine ⟨answer, found, exec_find_of_read hs hlooked, hsearch, hcount, ?_, ?_⟩
  · rw [hresults]
    rcases hcases with rfl | rfl
    · exact Or.inl rfl
    · exact Or.inr rfl
  · rw [hresults, ← hiff]
    constructor
    · intro h
      rw [← Option.head?_toList (o := searched), h, Option.head?_toList]
    · exact congrArg Option.toList

/-- In some store there is one card alone, with something in the place of its owner. -/
theorem exists_reaches_card (id : ObjectId) {client : Value} {card : Card}
    (hcard : Record.ofDocument (Card.documentWithClient id client) = .ok card) :
  ∃ c : Context EmbeddedStore, Reaches (Location.memory "db").emptyStore c.store
    ∧ (∀ d ∈ documents c.store "cards", ∃ card : Card, Record.ofDocument d = .ok card)
    ∧ documents c.store "cards" = [Card.documentWithClient id client]
    ∧ lookup? c.store "cards" id.toText = some (Card.documentWithClient id client)
  := by
  obtain ⟨s, hreach, hdocs⟩ :=
    MemoryStore.exists_reaches_singleton "cards" (Card.documentWithClient id client)
  have hdocs' : documents (EmbeddedStore.memory s) "cards" = [Card.documentWithClient id client] :=
    hdocs
  refine ⟨⟨.memory s, ⟨List.replicate 5 0, rfl, 0⟩, default⟩,
    EmbeddedStore.reaches_memory hreach, ?_, hdocs', ?_⟩
  · rw [hdocs', List.forall_mem_singleton]
    exact ⟨card, hcard⟩
  · rw [lookup?, hdocs', Document.withId?, List.find?_cons]
    simp [Card.documentWithClient]

/-- The client `acme` finds its card by the id, and in a search for the id. -/
theorem exec_find_search_acme :
  ∃ (c : Context EmbeddedStore) (id : ObjectId) (card : Card) (found : SearchResult Card),
    Reaches (Location.memory "db").emptyStore c.store
    ∧ ((ofCards "acme").find Card id.toText).exec c = (.ok (some card), c)
    ∧ ((ofCards "acme").search Card (.forId id.toText)).exec c = (.ok found, c)
    ∧ found.results = [card]
  := by
  let id : ObjectId := ⟨List.replicate 12 0, rfl⟩
  have howner : Tree.optional? Tree.string? (Value.string "acme").toTree = some (some "acme") := by
    rw [Value.toTree]
    rfl
  have hcard := Card.ofDocument_documentWithClient id howner
  obtain ⟨c, hreach, hcards, -, hl⟩ := exists_reaches_card id hcard
  have howned : (ofCards "acme").owns (Card.documentWithClient id (.string "acme")) = true :=
    owns_of_reaches (Card.holds_clientPredicate hcard rfl)
  have hread := map_ofDocument_filter hcard (ofCards "acme").owns
  rw [← hl, howned, if_pos rfl] at hread
  have hs := hreach.valid (Location.valid_emptyStore _)
  have hlooked := exec_find_of_read (m := ofCards "acme") hs hread
  have hid : (ObjectId.read? id.toText).isSome = true := by
    rw [ObjectId.read?_toText, Option.isSome_some]
  obtain ⟨answer, found, hfind, hsearch, -, -, hiff⟩ :=
    exec_find_search (m := ofCards "acme") rfl hreach hcards hid
      (SearchRequest.asksForId_forId id.toText)
  obtain rfl : some _ = answer := Except.ok.inj (congrArg Prod.fst (hlooked.symm.trans hfind))
  refine ⟨c, id, _, found, hreach, hlooked, hsearch, hiff.mpr ?_⟩
  rintro client ⟨⟩ hblank
  revert hblank
  decide

/-- A manager with a blank client finds a card without an owner by its id, but a search for the id
gives an empty page. -/
theorem exec_find_search_blank :
  ∃ (c : Context EmbeddedStore) (id : ObjectId) (card : Card) (found : SearchResult Card),
    Reaches (Location.memory "db").emptyStore c.store
    ∧ (∀ d ∈ documents c.store "cards", ∃ card : Card, Record.ofDocument d = .ok card)
    ∧ ((ofCards "").find Card id.toText).exec c = (.ok (some card), c)
    ∧ ((ofCards "").search Card (.forId id.toText)).exec c = (.ok found, c)
    ∧ found.results = []
  := by
  let id : ObjectId := ⟨List.replicate 12 0, rfl⟩
  have howner : Tree.optional? Tree.string? Value.null.toTree = some none := by
    rw [Value.toTree]
    rfl
  have hcard := Card.ofDocument_documentWithClient id howner
  obtain ⟨c, hreach, hcards, -, hl⟩ := exists_reaches_card id hcard
  have hs := hreach.valid (Location.valid_emptyStore _)
  have hblank : Text.isBlank "" = true := by decide
  have howned : (ofCards "").owns (Card.documentWithClient id .null) = true :=
    owns_of_isBlank rfl hblank _
  have hhidden : (ofCards "").reaches (Card.documentWithClient id .null) = false := by
    rw [Bool.eq_false_iff]
    intro h
    have hself := (reaches_iff rfl hcard howned).mp h "" rfl hblank
    cases hself
  have hread := map_ofDocument_filter hcard (ofCards "").owns
  rw [← hl, howned, if_pos rfl] at hread
  have hnone := map_ofDocument_filter hcard (ofCards "").reaches
  rw [← hl, hhidden, if_neg Bool.false_ne_true] at hnone
  obtain ⟨found, hsearch, hresults, -⟩ := exec_search_of_read (m := ofCards "") hs (.toText id)
    (SearchRequest.asksForId_forId id.toText) hnone
  exact ⟨c, id, _, found, hreach, hcards, exec_find_of_read (m := ofCards "") hs hread, hsearch,
    hresults⟩

end Manager

end AuditedStore
