import AuditedStore.Proofs.Manager.Scope

/-!
# Asking for a card by its id, and searching for it

A manager says whether the document with an id satisfies a request, and it searches for the cards
that satisfy it.  A search is narrowed to the working client if its request names no other client,
but the question is not.  And a search shows the ids of its cards in small letters, but the question
is about the id as it is stored.  So the two agree where ids are stored as they are shown, unless
the document with the id satisfies the request and is hidden from the working client.
-/

namespace AuditedStore

open LawfulStore
open Json (Tree)

/-- The text that the id of a document is shown as, once a card is read from the document. -/
def Document.shownId? (d : Document) : Option String :=
  (ObjectId.read? d.id).map ObjectId.toText

/-- A card with an id is among the results. -/
def SearchResult.HasId (found : SearchResult Card) (id : String) : Prop :=
  ∃ card ∈ found.results, card.base.id.map ObjectId.toText = some id

/-- The id of a card is the id that its document shows. -/
theorem Card.id_of_ofDocument {d : Document} {card : Card} (h : Record.ofDocument d = .ok card) :
  card.base.id.map ObjectId.toText = d.shownId?
  := by
  obtain ⟨id, hread, hid, -⟩ := exists_id_of_ofDocument h
  rw [Document.shownId?, hread, hid]

/-- Where ids are stored as they are shown, the only document that shows an id is the one that is
stored under it. -/
theorem LawfulStore.exists_shown_iff {σ : Type} [DocumentStore σ] [LawfulStore σ] {s : σ}
    {name : String} (hs : Valid s) (hshown : ∀ d ∈ documents s name, d.shownId? = some d.id)
    (id : String) (P : Document → Prop) :
  (∃ d ∈ documents s name, d.shownId? = some id ∧ P d) ↔ ∃ d, lookup? s name id = some d ∧ P d
  := by
  apply exists_congr
  intro d
  rw [lookup?, Document.withId?_eq_some_iff (nodup_ids hs name), and_assoc]
  apply and_congr_right
  intro hd
  rw [hshown d hd, Option.some.injEq]

/-! ### Whole collections -/

/-- A page with room for all documents has those that satisfy the condition. -/
theorem SearchRequest.mem_select_options {r : SearchRequest} {docs : List Document}
    (hstart : r.startAt = 0) (hpage : docs.length ≤ r.pageSize) (kind : SchemaKind) (p : Predicate)
    (d : Document) :
  d ∈ (r.options kind).select p docs ↔ d ∈ docs ∧ p.holds d = true
  := by
  have hperm := (r.options kind).sort.sort_perm (docs.filter fun d => p.holds d)
  have hlength := hperm.length_eq.trans_le (List.length_filter_le _ _)
  rw [select_options, hstart, List.drop_zero, List.take_of_length_le (hlength.trans hpage),
    hperm.mem_iff, List.mem_filter]

namespace Search

variable {σ : Type} [DocumentStore σ] [LawfulStore σ] {s : σ} {collection : String}
  {r : SearchRequest} {kind : SchemaKind} {p : Predicate}

/-- A search with room for all documents finds what is read from those that satisfy its
condition. -/
theorem exec_run_whole {α : Type} [Record α] (hs : Valid s) (hp : r.predicate kind = .ok p)
    (hitems : ∀ d ∈ documents s collection, ∃ item : α, Record.ofDocument d = .ok item)
    (hstart : r.startAt = 0) (hpage : (documents s collection).length ≤ r.pageSize) :
  ∃ found, (run α collection r kind).exec s = (.ok found, s)
    ∧ ∀ item, item ∈ found.results
      ↔ ∃ d ∈ documents s collection, p.holds d = true ∧ Record.ofDocument d = .ok item
  := by
  have hmem := SearchRequest.mem_select_options hstart hpage kind p
  obtain ⟨items, hread⟩ := exists_mapM fun d hd => hitems d ((hmem d).mp hd).1
  refine ⟨_, exec_run_eq hs hp hread, fun item => ?_⟩
  simp only [mem_iff_of_mapM hread, hmem, and_assoc]

/-- The document with an id is included in a request without a term if it satisfies its
condition. -/
theorem exec_isIncluded (hs : Valid s) (id : String) (hterm : r.term = none)
    (hp : r.predicate kind = .ok p) :
  (isIncluded collection id r kind).exec s
    = (.ok ((lookup? s collection id).any fun d => p.holds d), s)
  := by
  have hrequest : SearchRequest.predicate { r with term := none, sort := none } kind = .ok p := by
    rw [← hp, SearchRequest.predicate, SearchRequest.predicate, hterm]
  have hfilter : (documents s collection).filter (fun d => (p.and (.hasId id)).holds d)
      = ((lookup? s collection id).filter fun d => p.holds d).toList := by
    simp only [Predicate.holds_and, Predicate.holds_hasId, Bool.and_comm]
    exact Document.filter_id_and (nodup_ids hs collection) id _
  have hcount := exec_count hs collection (p.and (.hasId id))
  rw [isIncluded, StoreM.exec_bind_ok ((StoreM.exec_lift _ _).trans (by rw [hrequest])),
    StoreM.exec_bind_ok ((StoreM.exec_perform _ _).trans hcount), StoreM.exec_pure,
    List.countP_eq_length_filter, hfilter]
  cases lookup? s collection id with
  | none => rfl
  | some d =>
      rw [Option.filter_some, Option.any_some]
      cases p.holds d with
      | true => rfl
      | false => rfl

end Search

namespace Manager

variable {m : Manager} {c : Context EmbeddedStore} {id : String} {r : SearchRequest}

/-- A document is in the reach of a search with a request: the request names a client itself, or
the document is in the reach of the working client. -/
def ReachesFor (m : Manager) (r : SearchRequest) (d : Document) : Prop :=
  r.clientId = none → m.reaches d = true

/-- Without a working client, or with a client of its own, a search reaches every document. -/
theorem reachesFor_of_client (h : m.settings.workingClientId = none ∨ r.clientId ≠ none)
    (d : Document) :
  m.ReachesFor r d
  := by
  intro hclient
  rw [reaches, h.resolve_right fun hne => hne hclient]
  rfl

/-- A document is in the scope of a search if it is in that of its request and in its reach. -/
theorem isInScope_forClient_iff {d : Document} :
  (m.forClient r).isInScope m.kind d = true
    ↔ r.isInScope m.kind d = true ∧ m.ReachesFor r d
  := by
  rw [SearchRequest.isInScope, SearchRequest.isInScope, ReachesFor, reaches, forClient,
    Bool.and_eq_true, Bool.and_eq_true]
  cases r.clientId with
  | none => simp [SearchRequest.hasFlags, SearchRequest.clientPredicate, Predicate.holds]
  | some client => simp [SearchRequest.hasFlags]

/-- A search asks for the documents that satisfy its request and are in its reach. -/
theorem exists_predicate_forClient (hterm : r.term = none) :
  ∃ p q, r.predicate m.kind = .ok p ∧ (m.forClient r).predicate m.kind = .ok q
    ∧ ∀ d, q.holds d = true ↔ p.holds d = true ∧ m.ReachesFor r d
  := by
  have hscoped : (m.forClient r).term = none := hterm
  obtain ⟨p, hp, hholds⟩ := SearchRequest.exists_predicate_of_no_term m.kind hterm
  obtain ⟨q, hq, hscopedHolds⟩ := SearchRequest.exists_predicate_of_no_term m.kind hscoped
  have hfilter : (m.forClient r).passesFilter m.kind = r.passesFilter m.kind := rfl
  refine ⟨p, q, hp, hq, fun d => ?_⟩
  rw [hholds, hscopedHolds, hfilter, Bool.and_eq_true, Bool.and_eq_true, isInScope_forClient_iff,
    and_right_comm]

/-- Whether an id is included in a request is told by the document that is stored under it. -/
theorem exec_isIncluded {p : Predicate} (hs : Valid c.store) (id : String) (hterm : r.term = none)
    (hp : r.predicate m.kind = .ok p) :
  (m.isIncluded id r).exec c
    = (.ok ((lookup? c.store m.collection id).any fun d => p.holds d), c)
  := ManagerM.exec_onStore (Search.exec_isIncluded hs id hterm hp)

/-- A search with room for all cards finds one with an id if a document that shows this id satisfies
the request and is in its reach. -/
theorem exec_search_hasId {p : Predicate} (hs : Valid c.store)
    (hcards : ∀ d ∈ documents c.store m.collection, ∃ card : Card, Record.ofDocument d = .ok card)
    (hterm : r.term = none) (hp : r.predicate m.kind = .ok p) (hstart : r.startAt = 0)
    (hpage : (documents c.store m.collection).length ≤ r.pageSize) :
  ∃ found, (m.search Card r).exec c = (.ok found, c)
    ∧ ∀ id, found.HasId id ↔ ∃ d ∈ documents c.store m.collection,
        d.shownId? = some id ∧ p.holds d = true ∧ m.ReachesFor r d
  := by
  obtain ⟨p', q, hp', hq, hholds⟩ := exists_predicate_forClient (m := m) hterm
  obtain rfl : p = p' := Except.ok.inj (hp.symm.trans hp')
  obtain ⟨found, hrun, hresults⟩ :=
    Search.exec_run_whole (r := m.forClient r) hs hq hcards hstart hpage
  refine ⟨found, ManagerM.exec_onStore hrun, fun id => ?_⟩
  simp only [SearchResult.HasId, hresults]
  constructor
  · rintro ⟨card, ⟨d, hd, hq, hread⟩, hid⟩
    rw [Card.id_of_ofDocument hread] at hid
    exact ⟨d, hd, hid, (hholds d).mp hq⟩
  · rintro ⟨d, hd, hid, hp⟩
    obtain ⟨card, hread⟩ := hcards d hd
    refine ⟨card, ⟨d, hd, (hholds d).mpr hp, hread⟩, ?_⟩
    rw [Card.id_of_ofDocument hread, hid]

/-- An id is included in a request if the document that is stored under it satisfies the condition
of the request; and a search for the whole collection has a card with the id if a document that
shows the id satisfies it and is in the reach of the search.  Where ids are stored as they are
shown, the two agree unless the document with the id satisfies the request and is not in reach; so
they agree if there is no working client or the request names a client itself. -/
theorem exec_isIncluded_search {l : Location} (hc : Reaches l.emptyStore c.store)
    (hcards : ∀ d ∈ documents c.store m.collection, ∃ card : Card, Record.ofDocument d = .ok card)
    (id : String) (hterm : r.term = none) {n : Nat}
    (hn : (documents c.store m.collection).length ≤ n) :
  ∃ (p : Predicate) (included : Bool) (found : SearchResult Card),
    r.predicate m.kind = .ok p
    ∧ (m.isIncluded id r).exec c = (.ok included, c)
    ∧ (m.search Card { r with startAt := 0, pageSize := n }).exec c = (.ok found, c)
    ∧ (included = true ↔ ∃ d, lookup? c.store m.collection id = some d ∧ p.holds d = true)
    ∧ (found.HasId id ↔ ∃ d ∈ documents c.store m.collection,
        d.shownId? = some id ∧ p.holds d = true ∧ m.ReachesFor r d)
    ∧ ((∀ d ∈ documents c.store m.collection, d.shownId? = some d.id) →
        ((included = true ↔ found.HasId id)
          ↔ ∀ d, lookup? c.store m.collection id = some d → p.holds d = true → m.ReachesFor r d)
        ∧ (m.settings.workingClientId = none ∨ r.clientId ≠ none →
          (included = true ↔ found.HasId id)))
  := by
  have hs := hc.valid l.valid_emptyStore
  obtain ⟨p, -, hp, -⟩ := exists_predicate_forClient (m := m) hterm
  obtain ⟨found, hsearch, hfound⟩ :=
    exec_search_hasId (r := { r with startAt := 0, pageSize := n }) hs hcards hterm hp rfl hn
  have hincluded : ((lookup? c.store m.collection id).any fun d => p.holds d) = true
      ↔ ∃ d, lookup? c.store m.collection id = some d ∧ p.holds d = true := by
    rw [Option.any_eq_true]
  refine ⟨p, _, found, hp, exec_isIncluded hs id hterm hp, hsearch, hincluded, hfound id,
    fun hshown => ?_⟩
  have hfoundOne : found.HasId id ↔ ∃ d, lookup? c.store m.collection id = some d
      ∧ p.holds d = true ∧ m.ReachesFor r d :=
    (hfound id).trans (exists_shown_iff hs hshown id _)
  have hagree : (((lookup? c.store m.collection id).any fun d => p.holds d) = true
      ↔ found.HasId id)
      ↔ ∀ d, lookup? c.store m.collection id = some d → p.holds d = true → m.ReachesFor r d := by
    rw [hincluded, hfoundOne]
    constructor
    · intro h d hl hholds
      obtain ⟨e, he, -, hreach⟩ := h.mp ⟨d, hl, hholds⟩
      rwa [Option.some.inj (hl.symm.trans he)]
    · intro h
      apply exists_congr
      intro d
      exact ⟨fun hd => ⟨hd.1, hd.2, h d hd.1 hd.2⟩, fun hd => ⟨hd.1, hd.2.1⟩⟩
  exact ⟨hagree, fun hclient => hagree.mpr fun d _ _ => reachesFor_of_client hclient d⟩

/-- A card without flags satisfies the request for nothing in particular. -/
theorem holds_documentWithClient {p : Predicate} (hp : SearchRequest.predicate {} .typed = .ok p)
    (id : ObjectId) (client : Value) :
  p.holds (Card.documentWithClient id client) = true
  := by
  obtain ⟨p', hp', hholds⟩ := SearchRequest.exists_predicate_of_no_term (r := {}) .typed rfl
  obtain rfl : p = p' := Except.ok.inj (hp.symm.trans hp')
  rw [hholds, SearchRequest.isInScope_of_no_client rfl,
    Card.hasFlags_documentWithClient id client rfl rfl]
  rfl

/-- The client `acme` is told that a card of its own is there, and searches it. -/
theorem exec_isIncluded_search_acme :
  ∃ (c : Context EmbeddedStore) (id : ObjectId) (n : Nat) (found : SearchResult Card),
    Reaches (Location.memory "db").emptyStore c.store
    ∧ ((ofCards "acme").isIncluded id.toText {}).exec c = (.ok true, c)
    ∧ ((ofCards "acme").search Card { pageSize := n }).exec c = (.ok found, c)
    ∧ found.HasId id.toText
  := by
  let id : ObjectId := ⟨List.replicate 12 0, rfl⟩
  have howner : Tree.optional? Tree.string? (Value.string "acme").toTree = some (some "acme") := by
    rw [Value.toTree]
    rfl
  have hcard := Card.ofDocument_documentWithClient id howner
  obtain ⟨c, hreach, hcards, -, hl⟩ := exists_reaches_card id hcard
  obtain ⟨p, included, found, hp, hincluded, hsearch, hiff, hfound, -⟩ :=
    exec_isIncluded_search (m := ofCards "acme") (r := {}) hreach hcards id.toText rfl le_rfl
  have hholds := holds_documentWithClient hp id (.string "acme")
  obtain rfl := hiff.mpr ⟨_, hl, hholds⟩
  have hstored := List.mem_of_find?_eq_some hl
  have hshown : (Card.documentWithClient id (.string "acme")).shownId? = some id.toText :=
    (Card.id_of_ofDocument hcard).symm
  refine ⟨c, id, _, found, hreach, hincluded, hsearch, hfound.mpr ⟨_, hstored, hshown, hholds, ?_⟩⟩
  exact fun _ => Card.holds_clientPredicate hcard rfl

/-- The client `acme` is told that a card of `globex` is there, but does not search it. -/
theorem exec_isIncluded_search_foreign :
  ∃ (c : Context EmbeddedStore) (id : ObjectId) (n : Nat) (found : SearchResult Card),
    Reaches (Location.memory "db").emptyStore c.store
    ∧ (∀ d ∈ documents c.store "cards", ∃ card : Card, Record.ofDocument d = .ok card)
    ∧ (documents c.store "cards").length ≤ n
    ∧ ((ofCards "acme").isIncluded id.toText {}).exec c = (.ok true, c)
    ∧ ((ofCards "acme").search Card { pageSize := n }).exec c = (.ok found, c)
    ∧ ¬ found.HasId id.toText
  := by
  let id : ObjectId := ⟨List.replicate 12 0, rfl⟩
  have howner : Tree.optional? Tree.string? (Value.string "globex").toTree = some (some "globex") := by
    rw [Value.toTree]
    rfl
  have hcard := Card.ofDocument_documentWithClient id howner
  obtain ⟨c, hreach, hcards, hdocs, hl⟩ := exists_reaches_card id hcard
  have hs := hreach.valid (Location.valid_emptyStore _)
  obtain ⟨p, -, hp, -⟩ := exists_predicate_forClient (m := ofCards "acme") (r := {}) rfl
  have hincluded := exec_isIncluded (m := ofCards "acme") (r := {}) hs id.toText rfl hp
  have hl' : lookup? c.store (ofCards "acme").collection id.toText = _ := hl
  rw [hl', Option.any_some, holds_documentWithClient hp id (.string "globex")] at hincluded
  obtain ⟨found, hsearch, hfound⟩ := exec_search_hasId (m := ofCards "acme")
    (r := { pageSize := (documents c.store "cards").length }) hs hcards rfl hp rfl le_rfl
  refine ⟨c, id, _, found, hreach, hcards, le_rfl, hincluded, hsearch, fun h => ?_⟩
  obtain ⟨d, hd, -, -, hreached⟩ := (hfound _).mp h
  obtain rfl := List.mem_singleton.mp (hdocs ▸ hd)
  have hreaches : (ofCards "acme").reaches (Card.documentWithClient id (.string "globex")) = true :=
    hreached rfl
  have hother : (SearchRequest.clientPredicate .typed (some "acme")).holds
      (Card.documentWithClient id (.string "globex")) = ("globex" == "acme") :=
    SearchRequest.holds_clientPredicate_of_at? (Card.at?_clientId_of_ofDocument hcard rfl)
  cases hreaches.symm.trans hother

end Manager

end AuditedStore
