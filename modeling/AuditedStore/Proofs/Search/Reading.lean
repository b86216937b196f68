import AuditedStore.Proofs.Query.Filtering
import AuditedStore.Proofs.Query.Selection
import AuditedStore.Proofs.Store.Lookup
import AuditedStore.Search

/-!
# What searches and lookups answer

In a valid state of a store, a search selects from all documents of its collection, and a
lookup gives the document with an id, if it belongs to the owner who is asked for.
-/

namespace AuditedStore

open LawfulStore

variable {σ : Type} [DocumentStore σ] [LawfulStore σ] {s : σ} {collection : String}
  {kind : SchemaKind}

namespace SearchRequest

/-- A request selects one window of the sorted documents that satisfy its condition. -/
theorem select_options (r : SearchRequest) (kind : SchemaKind) (p : Predicate)
    (docs : List Document) :
  (r.options kind).select p docs
    = (((r.options kind).sort.sort (docs.filter fun d => p.holds d)).drop r.startAt).take
        r.pageSize
  := rfl

/-- Whether the flags of a document are those that a request asks for. -/
def hasFlags (r : SearchRequest) (kind : SchemaKind) (d : Document) : Bool :=
  (flagPredicate r.ignoreDeleted (kind.normalize deletedField) r.deleted).holds d
    && (flagPredicate r.ignoreArchived (kind.normalize archivedField) r.archived).holds d

/-- Whether a document has the flags and the owner that a request asks for. -/
def isInScope (r : SearchRequest) (kind : SchemaKind) (d : Document) : Bool :=
  r.hasFlags kind d && (clientPredicate kind r.clientId).holds d

theorem isInScope_of_no_client {r : SearchRequest} (h : r.clientId = none) (kind : SchemaKind) :
  r.isInScope kind = r.hasFlags kind
  := by
  funext d
  rw [isInScope, h, clientPredicate, Predicate.holds, Bool.and_true]

/-- Whether a document satisfies the clauses of the filter of a request. -/
def passesFilter (r : SearchRequest) (kind : SchemaKind) (d : Document) : Bool :=
  Predicate.holdAll d (r.filter.elim [] (FilterToken.conditions kind))

/-- A request without a term asks for the documents in its scope that pass its filter. -/
theorem exists_predicate_of_no_term {r : SearchRequest} (kind : SchemaKind) (hterm : r.term = none) :
  ∃ p, r.predicate kind = .ok p
    ∧ ∀ d, p.holds d = (r.isInScope kind d && r.passesFilter kind d)
  := by
  rw [predicate, hterm]
  refine ⟨_, rfl, fun d => ?_⟩
  rw [passesFilter]
  cases r.filter with
  | none =>
      simp only [Option.elim_none, Predicate.holds_and, Predicate.holds, Predicate.holdAll,
        Bool.and_true, isInScope, hasFlags]
  | some f =>
      simp only [Option.elim_some, Predicate.withFilter_eq_foldl, Predicate.holds_foldl_and,
        Predicate.holds_and, Predicate.holds, Bool.and_true, isInScope, hasFlags]

/-- A request with the filter for an id asks for the document with the id, if that is in the scope
of the request. -/
theorem exists_predicate_hasId {r : SearchRequest} {id : String} (kind : SchemaKind)
    (hid : FilterToken.IsPlain id) (hterm : r.term = none)
    (hfilter : r.filter = some ("_id:" ++ id)) :
  ∃ p, r.predicate kind = .ok p ∧ ∀ d, p.holds d = (d.id == id && r.isInScope kind d)
  := by
  obtain ⟨p, hp, hholds⟩ := exists_predicate_of_no_term kind hterm
  refine ⟨p, hp, fun d => ?_⟩
  rw [hholds, passesFilter, hfilter, Option.elim_some, FilterToken.conditions_hasId kind hid,
    Predicate.holdAll, Predicate.holds_hasId, Predicate.holdAll, Bool.and_true, Bool.and_comm]

/-- If at most one document satisfies the condition of a request, its first page has that. -/
theorem select_options_of_filter {r : SearchRequest} {p : Predicate} {docs : List Document}
    {match? : Option Document} (kind : SchemaKind)
    (hmatching : docs.filter (fun d => p.holds d) = match?.toList) (hstart : r.startAt = 0)
    (hpage : 0 < r.pageSize) :
  (r.options kind).select p docs = match?.toList
  := by
  have hperm := (r.options kind).sort.sort_perm match?.toList
  rw [select_options, hmatching, hstart, List.drop_zero]
  cases match? with
  | none =>
      rw [Option.toList_none] at hperm ⊢
      rw [List.perm_nil.mp hperm, List.take_nil]
  | some d =>
      rw [Option.toList_some] at hperm ⊢
      rw [List.perm_singleton.mp hperm, List.take_of_length_le hpage]

end SearchRequest

namespace Search

variable {α : Type} [Record α]

/-- A search counts the documents that satisfy the condition of its request, and reads those
that its options select. -/
theorem exec_run_eq {r : SearchRequest} {p : Predicate} {items : List α} (hs : Valid s)
    (hp : r.predicate kind = .ok p)
    (hitems : ((r.options kind).select p (documents s collection)).mapM Record.ofDocument
      = .ok items) :
  (run α collection r kind).exec s
    = (.ok {
        results := items
        totalCount := (documents s collection).countP fun d => p.holds d
        pageSize := r.pageSize, startAt := r.startAt
        sort := r.sort, term := r.term, filter := r.filter }, s)
  := by
  have hcount := exec_count hs collection p
  have hfind := exec_find hs collection p (r.options kind)
  rw [run, StoreM.exec_bind_ok ((StoreM.exec_lift _ _).trans (by rw [hp])),
    StoreM.exec_bind_ok ((StoreM.exec_perform _ _).trans hcount),
    StoreM.exec_bind_ok ((StoreM.exec_perform _ _).trans hfind),
    StoreM.exec_bind_ok ((StoreM.exec_lift _ _).trans (by rw [hitems])), StoreM.exec_pure]

/-- A search for an id gives the record with the id, if that is in the scope of the request. -/
theorem exec_run_hasId {id : String} {r : SearchRequest} {item? : Option α} (kind : SchemaKind)
    (hs : Valid s) (hid : FilterToken.IsPlain id)
    (hread : ((lookup? s collection id).filter (r.isInScope kind)).map Record.ofDocument
      = item?.map .ok)
    (hterm : r.term = none) (hfilter : r.filter = some ("_id:" ++ id)) (hstart : r.startAt = 0)
    (hpage : 0 < r.pageSize) :
  ∃ found, (run α collection r kind).exec s = (.ok found, s)
    ∧ found.results = item?.toList
    ∧ found.totalCount = found.results.length
  := by
  obtain ⟨p, hp, hholds⟩ := SearchRequest.exists_predicate_hasId kind hid hterm hfilter
  have hmatching : (documents s collection).filter (fun d => p.holds d)
      = ((lookup? s collection id).filter (r.isInScope kind)).toList := by
    simp only [hholds]
    exact Document.filter_id_and (nodup_ids hs collection) id (r.isInScope kind)
  generalize (lookup? s collection id).filter (r.isInScope kind) = match? at hmatching hread
  have hitems : match?.toList.mapM Record.ofDocument = .ok item?.toList
      ∧ match?.toList.length = item?.toList.length := by
    cases match? with
    | none =>
        obtain rfl := Option.map_eq_none_iff.mp hread.symm
        exact ⟨rfl, rfl⟩
    | some d =>
        obtain ⟨item, rfl, hitem⟩ := Option.map_eq_some_iff.mp hread.symm
        rw [Option.toList_some, List.mapM_cons, ← hitem]
        exact ⟨rfl, rfl⟩
  have hselect := SearchRequest.select_options_of_filter kind hmatching hstart hpage
  refine ⟨_, exec_run_eq hs hp (hselect ▸ hitems.1), rfl, ?_⟩
  rw [List.countP_eq_length_filter, hmatching, hitems.2]
  rfl

/-- A search for the id of a record without an owner gives the record, if its flags are those that
are asked for. -/
theorem exec_run_id {id : ObjectId} {d : Document} {item : α} {r : SearchRequest}
    (kind : SchemaKind) (hs : Valid s) (hl : lookup? s collection id.toText = some d)
    (hread : Record.ofDocument d = .ok item) (hterm : r.term = none) (hclient : r.clientId = none)
    (hfilter : r.filter = some ("_id:" ++ id.toText)) (hstart : r.startAt = 0)
    (hpage : 0 < r.pageSize) :
  ∃ found, (run α collection r kind).exec s = (.ok found, s)
    ∧ found.results = (if r.hasFlags kind d then [item] else [])
    ∧ found.totalCount = found.results.length
  := by
  have hitem : ((lookup? s collection id.toText).filter (r.isInScope kind)).map Record.ofDocument
      = (if r.hasFlags kind d then some item else none).map .ok := by
    rw [SearchRequest.isInScope_of_no_client hclient, hl, Option.filter_some]
    cases r.hasFlags kind d with
    | true => exact congrArg some hread
    | false => rfl
  obtain ⟨found, hrun, hresults, hcount⟩ :=
    exec_run_hasId kind hs (.toText id) hitem hterm hfilter hstart hpage
  refine ⟨found, hrun, ?_, hcount⟩
  rw [hresults]
  cases r.hasFlags kind d with
  | true => rfl
  | false => rfl

/-- Whether a document belongs to the owner that lookups are narrowed to; without one, or with a
blank one, every document does. -/
def isOwned (client : Option String) (kind : SchemaKind) (d : Document) : Bool :=
  (SearchRequest.clientPredicate kind (client.bind SearchRequest.nonBlank)).holds d

theorem isOwned_none (kind : SchemaKind) (d : Document) :
  isOwned none kind d = true
  := by
  rw [isOwned, Option.bind_none, SearchRequest.clientPredicate, Predicate.holds]

theorem holds_lookupPredicate (id : String) (client : Option String) (d : Document) :
  (lookupPredicate id client kind).holds d = (d.id == id && isOwned client kind d)
  := by rw [lookupPredicate, Predicate.holds_and, Predicate.holds_hasId, isOwned]

/-- The first document that a lookup selects is the one with the id, if it is the owner's. -/
theorem find?_lookupPredicate {docs : List Document} (h : (docs.map Document.id).Nodup)
    (id : String) (client : Option String) :
  docs.find? (fun d => (lookupPredicate id client kind).holds d)
    = (Document.withId? id docs).filter (isOwned client kind)
  := by
  simp only [holds_lookupPredicate]
  rw [← List.head?_filter, Document.filter_id_and h, Option.head?_toList]

/-- A lookup reads the document with the id, if it is the owner's. -/
theorem exec_lookup (hs : Valid s) (id : String) (client : Option String) :
  (lookup α collection id client kind).exec s
    = ((match (lookup? s collection id).filter (isOwned client kind) with
        | none => .ok none
        | some d => some <$> (Record.ofDocument d : Except Error α)), s)
  := by
  have hfind := exec_find hs collection (lookupPredicate id client kind) { limit := some 1 }
  have hhead : StoreM.exec (findOne collection (lookupPredicate id client kind) {}) s
      = (.ok ((lookup? s collection id).filter (isOwned client kind)), s) := by
    rw [findOne, StoreM.exec_bind_ok ((StoreM.exec_perform _ s).trans hfind), StoreM.exec_pure,
      FindOptions.select, sort_nil, lookup?, ← find?_lookupPredicate (nodup_ids hs collection),
      ← List.head?_filter]
    simp [List.head?_take]
  rw [lookup, StoreM.exec_bind_ok hhead]
  cases (lookup? s collection id).filter (isOwned client kind) with
  | none => rfl
  | some d => exact StoreM.exec_map_lift some (Record.ofDocument d) s

end Search

end AuditedStore
