import AuditedStore.Proofs.Audit.Recorded
import AuditedStore.Proofs.Manager.Programs
import AuditedStore.Record.Card
import Mathlib.Data.List.Dedup

/-!
# Snapshots of the documents with listed ids

A manager finds the documents whose ids are listed, each once however often its id is, and records
them in turn.  Since their ids are different, every recording finds the trail of its document as
the first one did, so that each trail gains one snapshot and no other trail changes.
-/

namespace AuditedStore

open LawfulStore

/-! ### Listed documents -/

theorem Predicate.holds_oneOf_id_iff (d : Document) (ids : List String) :
  (oneOf idField (ids.map Value.string)).holds d = true ↔ d.id ∈ ids
  := by
  simp [holds, Document.at?_idField, Query.compares_eq_string]

namespace Document

variable {docs : List Document} {ids : List String}

/-- The documents whose ids are listed. -/
def listed (ids : List String) (docs : List Document) : List Document :=
  docs.filter fun d => (Predicate.oneOf idField (ids.map Value.string)).holds d

theorem mem_listed_iff {d : Document} :
  d ∈ listed ids docs ↔ d ∈ docs ∧ d.id ∈ ids
  := by rw [listed, List.mem_filter, Predicate.holds_oneOf_id_iff]

theorem nodup_listed (h : (docs.map id).Nodup) (ids : List String) :
  ((listed ids docs).map id).Nodup
  := h.sublist (List.filter_sublist.map id)

/-- Among the listed documents, those with listed ids are found. -/
theorem withId?_listed (h : (docs.map id).Nodup) (ids : List String) (i : String) :
  withId? i (listed ids docs) = if i ∈ ids then withId? i docs else none
  := by
  apply Option.ext
  intro d
  rw [withId?_eq_some_iff (nodup_listed h ids), mem_listed_iff]
  split
  · next hi =>
      rw [withId?_eq_some_iff h]
      constructor
      · rintro ⟨⟨hd, -⟩, hid⟩
        exact ⟨hd, hid⟩
      · rintro ⟨hd, rfl⟩
        exact ⟨⟨hd, hi⟩, rfl⟩
  · next hi =>
      constructor
      · rintro ⟨⟨-, hlisted⟩, rfl⟩
        exact absurd hlisted hi
      · rintro ⟨⟩

/-- There are as many listed documents as different ids that are listed and found. -/
theorem length_listed (h : (docs.map id).Nodup) (ids : List String) :
  (listed ids docs).length = (ids.dedup.filter fun i => (withId? i docs).isSome).length
  := by
  rw [← List.length_map (f := id)]
  apply List.Perm.length_eq
  apply (List.perm_ext_iff_of_nodup (nodup_listed h ids) (ids.nodup_dedup.filter _)).mpr
  intro i
  have hfound : i ∈ (listed ids docs).map id ↔ withId? i (listed ids docs) ≠ none := by
    rw [ne_eq, withId?_eq_none_iff, not_not]
  rw [hfound, withId?_listed h, List.mem_filter, List.mem_dedup]
  split
  · next hi => simp [hi, Option.isSome_iff_ne_none]
  · next hi => simp [hi]

end Document

/-! ### Recording documents in turn -/

/-- The trails with one snapshot more for each of these documents. -/
def extendAll (cap : Nat) (docs : List Document) (trails : String → List Value) (id : String) :
    List Value :=
  (Document.withId? id docs).elim (trails id) fun d => keepNewest cap (trails id ++ [d.toValue])

/-- Recording a document with an id of its own first extends all trails in the same way. -/
theorem extendAll_cons {cap : Nat} {name : String} {d : Document} {docs : List Document}
    (hd : d.id ∉ docs.map Document.id) (trails : String → List Value) :
  extendAll cap (d :: docs) trails
    = extendAll cap docs ((Recording.ofDocument name d cap).extend trails)
  := by
  have hnone : Document.withId? d.id docs = none := Document.withId?_eq_none_iff.mpr hd
  funext id
  have hextend : (Recording.ofDocument name d cap).extend trails id
      = if id = d.id then keepNewest cap (trails d.id ++ [d.toValue]) else trails id :=
    Function.update_apply ..
  rw [extendAll, extendAll, Document.withId?_cons, hextend]
  by_cases hid : id = d.id
  · rw [if_pos hid, if_pos hid, hid, hnone]
    rfl
  · rw [if_neg hid, if_neg hid]

/-- A document is recorded as it is. -/
theorem AuditTrail.exec_record_eq (name : String) (d : Document) (cap : Nat)
    (s : EmbeddedStore) :
  StoreM.exec (AuditTrail.record name d cap) s
    = StoreM.exec (Recording.ofDocument name d cap).run s
  := by
  rw [AuditTrail.record]
  exact StoreM.exec_bind_ok (StoreM.exec_lift (.ok d) s)

namespace Manager

variable {m : Manager} {c : Context EmbeddedStore} {trails : String → List Value}

/-- A document is recorded in the trail under its id. -/
theorem exec_record_document (hs : Valid c.store) (ha : c.store.accepts m.auditCollection = true)
    (h : HoldsTrails c.store m.auditCollection trails) (d : Document) :
  ∃ t, (m.record d).exec c = (.ok (), { c with store := t })
    ∧ RecordedOnly m.auditCollection c.store t
    ∧ HoldsTrails t m.auditCollection
        ((Recording.ofDocument m.auditCollection d m.cap).extend trails)
    ∧ SameExcept m.auditCollection (documents c.store) (documents t)
  := by
  let r := Recording.ofDocument m.auditCollection d m.cap
  obtain ⟨t, ht, -, htrails⟩ := Recording.exec_run_of_accepts (r := r) hs ha h
  have hrecorded : RecordedOnly m.auditCollection c.store (StoreM.exec r.run c.store).2 :=
    RecordedOnly.start.run rfl
  have hsame : ∀ name, name ≠ m.auditCollection →
      documents (StoreM.exec r.run c.store).2 name = documents c.store name := fun name hname =>
    r.documents_run_of_ne c.store hname
  rw [ht] at hrecorded hsame
  refine ⟨t, ManagerM.exec_onStore ?_, hrecorded, htrails, hsame⟩
  rw [AuditTrail.exec_record_eq]
  exact ht

/-- Documents with different ids are all recorded, each in its own trail. -/
theorem exec_forM_record (hs : Valid c.store) (ha : c.store.accepts m.auditCollection = true)
    (h : HoldsTrails c.store m.auditCollection trails) {docs : List Document}
    (hdocs : (docs.map Document.id).Nodup) :
  ∃ t, ManagerM.exec (docs.forM fun d => m.record d) c = (.ok (), { c with store := t })
    ∧ RecordedOnly m.auditCollection c.store t
    ∧ HoldsTrails t m.auditCollection (extendAll m.cap docs trails)
    ∧ SameExcept m.auditCollection (documents c.store) (documents t)
  := by
  induction docs generalizing c trails with
  | nil => exact ⟨c.store, rfl, .start, h, fun _ _ => rfl⟩
  | cons d docs ih =>
      obtain ⟨hd, hdocs⟩ := List.nodup_cons.mp hdocs
      obtain ⟨t, ht, hrecorded, htrails, hsame⟩ := exec_record_document hs ha h d
      have hreaches := hrecorded.reaches
      rw [← EmbeddedStore.accepts_of_reaches hreaches] at ha
      obtain ⟨u, hu, hrecorded', htrails', hsame'⟩ :=
        ih (c := { c with store := t }) (hreaches.valid hs) ha htrails hdocs
      rw [← extendAll_cons hd] at htrails'
      refine ⟨u, ?_, hrecorded.trans hrecorded', htrails', fun name hname => ?_⟩
      · exact (ManagerM.exec_bind_ok ht).trans hu
      · exact (hsame' name hname).trans (hsame name hname)

/-- Where the trails cannot be written, nothing is recorded, and the first document fails. -/
theorem exec_forM_record_refused (hs : Valid c.store)
    (ha : c.store.accepts m.auditCollection = false) (docs : List Document) :
  ManagerM.exec (docs.forM fun d => m.record d) c
    = (if docs = [] then .ok () else .error (.refused .reservedCollection), c)
  := by
  cases docs with
  | nil => rfl
  | cons d docs =>
      let r := Recording.ofDocument m.auditCollection d m.cap
      have hrun : StoreM.exec r.run c.store = (.error (.refused .reservedCollection), c.store) :=
        Recording.exec_run_of_not_accepts hs ha
      rw [← AuditTrail.exec_record_eq] at hrun
      rw [if_neg (List.cons_ne_nil d docs)]
      exact ManagerM.exec_bind_error (ManagerM.exec_onStore hrun)

/-! ### Listed ids -/

/-- The ids of a list under which a manager has a document, each once. -/
def storedIds (m : Manager) (s : EmbeddedStore) (ids : List String) : List String :=
  ids.dedup.filter fun id => (lookup? s m.collection id).isSome

/-- Without auditing or without ids, nothing is done. -/
theorem exec_auditItemsById_idle {ids : List String} {key : Option String}
    (h : m.isAudited key = false ∨ ids = []) (c : Context EmbeddedStore) :
  (m.auditItemsById ids key).exec c = (.ok 0, c)
  := by
  have hidle : (ids.isEmpty || !m.isAudited key) = true := by
    rcases h with haudited | rfl
    · rw [haudited, Bool.not_false, Bool.or_true]
    · rfl
  rw [auditItemsById, if_pos hidle]
  rfl

/-- An audited call records the listed documents. -/
theorem exec_auditItemsById_eq (hs : Valid c.store) {key : Option String}
    (haudited : m.isAudited key = true) (ids : List String) :
  (m.auditItemsById ids key).exec c
    = ManagerM.exec (do
        (Document.listed ids (documents c.store m.collection)).forM fun d => m.record d
        pure (m.storedIds c.store ids).length) c
  := by
  have hlength : (Document.listed ids (documents c.store m.collection)).length
      = (m.storedIds c.store ids).length :=
    Document.length_listed (nodup_ids hs m.collection) ids
  rw [← hlength]
  cases ids with
  | nil =>
      have hnil : Document.listed [] (documents c.store m.collection) = [] := by
        apply List.filter_eq_nil_iff.mpr
        intro d _
        rw [Predicate.holds_oneOf_id_iff]
        exact List.not_mem_nil
      rw [exec_auditItemsById_idle (Or.inr rfl), hnil]
      rfl
  | cons id ids =>
      have hbusy : ¬ ((id :: ids).isEmpty || !m.isAudited key) = true := by simp [haudited]
      have hfind : ManagerM.exec (.onStore (perform (.find m.collection
          (.oneOf idField ((id :: ids).map Value.string)) {}))) c
          = (.ok (Document.listed (id :: ids) (documents c.store m.collection)), c) := by
        apply ManagerM.exec_onStore
        rw [StoreM.exec_perform, LawfulStore.exec_find hs, select_default]
        rfl
      rw [auditItemsById, if_neg hbusy]
      exact ManagerM.exec_bind_ok hfind

/-- Where the trails cannot be written, nothing is recorded, and the call fails as soon as a listed
id is stored. -/
theorem exec_auditItemsById_refused (hs : Valid c.store) {key : Option String}
    (haudited : m.isAudited key = true) (ha : c.store.accepts m.auditCollection = false)
    (ids : List String) :
  (m.auditItemsById ids key).exec c
    = (if m.storedIds c.store ids = [] then .ok 0 else .error (.refused .reservedCollection), c)
  := by
  have hlength : _ = (m.storedIds c.store ids).length :=
    Document.length_listed (nodup_ids hs m.collection) ids
  have hloop := exec_forM_record_refused hs ha
    (Document.listed ids (documents c.store m.collection))
  rw [exec_auditItemsById_eq hs haudited]
  by_cases hnil : Document.listed ids (documents c.store m.collection) = []
  · rw [hnil, List.length_nil] at hlength
    rw [if_pos hnil] at hloop
    rw [ManagerM.exec_bind_ok hloop, List.length_eq_zero_iff.mp hlength.symm, if_pos rfl]
    rfl
  · rw [if_neg hnil] at hloop
    rw [ManagerM.exec_bind_error hloop, if_neg]
    rwa [← List.length_eq_zero_iff, ← hlength, List.length_eq_zero_iff]

/-- Auditing documents by their ids records each document with a listed id once.  The store is any
in which recordings alone have written the trails.  If they can be written, the answer is how many
different ids are listed and stored; the trail of each of these gains the document as it is stored,
and all other trails and collections stay as they are.  A store in memory can write all trails, a
sorted one those in collections that it does not keep to itself. -/
theorem exec_auditItemsById (l : Location) (m : Manager) {c : Context EmbeddedStore}
    (hc : RecordedOnly m.auditCollection l.emptyStore c.store) (ids : List String)
    (key : Option String) :
  (m.isAudited key = false ∨ ids = [] → (m.auditItemsById ids key).exec c = (.ok 0, c))
    ∧ (m.isAudited key = true → c.store.accepts m.auditCollection = true →
        ∃ t, (m.auditItemsById ids key).exec c
            = (.ok (m.storedIds c.store ids).length, { c with store := t })
          ∧ (∀ id ∈ ids, ∀ d, lookup? c.store m.collection id = some d →
              ∃ vs, lookup? c.store m.auditCollection id = AuditContainer.stored? id vs
                ∧ lookup? t m.auditCollection id
                  = some (AuditContainer.ofSnapshots id (keepNewest m.cap (vs ++ [d.toValue]))))
          ∧ (∀ id, (id ∈ ids → lookup? c.store m.collection id = none) →
              lookup? t m.auditCollection id = lookup? c.store m.auditCollection id)
          ∧ SameExcept m.auditCollection (documents c.store) (documents t)
          ∧ RecordedOnly m.auditCollection l.emptyStore t)
    ∧ (m.isAudited key = true → c.store.accepts m.auditCollection = false →
        (m.auditItemsById ids key).exec c
          = (if m.storedIds c.store ids = [] then .ok 0 else .error (.refused .reservedCollection),
            c))
  := by
  have hs : Valid c.store := hc.reaches.valid l.valid_emptyStore
  have hnodup := nodup_ids hs m.collection
  refine ⟨fun h => exec_auditItemsById_idle h c, ?written, fun haudited ha =>
    exec_auditItemsById_refused hs haudited ha ids⟩
  intro haudited ha
  obtain ⟨trails, htrails⟩ := hc.exists_holdsTrails l.valid_emptyStore
    (l.documents_emptyStore m.auditCollection)
  obtain ⟨t, ht, hrecorded, htrails', hsame⟩ :=
    exec_forM_record hs ha htrails (Document.nodup_listed hnodup ids)
  have hfound := Document.withId?_listed hnodup ids
  refine ⟨t, ?_, ?gained, ?kept, hsame, hc.trans hrecorded⟩
  · rw [exec_auditItemsById_eq hs haudited, ManagerM.exec_bind_ok ht]
    rfl
  case gained =>
    intro id hid d hd
    refine ⟨trails id, htrails id, ?_⟩
    rw [htrails', extendAll, hfound, if_pos hid, ← lookup?, hd]
    exact AuditContainer.stored?_of_ne_nil (keepNewest_append_singleton_ne_nil _ _ _) id
  case kept =>
    intro id hid
    have hnone : Document.withId? id (Document.listed ids (documents c.store m.collection))
        = none := by
      rw [hfound]
      split
      · next hlisted => exact hid hlisted
      · rfl
    rw [htrails', extendAll, hnone, htrails]
    rfl

/-- A store to which one document was added. -/
def oneDocument (l : Location) : Context EmbeddedStore :=
  ⟨(DocumentStore.exec (.insert "cards" ⟨"b", []⟩) l.emptyStore).2, ⟨List.replicate 5 0, rfl, 0⟩,
    ⟨0, 0⟩⟩

theorem recordedOnly_oneDocument (l : Location) {name : String} (hname : "cards" ≠ name) :
  RecordedOnly name l.emptyStore (oneDocument l).store
  := RecordedOnly.start.command (fun h => hname (Option.some.inj h)) not_false

theorem lookup?_oneDocument (l : Location) (name id : String) :
  lookup? (oneDocument l).store name id
    = if name = "cards" ∧ id = "b" then some ⟨"b", []⟩ else none
  := by
  have hempty : ∀ name id, lookup? l.emptyStore name id = none := by
    intro name id
    rw [lookup?, l.documents_emptyStore]
    rfl
  have ha : l.emptyStore.accepts "cards" = true := by
    cases l with
    | memory key => rfl
    | directory absolute parts => rfl
  rcases EmbeddedStore.exec_insert_of_accepts l.valid_emptyStore ha ⟨"b", []⟩
    with ⟨t, ht, -, -, hputs⟩ | ⟨-, -, htaken, -⟩
  · rw [oneDocument, ht, hputs, hempty]
  · exact absurd (hempty _ _) htaken

theorem storedIds_oneDocument (l : Location) (hm : m.collection = "cards") (ids : List String) :
  m.storedIds (oneDocument l).store ids = ids.dedup.filter fun id => id = "b"
  := by
  rw [storedIds, hm]
  apply List.filter_congr
  intro id _
  rw [lookup?_oneDocument]
  by_cases hid : id = "b"
  · simp [hid]
  · simp [hid]

/-- The document is listed twice, beside an id that is not stored. -/
theorem exec_auditItemsById_twice :
  let m : Manager := .make Card {} (.ofCollection "cards")
  let c := oneDocument (.memory "db")
  RecordedOnly m.auditCollection (Location.memory "db").emptyStore c.store
    ∧ ∃ t, (m.auditItemsById ["b", "x", "b"] none).exec c = (.ok 1, { c with store := t })
      ∧ lookup? t m.auditCollection "b" ≠ none ∧ lookup? t m.auditCollection "x" = none
  := by
  intro m c
  have hrecorded : RecordedOnly m.auditCollection (Location.memory "db").emptyStore c.store :=
    recordedOnly_oneDocument (.memory "db") (by decide)
  obtain ⟨-, hwritten, -⟩ := exec_auditItemsById (.memory "db") m hrecorded ["b", "x", "b"] none
  obtain ⟨t, ht, hgained, hkept, -⟩ := hwritten rfl rfl
  have hids : m.storedIds c.store ["b", "x", "b"] = ["b"] :=
    (storedIds_oneDocument (.memory "db") rfl _).trans (by decide)
  have hfound := lookup?_oneDocument (.memory "db")
  rw [hids] at ht
  refine ⟨hrecorded, t, ht, ?_, ?_⟩
  · obtain ⟨vs, -, hcontainer⟩ := hgained "b" (by decide) ⟨"b", []⟩ (hfound "cards" "b")
    rw [hcontainer]
    exact Option.some_ne_none _
  · exact (hkept "x" fun _ => hfound "cards" "x").trans (hfound "cardsAudit" "x")

/-- A sorted store keeps a collection to itself that is to have the trails. -/
theorem exec_auditItemsById_reserved :
  let m : Manager :=
    .make Card {} { ManagerSettings.ofCollection "cards" with auditCollectionName := "__audit" }
  let l : Location := .directory true ["data"]
  let c := oneDocument l
  m.collection ≠ m.auditCollection ∧ m.isAudited none = true
    ∧ RecordedOnly m.auditCollection l.emptyStore c.store
    ∧ lookup? c.store m.collection "b" = some ⟨"b", []⟩
    ∧ (m.auditItemsById ["b"] none).exec c = (.error (.refused .reservedCollection), c)
  := by
  intro m l c
  have hne : "cards" ≠ "__audit" := by decide
  have hrecorded : RecordedOnly m.auditCollection l.emptyStore c.store :=
    recordedOnly_oneDocument l hne
  have hids : m.storedIds c.store ["b"] = ["b"] :=
    (storedIds_oneDocument l rfl _).trans (by decide)
  have ha : c.store.accepts m.auditCollection = false := by
    rw [EmbeddedStore.accepts_of_reaches hrecorded.reaches]
    decide
  refine ⟨hne, rfl, hrecorded, lookup?_oneDocument l "cards" "b", ?_⟩
  rw [exec_auditItemsById_refused (hrecorded.reaches.valid l.valid_emptyStore) rfl ha, hids]
  rfl

end Manager

end AuditedStore
