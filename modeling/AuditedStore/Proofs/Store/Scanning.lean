import AuditedStore.Proofs.Store.Memory
import AuditedStore.Proofs.Store.Sorted

/-!
# Commands as scans

A filter that pins an id lets a store go straight to one document.  In every state that
commands reach, that gives what a scan of all documents of the collection would give: the
ids of a collection are distinct, reads select from all its documents, and writes go to the
first document that satisfies the filter.  A replacement that finds none says so, or adds
its document if it is asked to and the id is free.
-/

namespace AuditedStore

/-- A lawful store that obeys the laws of writes without a match, of dropping and of creating
indexes too. -/
class ScanningStore (σ : Type) [DocumentStore σ] [LawfulStore σ] : Prop where
  exec_replace_unmatched {s : σ} (h : LawfulStore.Valid s) {name : String}
    (ha : LawfulStore.Accepts σ name) {p : Predicate} (d : Document)
    (hf : (LawfulStore.documents s name).find? (fun d => p.holds d) = none) :
    ∃ t, DocumentStore.exec (.replace name p d false) s = (.ok .unmatched, t)
      ∧ LawfulStore.documents t = LawfulStore.documents s
  exec_upsert_taken {s : σ} (h : LawfulStore.Valid s) {name : String}
    (ha : LawfulStore.Accepts σ name) {p : Predicate} {d : Document}
    (hf : (LawfulStore.documents s name).find? (fun d => p.holds d) = none)
    (ht : d.id ∈ (LawfulStore.documents s name).map Document.id) :
    ∃ t, DocumentStore.exec (.replace name p d true) s = (.error (.duplicateKey name d.id), t)
      ∧ LawfulStore.documents t = LawfulStore.documents s
  exec_drop {s : σ} (h : LawfulStore.Valid s) (name : String) :
    ∃ t, DocumentStore.exec (.drop name) s = (.ok (), t)
      ∧ LawfulStore.documents t name = []
      ∧ SameExcept name (LawfulStore.documents s) (LawfulStore.documents t)
  exec_createIndex {s : σ} (h : LawfulStore.Valid s) {i : IndexDefinition}
    (ha : LawfulStore.Accepts σ i.collection) :
    ∃ t, DocumentStore.exec (.createIndex i) s = (.ok i.name, t)
      ∧ LawfulStore.documents t = LawfulStore.documents s

namespace MemoryStore

/-- A document whose id is free goes to the end of its collection. -/
theorem Valid.documents_insert {s : MemoryStore} (h : s.Valid) {name : String} {d : Document}
    (ht : d.id ∉ (s.documents name).map Document.id) :
  (s.insert name d).2.documents name = s.documents name ++ [d]
  := by
  rw [h.insert_free ht]
  apply documents_setCollection

/-- A store with a single document is reached by inserting it. -/
theorem exists_reaches_singleton (name : String) (d : Document) :
  ∃ s : MemoryStore, Reaches {} s ∧ s.documents name = [d]
  := by
  use (MemoryStore.insert {} name d).2
  constructor
  · exact .command (.insert name d) .start
  · apply Valid.empty.documents_insert List.not_mem_nil

instance : ScanningStore MemoryStore where
  exec_replace_unmatched h _ _ _ d hf :=
    ⟨_, (h.replace_unmatched d hf).1, documents_setCollection_same _ _⟩
  exec_upsert_taken h _ _ _ d hf ht := by
    refine ⟨_, (h.replace_unmatched d hf).2.trans (by rw [h.insert_taken ht]; rfl), ?_⟩
    apply documents_setCollection_same
  exec_drop {s} _ name := by
    refine ⟨_, rfl, ?_, ?_⟩
    · change (MemoryStore.collection _ name).docs = []
      rw [collection, Assoc.get?_erase, if_pos rfl]
      rfl
    · intro other hne
      change (MemoryStore.collection _ other).docs = (s.collection other).docs
      rw [collection, Assoc.get?_erase, if_neg hne, collection]
  exec_createIndex {s} _ i _ := by
    refine ⟨_, rfl, ?_⟩
    apply documents_setCollection_same s i.collection

end MemoryStore

namespace SortedStore

theorem documents_setTree_same (s : SortedStore) {name : String} (hr : isReserved name = false) :
  (s.setTree name (s.tree name)).documents = s.documents
  := by
  funext other
  rw [documents, s.tree_setTree hr]
  split
  · next h => rw [h, documents]
  · rfl

/-- The documents of a keyed tree ascend by id. -/
theorem Keyed.pairwise_docs {t : Assoc Document} (h : Keyed t) :
  (docs t).Pairwise fun d e => d.id < e.id
  := by
  rw [docs, List.pairwise_map]
  apply h.ascending.imp_of_mem
  intro e f he hf hlt
  rw [h.id_eq e he, h.id_eq f hf]
  apply hlt

/-- Nothing is kept in a reserved collection. -/
theorem documents_of_isReserved (s : SortedStore) {name : String} (hr : isReserved name = true) :
  s.documents name = []
  := by
  rw [documents, tree, if_pos hr]
  rfl

/-- Writing to a reserved collection is refused and changes nothing. -/
theorem writing_of_isReserved (s : SortedStore) {name : String} (hr : isReserved name = true)
    (write : Assoc Document → Except Error α × Assoc Document) :
  s.writing name write = (.error (.refused .reservedCollection), s)
  := by rw [writing, if_pos hr]

/-- A collection without a tree is empty. -/
theorem tree_of_hasTree_eq_false (s : SortedStore) {name : String} (h : s.hasTree name = false) :
  s.tree name = []
  := by
  rw [tree]
  split
  · rfl
  · next hr =>
      have hnone : Assoc.get? name s.trees = none := by
        simpa [hasTree, hr, Assoc.contains] using h
      rw [hnone]
      rfl

/-- Dropping a collection leaves it empty, and all others as they are. -/
theorem tree_drop (s : SortedStore) (name other : String) :
  (s.drop name).tree other = if other = name then [] else s.tree other
  := by
  cases h : s.hasTree name with
  | true =>
      simp only [tree, SortedStore.drop, h, if_true, Assoc.get?_erase]
      split
      · split <;> rfl
      · split <;> rfl
  | false =>
      have hsame : (s.drop name).tree other = s.tree other := by
        simp only [tree, SortedStore.drop, h, Bool.false_eq_true, if_false]
      rw [hsame]
      split
      · next heq => rw [heq, s.tree_of_hasTree_eq_false h]
      · rfl

theorem createIndex_eq (s : SortedStore) {i : IndexDefinition}
    (hr : isReserved i.collection = false) :
  s.createIndex i
    = (.ok i.name, { s.setTree i.collection (s.tree i.collection) with
        indexes := Assoc.insert (indexKey i) i s.indexes })
  := by
  rw [createIndex, writing_eq hr]
  rfl

instance : ScanningStore SortedStore where
  exec_replace_unmatched {s} h name hr p d hf := by
    have hmatch := (h name).firstMatch?_eq p
    change (docs (s.tree name)).find? _ = none at hf
    refine ⟨s.setTree name (s.tree name), (writing_eq hr _).trans ?_, s.documents_setTree_same hr⟩
    simp only [replaceFirst, hmatch, hf, Bool.false_eq_true, if_false]
  exec_upsert_taken {s} h name hr p d hf ht := by
    have hmatch := (h name).firstMatch?_eq p
    change (docs (s.tree name)).find? _ = none at hf
    refine ⟨s.setTree name (s.tree name), (writing_eq hr _).trans ?_, s.documents_setTree_same hr⟩
    simp only [replaceFirst, hmatch, hf, (h name).insertNew_taken ht, if_true]
  exec_drop {s} _ name := by
    refine ⟨_, rfl, ?_, ?_⟩
    · change docs ((s.drop name).tree name) = []
      rw [tree_drop, if_pos rfl]
      rfl
    · intro other hne
      change docs ((s.drop name).tree other) = docs (s.tree other)
      rw [tree_drop, if_neg hne]
  exec_createIndex {s} _ i hr :=
    ⟨_, s.createIndex_eq hr, s.documents_setTree_same hr⟩

end SortedStore

/-! ### Scans -/

section Scans

open LawfulStore (documents Accepts Valid)

variable {σ : Type} [DocumentStore σ] [LawfulStore σ]

/-- Commands on a collection say and do what scanning its documents gives. -/
structure Scans (s : σ) (name : String) : Prop where
  nodup_ids : ((documents s name).map Document.id).Nodup
  find : ∀ p options, DocumentStore.exec (.find name p options) s
    = (.ok (options.select p (documents s name)), s)
  count : ∀ p, DocumentStore.exec (.count name p) s
    = (.ok ((documents s name).countP fun d => p.holds d), s)
  update_none : ∀ p u, (documents s name).find? (fun d => p.holds d) = none →
    DocumentStore.exec (.update name p u) s = (.ok .unmatched, s)
  update_first : ∀ p u d, (documents s name).find? (fun d => p.holds d) = some d →
    ∃ t, DocumentStore.exec (.update name p u) s
        = (((u.run d).2.map .ofChange).mapError .refused, t)
      ∧ (u.run d).1.id = d.id
      ∧ (documents t name = (u.run d).1.replaceIn (documents s name)
        ∨ (∃ why, (u.run d).2 = .error why) ∧ documents t name = documents s name)
      ∧ SameExcept name (documents s) (documents t)
  replace_none : Accepts σ name → ∀ p d,
    (documents s name).find? (fun d => p.holds d) = none →
    ∃ t, DocumentStore.exec (.replace name p d false) s = (.ok .unmatched, t)
      ∧ documents t = documents s
  replace_first : Accepts σ name → ∀ p d upsert old,
    (documents s name).find? (fun d => p.holds d) = some old →
    ∃ t, DocumentStore.exec (.replace name p d upsert) s = (.ok (.ofChange true), t)
      ∧ documents t name = Document.replaceIn { d with id := old.id } (documents s name)
      ∧ SameExcept name (documents s) (documents t)
  upsert_free : Accepts σ name → ∀ p d,
    (documents s name).find? (fun d => p.holds d) = none →
    d.id ∉ (documents s name).map Document.id →
    ∃ t, DocumentStore.exec (.replace name p d true) s = (.ok (.ofInsert d.id), t)
      ∧ (documents t name).Perm (d :: documents s name)
      ∧ SameExcept name (documents s) (documents t)
  upsert_taken : Accepts σ name → ∀ p d,
    (documents s name).find? (fun d => p.holds d) = none →
    d.id ∈ (documents s name).map Document.id →
    ∃ t, DocumentStore.exec (.replace name p d true) s = (.error (.duplicateKey name d.id), t)
      ∧ documents t = documents s

/-- An update works on the first document that satisfies its filter, or changes nothing if it
is refused. -/
theorem LawfulStore.exec_update_first {s : σ} (h : Valid s) {name : String} {p : Predicate}
    (u : Update) {d : Document}
    (hf : (documents s name).find? (fun d => p.holds d) = some d) :
  ∃ t, DocumentStore.exec (.update name p u) s
      = (((u.run d).2.map .ofChange).mapError .refused, t)
    ∧ (u.run d).1.id = d.id
    ∧ (documents t name = (u.run d).1.replaceIn (documents s name)
      ∨ (∃ why, (u.run d).2 = .error why) ∧ documents t name = documents s name)
    ∧ SameExcept name (documents s) (documents t)
  := by
  have hid := u.id_run d
  rcases hu : u.run d with ⟨e, why | changed⟩
  · rw [hu] at hid
    obtain ⟨t, hexec, hdocs, hsame⟩ := exec_update_refused h hf hu
    exact ⟨t, hexec, hid, hdocs.symm.imp_right fun hdocs => ⟨⟨why, rfl⟩, hdocs⟩, hsame⟩
  · rw [hu] at hid
    obtain ⟨t, hexec, hdocs, hsame⟩ := exec_update_done h hf hu
    exact ⟨t, hexec, hid, Or.inl hdocs, hsame⟩

/-- Where an update is done, the document that it makes of the first one takes its place. -/
theorem Scans.update_done {s : σ} {name : String} (h : Scans s name) {p : Predicate} {u : Update}
    {d e : Document} {changed : Bool}
    (hf : (documents s name).find? (fun d => p.holds d) = some d)
    (hu : u.run d = (e, .ok changed)) :
  (DocumentStore.exec (.update name p u) s).1 = .ok (.ofChange changed)
    ∧ documents (DocumentStore.exec (.update name p u) s).2 name = e.replaceIn (documents s name)
  := by
  obtain ⟨t, hexec, -, hdocs, -⟩ := h.update_first p u d hf
  rw [hu] at hexec hdocs
  rw [hexec]
  rcases hdocs with hdocs | ⟨⟨why, hwhy⟩, -⟩
  · exact ⟨rfl, hdocs⟩
  · cases hwhy

/-- In a valid state of a store, commands scan every collection. -/
theorem scans_of_valid [ScanningStore σ] {s : σ} (h : Valid s) (name : String) :
  Scans s name
  where
  nodup_ids := LawfulStore.nodup_ids h name
  find := LawfulStore.exec_find h name
  count := LawfulStore.exec_count h name
  update_none _ u hf := LawfulStore.exec_update_unmatched h u hf
  update_first _ u _ hf := LawfulStore.exec_update_first h u hf
  replace_none ha _ d hf := ScanningStore.exec_replace_unmatched h ha d hf
  replace_first ha _ _ upsert _ hf := LawfulStore.exec_replace_matched h ha upsert hf
  upsert_free ha _ _ hf ht := LawfulStore.exec_upsert h ha hf ht
  upsert_taken ha _ _ hf ht := ScanningStore.exec_upsert_taken h ha hf ht

end Scans

/-- In all states that commands reach from an empty store, the positions of a collection in
memory are those of its ids and the documents of a sorted one ascend by id; commands on the
collection do what a scan of its documents gives.  A sorted store keeps nothing in a reserved
collection and refuses all replacements in it. -/
theorem scans_of_reaches_empty (name : String) :
  (∀ s : MemoryStore, Reaches {} s → (s.collection name).Indexed ∧ Scans s name)
    ∧ ∀ s : SortedStore, Reaches {} s →
      ((s.documents name).Pairwise fun d e => d.id < e.id)
      ∧ Scans s name
      ∧ (SortedStore.isReserved name = true →
        s.documents name = []
        ∧ ∀ p d upsert, DocumentStore.exec (.replace name p d upsert) s
          = (.error (.refused .reservedCollection), s))
  := by
  constructor
  · intro s h
    have hvalid : s.Valid := h.valid MemoryStore.Valid.empty
    exact ⟨hvalid name, scans_of_valid (s := s) hvalid name⟩
  · intro s h
    have hvalid : s.Valid := h.valid SortedStore.Valid.empty
    refine ⟨(hvalid name).pairwise_docs, scans_of_valid (s := s) hvalid name, ?_⟩
    intro hr
    use s.documents_of_isReserved hr
    intro p d upsert
    apply s.writing_of_isReserved hr

/-- Of the documents `b` and `a`, added in this order, none is counted where two clauses pin
different ids, and an update of all documents goes to `b` in memory and to `a` in a sorted
store. -/
theorem scans_of_reaches_empty_contradiction :
  let b : Command Unit := .insert "cards" ⟨"b", []⟩
  let a : Command Unit := .insert "cards" ⟨"a", []⟩
  let memory := (DocumentStore.exec a (DocumentStore.exec b ({} : MemoryStore)).2).2
  let sorted := (DocumentStore.exec a (DocumentStore.exec b ({} : SortedStore)).2).2
  let p : Predicate := .every [Predicate.hasId "a", .every [Predicate.hasId "b"]]
  let update : Command UpdateResult := .update "cards" .all [.set "n" (.int 1)]
  Reaches {} memory ∧ Reaches {} sorted
    ∧ (DocumentStore.exec (.count "cards" p) memory).1 = .ok 0
    ∧ (DocumentStore.exec (.count "cards" p) sorted).1 = .ok 0
    ∧ (DocumentStore.exec update memory).1 = .ok (.ofChange true)
    ∧ (DocumentStore.exec update memory).2.documents "cards"
      = [⟨"b", [("n", .int 1)]⟩, ⟨"a", []⟩]
    ∧ (DocumentStore.exec update sorted).1 = .ok (.ofChange true)
    ∧ (DocumentStore.exec update sorted).2.documents "cards"
      = [⟨"a", [("n", .int 1)]⟩, ⟨"b", []⟩]
  := by
  intro b a memory sorted p update
  have hp : ∀ docs : List Document, (docs.countP fun d => p.holds d) = 0 := by
    intro docs
    apply List.countP_eq_zero.mpr
    intro d _ hd
    obtain ⟨ha, hb⟩ : d.id = "a" ∧ d.id = "b" := by
      simpa [p, Predicate.holds, Predicate.holdAll] using hd
    exact absurd (ha.symm.trans hb) (by decide)
  have hmemory : Reaches {} memory := .command a (.command b .start)
  have hsorted : Reaches {} sorted := .command a (.command b .start)
  have hdocs : memory.documents "cards" = [⟨"b", []⟩, ⟨"a", []⟩] := by
    have hb : (MemoryStore.insert {} "cards" ⟨"b", []⟩).2.documents "cards" = [⟨"b", []⟩] :=
      MemoryStore.Valid.empty.documents_insert List.not_mem_nil
    have hvalid := MemoryStore.Valid.empty.insert "cards" ⟨"b", []⟩
    apply (hvalid.documents_insert _).trans
    · rw [hb]
      rfl
    · rw [hb]
      decide
  have hfirst : (memory.documents "cards").find? (fun d => Predicate.all.holds d)
      = some ⟨"b", []⟩ := by
    rw [hdocs]
    rfl
  have hrun : ∀ id, Update.run [.set "n" (.int 1)] ⟨id, []⟩
      = (⟨id, [("n", .int 1)]⟩, .ok true) := fun _ => rfl
  obtain ⟨hm, hs⟩ := scans_of_reaches_empty "cards"
  have hscan := (hm _ hmemory).2
  have hscan' := (hs _ hsorted).2.1
  obtain ⟨hdone, hafter⟩ := hscan.update_done hfirst (hrun "b")
  obtain ⟨hdone', hafter'⟩ := hscan'.update_done (p := .all) (d := ⟨"a", []⟩) rfl (hrun "a")
  rw [hscan.count, hscan'.count, hp, hp]
  exact ⟨hmemory, hsorted, rfl, rfl, hdone, hafter.trans (congrArg _ hdocs), hdone', hafter'⟩

/-- A replacement that finds no document can still fail: a sorted store refuses to write to a
reserved collection, and a document cannot be added under an id that is taken. -/
theorem replace_without_match_fails :
  ¬ (∀ s : SortedStore, Reaches {} s → ∀ name p d,
      (s.documents name).find? (fun d => Predicate.holds d p) = none →
      (DocumentStore.exec (.replace name p d false) s).1 = .ok .unmatched)
    ∧ ¬ (∀ s : MemoryStore, Reaches {} s → ∀ name p d,
      (s.documents name).find? (fun d => Predicate.holds d p) = none →
      (DocumentStore.exec (.replace name p d true) s).1 = .ok .unmatched
        ∨ (DocumentStore.exec (.replace name p d true) s).1 = .ok (.ofInsert d.id))
  := by
  constructor
  · intro h
    have hr : SortedStore.isReserved "__x" = true := by decide
    have hfail := h {} .start "__x" .all ⟨"a", []⟩ rfl
    change (SortedStore.writing {} "__x" _).1 = _ at hfail
    rw [SortedStore.writing_of_isReserved _ hr] at hfail
    cases hfail
  · intro h
    obtain ⟨s, hreach, hdocs⟩ := MemoryStore.exists_reaches_singleton "cards" ⟨"a", []⟩
    have hvalid : s.Valid := hreach.valid MemoryStore.Valid.empty
    have hnone : (s.documents "cards").find? (fun d => (Predicate.hasId "b").holds d) = none := by
      rw [hdocs]
      simp
    have htaken : "a" ∈ (s.documents "cards").map Document.id := by
      rw [hdocs]
      apply List.mem_singleton_self _
    obtain ⟨t, hexec, -⟩ :=
      (scans_of_valid (s := s) hvalid "cards").upsert_taken trivial _ ⟨"a", []⟩ hnone htaken
    have hfail := h s hreach "cards" _ ⟨"a", []⟩ hnone
    rw [hexec] at hfail
    rcases hfail with hfail | hfail
    · cases hfail
    · cases hfail

end AuditedStore
