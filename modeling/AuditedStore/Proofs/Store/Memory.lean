import AuditedStore.Proofs.Store.Laws
import AuditedStore.Proofs.Update
import AuditedStore.Store.Memory

/-!
# Laws of stores in memory

The positions of a collection in memory are exactly those of its ids.  Every command keeps
that, so the documents of a collection have distinct ids, and going by the position of a
pinned id is the same as scanning all documents.
-/

namespace AuditedStore

namespace Collection

/-- The positions of a collection are those of the ids of its documents. -/
def Indexed (c : Collection) : Prop :=
  ∀ id i, c.positions[id]? = some i ↔ (c.docs[i]?).map Document.id = some id

theorem Indexed.empty :
  Indexed {}
  := by
  intro id i
  simp

variable {c : Collection}

/-- An id is taken exactly when a document has it. -/
theorem Indexed.hasId_iff (h : c.Indexed) (id : String) :
  c.hasId id = true ↔ id ∈ c.docs.map Document.id
  := by
  rw [hasId, Std.HashMap.contains_eq_isSome_getElem?, Option.isSome_iff_exists,
    List.mem_iff_getElem?]
  simp only [h id, List.getElem?_map]

/-- The ids of an indexed collection are distinct. -/
theorem Indexed.nodup (h : c.Indexed) :
  (c.docs.map Document.id).Nodup
  := by
  rw [List.nodup_iff_getElem?_ne_getElem?]
  intro i j hij hj heq
  rw [List.length_map] at hj
  rw [List.getElem?_map, List.getElem?_map] at heq
  have hid : (c.docs[j]?).map Document.id = some c.docs[j].id := by
    rw [List.getElem?_eq_getElem hj, Option.map_some]
  have hpos := (h _ i).mpr (heq.trans hid)
  rw [(h _ j).mpr hid] at hpos
  apply Nat.ne_of_lt hij (Option.some.inj hpos).symm

/-- Adding a document with a free id keeps a collection indexed. -/
theorem Indexed.push (h : c.Indexed) {d : Document} (hd : c.hasId d.id = false) :
  (c.push d).Indexed
  := by
  intro id i
  have hfree : c.positions[d.id]? = none := by
    rw [hasId, Std.HashMap.contains_eq_isSome_getElem?] at hd
    simpa using hd
  simp only [Collection.push, Std.HashMap.getElem?_insert, List.getElem?_append]
  have hlt : c.positions[id]? = some i → i < c.docs.length := by
    intro hi
    obtain ⟨e, he, -⟩ := Option.map_eq_some_iff.mp ((h id i).mp hi)
    apply (List.getElem?_eq_some_iff.mp he).1
  have hid := h id i
  by_cases hdi : d.id = id
  · obtain rfl := hdi
    rw [hfree] at hid
    simp only [beq_self_eq_true, if_true, Option.some.injEq]
    split
    · next hi =>
        have hne : c.docs.length ≠ i := by omega
        simp only [hne, false_iff]
        intro hmap
        cases hid.mpr hmap
    · next hi =>
        cases hi' : i - c.docs.length with
        | zero =>
            simp only [List.getElem?_cons_zero, Option.map_some, iff_true]
            omega
        | succ k =>
            simp only [List.getElem?_cons_succ, List.getElem?_nil, Option.map_none,
              reduceCtorEq, iff_false]
            omega
  · simp only [beq_iff_eq, hdi, if_false]
    split
    · apply hid
    · next hi =>
        constructor
        · intro hpos
          exact absurd (hlt hpos) hi
        · intro hmap
          obtain ⟨e, he, hee⟩ := Option.map_eq_some_iff.mp hmap
          obtain rfl := List.mem_singleton.mp (List.mem_of_getElem? he)
          exact absurd hee hdi

/-- Putting a document in the place of one with its id keeps a collection indexed. -/
theorem Indexed.setAt (h : c.Indexed) {i : Nat} {d old : Document}
    (hold : c.docs[i]? = some old) (hid : d.id = old.id) :
  (c.setAt i d).Indexed
  := by
  intro id j
  rw [Collection.setAt, h id j]
  simp only [List.getElem?_set]
  split
  · next hij =>
      obtain rfl := hij
      obtain ⟨hi, rfl⟩ := List.getElem?_eq_some_iff.mp hold
      simp [hi, hid]
  · rfl

/-- The document with an id is found by its position. -/
theorem Indexed.lookup?_eq (h : c.Indexed) (id : String) :
  c.lookup? id = Document.withId? id c.docs
  := by
  apply Option.ext
  intro d
  rw [Document.withId?_eq_some_iff h.nodup, lookup?]
  constructor
  · intro hd
    obtain ⟨i, hi, hdi⟩ := Option.bind_eq_some_iff.mp hd
    have hmap := (h id i).mp hi
    rw [hdi] at hmap
    exact ⟨List.mem_of_getElem? hdi, Option.some.inj hmap⟩
  · rintro ⟨hmem, rfl⟩
    obtain ⟨i, hi⟩ := List.mem_iff_getElem?.mp hmem
    have hpos := (h d.id i).mpr (by rw [hi, Option.map_some])
    rw [hpos, Option.bind_some, hi]

/-- The candidates for a predicate contain all documents that satisfy it, in order. -/
theorem Indexed.filter_candidates (h : c.Indexed) (p : Predicate) :
  (c.candidates p).filter (fun d => p.holds d) = c.docs.filter fun d => p.holds d
  := by
  rw [candidates]
  split
  · next id hid =>
      rw [h.lookup?_eq]
      apply Document.filter_withId? h.nodup
      intro d hd
      apply Predicate.id_eq_of_holds hd hid
  · rfl

/-- Going by the position of a pinned id finds the position that scanning finds. -/
theorem Indexed.position?_eq (h : c.Indexed) (p : Predicate) :
  c.position? p = c.docs.findIdx? fun d => p.holds d
  := by
  rw [position?]
  split
  · next id hid =>
      apply Option.ext
      intro i
      rw [Option.filter_eq_some_iff, List.findIdx?_eq_some_iff_getElem, h id i]
      constructor
      · rintro ⟨hmap, hholds⟩
        obtain ⟨d, hd, hdid⟩ := Option.map_eq_some_iff.mp hmap
        obtain ⟨hi, rfl⟩ := List.getElem?_eq_some_iff.mp hd
        use hi
        constructor
        · simpa [hd] using hholds
        · intro j hji hj
          have hjlt : j < c.docs.length := Nat.lt_trans hji hi
          have heq := Document.eq_of_id_eq h.nodup (List.getElem_mem hjlt) (List.getElem_mem hi)
            ((Predicate.id_eq_of_holds hj hid).trans hdid.symm)
          apply Nat.ne_of_lt hji ((List.Nodup.getElem_inj_iff h.nodup.of_map).mp heq)
      · rintro ⟨hi, hholds, -⟩
        simp [List.getElem?_eq_getElem hi, hholds, Predicate.id_eq_of_holds hholds hid]
  · rfl

/-- A collection finds the first document that satisfies a predicate together with its
position. -/
theorem Indexed.find?_eq_some (h : c.Indexed) {p : Predicate} {d : Document}
    (hd : c.docs.find? (fun d => p.holds d) = some d) :
  ∃ i, ((c.position? p).bind fun i => (c.docs[i]?).map (i, ·)) = some (i, d)
    ∧ c.docs[i]? = some d
  := by
  rw [List.find?_eq_bind_findIdx?_getElem?] at hd
  obtain ⟨i, hi, hdi⟩ := Option.bind_eq_some_iff.mp hd
  use i
  rw [h.position?_eq, hi, Option.bind_some, hdi, Option.map_some]
  exact ⟨rfl, rfl⟩

theorem Indexed.find?_eq_none (h : c.Indexed) {p : Predicate}
    (hd : c.docs.find? (fun d => p.holds d) = none) :
  ((c.position? p).bind fun i => (c.docs[i]?).map (i, ·)) = none
  := by
  have hnone : c.docs.findIdx? (fun d => p.holds d) = none := by
    rw [List.findIdx?_eq_none_iff]
    intro e he
    simpa using List.find?_eq_none.mp hd e he
  rw [h.position?_eq, hnone, Option.bind_none]

end Collection

namespace MemoryStore

/-- All collections are indexed. -/
def Valid (s : MemoryStore) : Prop := ∀ name, (s.collection name).Indexed

/-- The documents of a collection in the order of their insertion. -/
def documents (s : MemoryStore) (name : String) : List Document := (s.collection name).docs

theorem Valid.empty :
  Valid {}
  := fun _ => Collection.Indexed.empty

theorem collection_setCollection (s : MemoryStore) (name other : String) (c : Collection) :
  (s.setCollection name c).collection other = if other = name then c else s.collection other
  := by
  rw [setCollection, collection, Assoc.get?_insert]
  split
  · rfl
  · rfl

theorem documents_setCollection (s : MemoryStore) (name : String) (c : Collection) :
  (s.setCollection name c).documents name = c.docs
  := by
  rw [documents, collection_setCollection, if_pos rfl]

theorem sameExcept_setCollection (s : MemoryStore) (name : String) (c : Collection) :
  SameExcept name s.documents (s.setCollection name c).documents
  := by
  intro other hne
  rw [documents, collection_setCollection, if_neg hne, documents]

theorem documents_setCollection_same (s : MemoryStore) (name : String) :
  (s.setCollection name (s.collection name)).documents = s.documents
  := by
  funext other
  rw [documents, collection_setCollection]
  split
  · next h => rw [h, documents]
  · rfl

variable {s : MemoryStore}

theorem Valid.setCollection (h : s.Valid) {name : String} {c : Collection} (hc : c.Indexed) :
  (s.setCollection name c).Valid
  := by
  intro other
  rw [collection_setCollection]
  split
  · apply hc
  · apply h

/-! ### Commands -/

theorem Valid.insert_taken (h : s.Valid) {name : String} {d : Document}
    (ht : d.id ∈ (s.documents name).map Document.id) :
  s.insert name d
    = (.error (.duplicateKey name d.id), s.setCollection name (s.collection name))
  := by
  rw [insert, if_pos (((h name).hasId_iff d.id).mpr ht)]

theorem Valid.insert_free (h : s.Valid) {name : String} {d : Document}
    (ht : d.id ∉ (s.documents name).map Document.id) :
  s.insert name d = (.ok (), s.setCollection name ((s.collection name).push d))
  := by
  rw [insert, if_neg (fun hid => ht (((h name).hasId_iff d.id).mp hid))]

/-- An update of the first document that satisfies a filter puts what its operations made of
the document in its place, whether the last of them was refused or not. -/
theorem Valid.update_matched (h : s.Valid) {name : String} {p : Predicate} (u : Update)
    {d : Document} (hf : (s.documents name).find? (fun d => p.holds d) = some d) :
  ∃ t, s.update name p u
      = ((u.run d).2.map .ofChange |>.mapError .refused, t)
    ∧ t.Valid
    ∧ t.documents name = (u.run d).1.replaceIn (s.documents name)
    ∧ SameExcept name s.documents t.documents
  := by
  obtain ⟨i, hi, hd⟩ := (h name).find?_eq_some hf
  have hid := u.id_run d
  use s.setCollection name ((s.collection name).setAt i (u.run d).1)
  constructor
  · rw [update, hi]
    cases hu : (u.run d).2 with
    | ok changed =>
        simp only [hu]
        rfl
    | error why =>
        simp only [hu]
        rfl
  · use h.setCollection ((h name).setAt hd hid)
    constructor
    · rw [documents_setCollection, documents, Document.replaceIn_eq_set (h name).nodup hd hid]
      rfl
    · apply sameExcept_setCollection

theorem Valid.update_unmatched (h : s.Valid) {name : String} {p : Predicate} (u : Update)
    (hf : (s.documents name).find? (fun d => p.holds d) = none) :
  s.update name p u = (.ok .unmatched, s)
  := by
  rw [update, (h name).find?_eq_none hf]

theorem Valid.replace_matched (h : s.Valid) {name : String} {p : Predicate} {d old : Document}
    (upsert : Bool) (hf : (s.documents name).find? (fun d => p.holds d) = some old) :
  ∃ t, s.replace name p d upsert = (.ok (.ofChange true), t)
    ∧ t.Valid
    ∧ t.documents name = Document.replaceIn { d with id := old.id } (s.documents name)
    ∧ SameExcept name s.documents t.documents
  := by
  obtain ⟨i, hi, hd⟩ := (h name).find?_eq_some hf
  use s.setCollection name ((s.collection name).setAt i { d with id := old.id })
  constructor
  · rw [replace, hi]
  · use h.setCollection ((h name).setAt hd rfl)
    constructor
    · rw [documents_setCollection, documents,
        Document.replaceIn_eq_set (e := { d with id := old.id }) (h name).nodup hd rfl]
      rfl
    · apply sameExcept_setCollection

theorem Valid.replace_unmatched (h : s.Valid) {name : String} {p : Predicate} (d : Document)
    (hf : (s.documents name).find? (fun d => p.holds d) = none) :
  s.replace name p d false = (.ok .unmatched, s.setCollection name (s.collection name))
    ∧ s.replace name p d true = ((s.insert name d).1.map fun _ => .ofInsert d.id, (s.insert name d).2)
  := by
  simp only [replace, (h name).find?_eq_none hf]
  constructor
  · rfl
  · cases s.insert name d with
    | mk answer t =>
        cases answer with
        | ok => rfl
        | error => rfl

theorem Valid.insert (h : s.Valid) (name : String) (d : Document) :
  (s.insert name d).2.Valid
  := by
  by_cases ht : d.id ∈ (s.documents name).map Document.id
  · rw [h.insert_taken ht]
    apply h.setCollection (h name)
  · rw [h.insert_free ht]
    apply h.setCollection
    apply (h name).push
    rw [Bool.eq_false_iff]
    intro hid
    apply ht (((h name).hasId_iff d.id).mp hid)

theorem Valid.update (h : s.Valid) (name : String) (p : Predicate) (u : Update) :
  (s.update name p u).2.Valid
  := by
  cases hf : (s.documents name).find? (fun d => p.holds d) with
  | none =>
      rw [h.update_unmatched u hf]
      apply h
  | some d =>
      obtain ⟨t, ht, hvalid, -, -⟩ := h.update_matched u hf
      rw [ht]
      apply hvalid

theorem Valid.replace (h : s.Valid) (name : String) (p : Predicate) (d : Document)
    (upsert : Bool) :
  (s.replace name p d upsert).2.Valid
  := by
  cases hf : (s.documents name).find? (fun d => p.holds d) with
  | none =>
      obtain ⟨hfalse, htrue⟩ := h.replace_unmatched d hf
      cases upsert with
      | false =>
          rw [hfalse]
          apply h.setCollection (h name)
      | true =>
          rw [htrue]
          apply h.insert
  | some old =>
      obtain ⟨t, ht, hvalid, -, -⟩ := h.replace_matched (d := d) upsert hf
      rw [ht]
      apply hvalid

theorem Valid.drop (h : s.Valid) (name : String) :
  Valid { collections := Assoc.erase name s.collections, indexes := Assoc.erase name s.indexes }
  := by
  intro other
  rw [collection, Assoc.get?_erase]
  split
  · apply Collection.Indexed.empty
  · apply h

/-- Every command keeps all collections indexed. -/
theorem Valid.exec (h : s.Valid) (c : Command α) :
  (DocumentStore.exec c s).2.Valid
  := by
  cases c with
  | find name p options => apply h
  | count name p => apply h
  | insert name d => apply h.insert
  | replace name p d upsert => apply h.replace
  | update name p u => apply h.update
  | drop name => apply h.drop
  | listCollections wanted => apply h
  | createIndex i => apply h.setCollection (h i.collection)
  | listIndexes name => apply h

instance : LawfulStore MemoryStore where
  documents := documents
  Valid := Valid
  Accepts _ := True
  valid_exec h c := h.exec c
  nodup_ids h name := (h name).nodup
  exec_find h name p options := by
    apply Prod.ext
    · apply congrArg Except.ok
      simp only [FindOptions.select, (h name).filter_candidates p]
      rfl
    · rfl
  exec_count h name p := by
    apply Prod.ext
    · apply congrArg Except.ok
      rw [List.countP_eq_length_filter, (h name).filter_candidates p,
        ← List.countP_eq_length_filter]
      rfl
    · rfl
  exec_insert_taken h _ _ _ ht :=
    ⟨_, h.insert_taken ht, documents_setCollection_same _ _⟩
  exec_insert_free h _ _ _ ht := by
    refine ⟨_, h.insert_free ht, ?_, ?_⟩
    · rw [documents_setCollection]
      apply List.perm_append_singleton
    · apply sameExcept_setCollection
  exec_update_unmatched h _ _ u hf := h.update_unmatched u hf
  exec_update_done h _ _ u _ _ _ hf hu := by
    obtain ⟨t, ht, -, hdocs, hsame⟩ := h.update_matched u hf
    rw [hu] at ht hdocs
    use t, ht, hdocs, hsame
  exec_update_refused h _ _ u _ _ _ hf hu := by
    obtain ⟨t, ht, -, hdocs, hsame⟩ := h.update_matched u hf
    rw [hu] at ht hdocs
    use t, ht, Or.inr hdocs, hsame
  exec_replace_matched h _ _ _ _ _ upsert hf := by
    obtain ⟨t, ht, -, hdocs, hsame⟩ := h.replace_matched upsert hf
    use t, ht, hdocs, hsame
  exec_upsert h _ _ _ d hf ht := by
    have hinsert := h.insert_free ht
    refine ⟨_, (h.replace_unmatched d hf).2.trans (by rw [hinsert]; rfl), ?_, ?_⟩
    · rw [documents_setCollection]
      apply List.perm_append_singleton
    · apply sameExcept_setCollection

end MemoryStore

end AuditedStore
