import AuditedStore.Proofs.Assoc
import AuditedStore.Proofs.Store.Laws
import AuditedStore.Proofs.Update
import AuditedStore.Store.Sorted

/-!
# Laws of sorted stores

The documents of a collection are kept under their own ids in ascending order.  Every
command keeps that, so their ids are distinct, and looking up a pinned id is the same as
scanning all documents.  A refused update changes nothing.
-/

namespace AuditedStore

namespace SortedStore

/-- Every document of an ascending tree is kept under its own id. -/
structure Keyed (t : Assoc Document) : Prop where
  ascending : Assoc.Ascending t
  id_eq : ∀ e ∈ t, e.2.id = e.1

theorem Keyed.nil :
  Keyed []
  := ⟨List.Pairwise.nil, by simp⟩

variable {t : Assoc Document}

theorem Keyed.map_id_docs (h : Keyed t) :
  (docs t).map Document.id = Assoc.keys t
  := by
  rw [docs, List.map_map]
  apply List.map_congr_left
  apply h.id_eq

theorem Keyed.nodup (h : Keyed t) :
  ((docs t).map Document.id).Nodup
  := by
  rw [h.map_id_docs, Assoc.keys, List.Nodup, List.pairwise_map]
  apply h.ascending.imp
  intro e f hlt
  apply ne_of_lt hlt

/-- A document is found by its id under its id. -/
theorem Keyed.get?_eq (h : Keyed t) (id : String) :
  Assoc.get? id t = Document.withId? id (docs t)
  := by
  apply Option.ext
  intro d
  rw [h.ascending.get?_eq_some_iff, Document.withId?_eq_some_iff h.nodup]
  constructor
  · intro hmem
    exact ⟨List.mem_map_of_mem hmem, h.id_eq _ hmem⟩
  · rintro ⟨hmem, rfl⟩
    obtain ⟨e, he, rfl⟩ := List.mem_map.mp hmem
    rw [h.id_eq e he]
    apply he

/-- The candidates for a predicate contain all documents that satisfy it, in order. -/
theorem Keyed.filter_candidates (h : Keyed t) (p : Predicate) :
  (candidates t p).filter (fun d => p.holds d) = (docs t).filter fun d => p.holds d
  := by
  rw [candidates]
  split
  · next id hid =>
      rw [h.get?_eq]
      apply Document.filter_withId? h.nodup
      intro d hd
      apply Predicate.id_eq_of_holds hd hid
  · rfl

theorem Keyed.firstMatch?_eq (h : Keyed t) (p : Predicate) :
  firstMatch? t p = (docs t).find? fun d => p.holds d
  := by
  rw [firstMatch?, ← List.head?_filter, h.filter_candidates, List.head?_filter]

/-- Putting a document under its own id keeps a tree keyed. -/
theorem Keyed.insert (h : Keyed t) (d : Document) :
  Keyed (Assoc.insert d.id d t)
  := by
  constructor
  · apply h.ascending.insert
  · intro e he
    rcases Assoc.mem_insert he with rfl | he
    · rfl
    · apply h.id_eq e he

/-- Putting a document under an id that is taken replaces the document with the id. -/
theorem Keyed.docs_insert_taken (h : Keyed t) {d : Document}
    (hd : d.id ∈ (docs t).map Document.id) :
  docs (Assoc.insert d.id d t) = d.replaceIn (docs t)
  := by
  rw [h.map_id_docs] at hd
  rw [h.ascending.insert_eq_map hd, docs, docs, Document.replaceIn, List.map_map, List.map_map]
  apply List.map_congr_left
  intro e he
  simp only [Function.comp_apply, h.id_eq e he]
  split
  · rfl
  · rfl

/-- Putting a document under a free id adds it. -/
theorem Keyed.docs_insert_free (h : Keyed t) {d : Document}
    (hd : d.id ∉ (docs t).map Document.id) :
  (docs (Assoc.insert d.id d t)).Perm (d :: docs t)
  := by
  apply (Assoc.perm_insert _ d).map Prod.snd
  rw [h.get?_eq]
  apply Document.withId?_eq_none_iff.mpr hd

/-! ### Commands on a collection -/

theorem Keyed.contains_iff (h : Keyed t) (id : String) :
  Assoc.contains id t = true ↔ id ∈ (docs t).map Document.id
  := by
  rw [Assoc.contains, h.get?_eq, Option.isSome_iff_ne_none, ne_eq, Document.withId?_eq_none_iff,
    not_not]

theorem Keyed.insertNew_taken (h : Keyed t) {name : String} {d : Document}
    (ht : d.id ∈ (docs t).map Document.id) :
  insertNew name d t = (.error (.duplicateKey name d.id), t)
  := by
  rw [insertNew, if_pos ((h.contains_iff d.id).mpr ht)]

theorem Keyed.insertNew_free (h : Keyed t) {name : String} {d : Document}
    (ht : d.id ∉ (docs t).map Document.id) :
  insertNew name d t = (.ok (), Assoc.insert d.id d t)
  := by
  rw [insertNew, if_neg (fun hid => ht ((h.contains_iff d.id).mp hid))]

theorem Keyed.insertNew (h : Keyed t) (name : String) (d : Document) :
  Keyed (insertNew name d t).2
  := by
  rw [SortedStore.insertNew]
  split
  · apply h
  · apply h.insert

theorem Keyed.replaceFirst (h : Keyed t) (name : String) (p : Predicate) (d : Document)
    (upsert : Bool) :
  Keyed (replaceFirst name p d upsert t).2
  := by
  have hnew := h.insertNew name d
  rw [SortedStore.replaceFirst]
  split
  · next old _ => apply h.insert { d with id := old.id }
  · split
    · split
      · next heq =>
          rw [heq] at hnew
          apply hnew
      · next heq =>
          rw [heq] at hnew
          apply hnew
    · apply h

/-! ### States -/

/-- The documents of a collection in the order of their ids. -/
def documents (s : SortedStore) (name : String) : List Document := docs (s.tree name)

/-- All collections keep their documents under their ids. -/
def Valid (s : SortedStore) : Prop := ∀ name, Keyed (s.tree name)

theorem Valid.empty :
  Valid {}
  := by
  intro name
  rw [tree]
  split
  · apply Keyed.nil
  · apply Keyed.nil

theorem tree_setTree (s : SortedStore) {name : String} (hr : isReserved name = false)
    (other : String) (t : Assoc Document) :
  (s.setTree name t).tree other = if other = name then t else s.tree other
  := by
  rw [tree, setTree, Assoc.get?_insert]
  by_cases h : other = name
  · simp [h, hr]
  · simp [h, tree]

theorem documents_setTree (s : SortedStore) {name : String} (hr : isReserved name = false)
    (t : Assoc Document) :
  (s.setTree name t).documents name = docs t
  := by
  rw [documents, s.tree_setTree hr, if_pos rfl]

theorem sameExcept_setTree (s : SortedStore) {name : String} (hr : isReserved name = false)
    (t : Assoc Document) :
  SameExcept name s.documents (s.setTree name t).documents
  := by
  intro other hne
  rw [documents, s.tree_setTree hr, if_neg hne, documents]

variable {s : SortedStore}

theorem Valid.setTree (h : s.Valid) {name : String} (hr : isReserved name = false)
    (ht : Keyed t) :
  (s.setTree name t).Valid
  := by
  intro other
  rw [s.tree_setTree hr]
  split
  · apply ht
  · apply h

/-- A collection in which something is found is not reserved. -/
theorem not_isReserved_of_find? {name : String} {p : Document → Bool} {d : Document}
    (hf : (s.documents name).find? p = some d) :
  isReserved name = false
  := by
  cases hr : isReserved name with
  | false => rfl
  | true =>
      rw [documents, tree, if_pos hr] at hf
      cases hf

theorem Valid.update_unmatched (h : s.Valid) {name : String} {p : Predicate} (u : Update)
    (hf : (s.documents name).find? (fun d => p.holds d) = none) :
  s.update name p u = (.ok .unmatched, s)
  := by
  rw [update, (h name).firstMatch?_eq]
  rw [documents] at hf
  rw [hf]

theorem Valid.update_done (h : s.Valid) {name : String} {p : Predicate} {u : Update}
    {d e : Document} {changed : Bool}
    (hf : (s.documents name).find? (fun d => p.holds d) = some d)
    (hu : u.run d = (e, .ok changed)) :
  ∃ t, s.update name p u = (.ok (.ofChange changed), t)
    ∧ t.Valid
    ∧ t.documents name = e.replaceIn (s.documents name)
    ∧ SameExcept name s.documents t.documents
  := by
  have hr := not_isReserved_of_find? hf
  have hid : e.id = d.id := by rw [← u.id_run d, hu]
  have hmem : e.id ∈ (s.documents name).map Document.id := by
    rw [hid]
    apply List.mem_map_of_mem (List.mem_of_find?_eq_some hf)
  use s.setTree name (Assoc.insert e.id e (s.tree name))
  constructor
  · rw [update, (h name).firstMatch?_eq]
    rw [documents] at hf
    simp only [hf, hu, hid]
  · use h.setTree hr ((h name).insert e)
    constructor
    · rw [s.documents_setTree hr, (h name).docs_insert_taken hmem, documents]
    · apply s.sameExcept_setTree hr

/-- A refused update leaves the store as it is. -/
theorem Valid.update_refused (h : s.Valid) {name : String} {p : Predicate} {u : Update}
    {d e : Document} {why : Refusal}
    (hf : (s.documents name).find? (fun d => p.holds d) = some d)
    (hu : u.run d = (e, .error why)) :
  s.update name p u = (.error (.refused why), s)
  := by
  rw [update, (h name).firstMatch?_eq]
  rw [documents] at hf
  simp only [hf, hu]

theorem Valid.writing (h : s.Valid) (name : String)
    {write : Assoc Document → Except Error α × Assoc Document}
    (hw : ∀ t, Keyed t → Keyed (write t).2) :
  (s.writing name write).2.Valid
  := by
  rw [SortedStore.writing]
  split
  · apply h
  · next hr => apply h.setTree (Bool.eq_false_iff.mpr hr) (hw _ (h name))

theorem writing_eq {name : String} (hr : isReserved name = false)
    (write : Assoc Document → Except Error α × Assoc Document) :
  s.writing name write = ((write (s.tree name)).1, s.setTree name (write (s.tree name)).2)
  := by
  rw [SortedStore.writing, hr]
  rfl

/-- Updates keep all collections keyed. -/
theorem Valid.update (h : s.Valid) (name : String) (p : Predicate) (u : Update) :
  (s.update name p u).2.Valid
  := by
  cases hf : (s.documents name).find? (fun d => p.holds d) with
  | none =>
      rw [h.update_unmatched u hf]
      apply h
  | some d =>
      rcases hu : u.run d with ⟨e, _ | _⟩
      · rw [h.update_refused hf hu]
        apply h
      · obtain ⟨t, ht, hvalid, -, -⟩ := h.update_done hf hu
        rw [ht]
        apply hvalid

theorem Valid.drop (h : s.Valid) (name : String) :
  (s.drop name).Valid
  := by
  intro other
  simp only [tree, SortedStore.drop]
  split
  · apply Keyed.nil
  · next hr =>
      have hother := h other
      rw [tree, if_neg hr] at hother
      split
      · rw [Assoc.get?_erase]
        split
        · apply Keyed.nil
        · apply hother
      · apply hother

theorem Valid.createIndex (h : s.Valid) (i : IndexDefinition) :
  (s.createIndex i).2.Valid
  := by
  have hw : (s.writing i.collection fun t => (.ok i.name, t)).2.Valid :=
    h.writing i.collection fun _ ht => ht
  rw [SortedStore.createIndex]
  rcases hwrite : s.writing i.collection (fun t => (.ok i.name, t)) with ⟨_ | _, t⟩
  · rw [hwrite] at hw
    apply hw
  · rw [hwrite] at hw
    apply hw

/-- Every command keeps all collections keyed. -/
theorem Valid.exec (h : s.Valid) (c : Command α) :
  (DocumentStore.exec c s).2.Valid
  := by
  cases c with
  | find name p options => apply h
  | count name p => apply h
  | insert name d => apply h.writing name fun _ ht => ht.insertNew name d
  | replace name p d upsert => apply h.writing name fun _ ht => ht.replaceFirst name p d upsert
  | update name p u => apply h.update
  | drop name => apply h.drop
  | listCollections wanted => apply h
  | createIndex i => apply h.createIndex
  | listIndexes name => apply h

instance : LawfulStore SortedStore where
  documents := documents
  Valid := Valid
  Accepts name := isReserved name = false
  valid_exec h c := h.exec c
  nodup_ids h name := (h name).nodup
  exec_find h name p options := by
    apply Prod.ext
    · apply congrArg Except.ok
      simp only [FindOptions.select, (h name).filter_candidates p]
      rfl
    · rfl
  exec_count h name p := by
    apply Prod.ext
    · apply congrArg Except.ok
      rw [List.countP_eq_length_filter, (h name).filter_candidates p,
        ← List.countP_eq_length_filter]
      rfl
    · rfl
  exec_insert_taken {s} h name hr d ht := by
    refine ⟨_, (writing_eq hr _).trans (by rw [(h name).insertNew_taken ht]), ?_⟩
    funext other
    by_cases hother : other = name
    · rw [hother, s.documents_setTree hr, documents]
    · apply s.sameExcept_setTree hr _ other hother
  exec_insert_free {s} h name hr d ht := by
    refine ⟨_, (writing_eq hr _).trans (by rw [(h name).insertNew_free ht]), ?_, ?_⟩
    · rw [s.documents_setTree hr]
      apply (h name).docs_insert_free ht
    · apply s.sameExcept_setTree hr
  exec_update_unmatched h _ _ u hf := h.update_unmatched u hf
  exec_update_done h _ _ _ _ _ _ hf hu := by
    obtain ⟨t, ht, -, hdocs, hsame⟩ := h.update_done hf hu
    use t, ht, hdocs, hsame
  exec_update_refused {s} h _ _ _ _ _ _ hf hu := by
    use s, h.update_refused hf hu, Or.inl rfl
    exact fun _ _ => rfl
  exec_replace_matched {s} h name hr p d old upsert hf := by
    have hmatch := (h name).firstMatch?_eq p
    have hmem := List.mem_of_find?_eq_some hf
    rw [documents] at hf
    refine ⟨s.setTree name (Assoc.insert old.id { d with id := old.id } (s.tree name)),
      (writing_eq hr _).trans (by simp only [replaceFirst, hmatch, hf]), ?_, ?_⟩
    · rw [s.documents_setTree hr, documents]
      apply (h name).docs_insert_taken (d := { d with id := old.id })
      apply List.mem_map_of_mem hmem
    · apply s.sameExcept_setTree hr
  exec_upsert {s} h name hr p d hf ht := by
    have hmatch := (h name).firstMatch?_eq p
    rw [documents] at hf
    refine ⟨s.setTree name (Assoc.insert d.id d (s.tree name)), (writing_eq hr _).trans
      (by simp only [replaceFirst, hmatch, hf, (h name).insertNew_free ht, if_true]), ?_, ?_⟩
    · rw [s.documents_setTree hr]
      apply (h name).docs_insert_free ht
    · apply s.sameExcept_setTree hr

end SortedStore

end AuditedStore
