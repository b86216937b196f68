import AuditedStore.Proofs.Audit.Recording
import AuditedStore.Proofs.Record.BaseFields
import AuditedStore.Record.Card

/-!
# Reading cards back

A card is read back from its document and from its flattened snapshot, with the instants that
its dates show.  A card that is read from a document has the id of the document, and dates
that are shown as they are; so its snapshot restores it as it is.
-/

namespace AuditedStore

open Json (Tree)

namespace Card

/-- The members of the JSON form. -/
def members (c : Card) : Assoc Tree :=
  Assoc.insert "Name" (.string c.name) (Assoc.insert "Limit" (.int64 c.limit) c.base.toMembers)

/-- The card with the instants that its dates show. -/
def settled (c : Card) : Card := { c with base := c.base.settled }

theorem toTree_eq (c : Card) :
  c.toTree = .object c.members
  := rfl

theorem ascending_members (c : Card) :
  Assoc.Ascending c.members
  := (c.base.ascending_toMembers.insert _ _).insert _ _

theorem mem_members {c : Card} {e : String × Tree} (h : e ∈ c.members) :
  e.1 ∈ "Name" :: "Limit" :: BaseFields.names ∧ e.2.IsFlat
  := by
  rcases Assoc.mem_insert h with rfl | h
  · exact ⟨List.mem_cons_self, trivial⟩
  · rcases Assoc.mem_insert h with rfl | h
    · exact ⟨List.mem_cons_of_mem _ List.mem_cons_self, Tree.isFlat_int64 _⟩
    · obtain ⟨hname, hflat⟩ := BaseFields.mem_toMembers h
      exact ⟨List.mem_cons_of_mem _ (List.mem_cons_of_mem _ hname), hflat⟩

/-- The name and the limit do not hide the shared fields. -/
theorem get?_members (c : Card) :
  ∀ k ∈ BaseFields.names, Assoc.get? k c.members = Assoc.get? k c.base.toMembers
  := by
  intro k hk
  rw [members, Assoc.get?_insert, Assoc.get?_insert, if_neg, if_neg]
  · rintro rfl
    revert hk
    decide
  · rintro rfl
    revert hk
    decide

/-- A card is read back, with the instants that its dates show. -/
theorem ofTree_toTree {c : Card} (h : c.base.HasValidDates) :
  ofTree c.toTree = .ok c.settled
  := by
  have hobject : c.toTree.objectMembers? ("Name" :: "Limit" :: BaseFields.names) = some c.members := by
    rw [toTree_eq, Tree.objectMembers?, if_pos]
    apply List.all_eq_true.mpr
    intro n _
    apply decide_eq_true
    apply c.ascending_members.length_filter_le
  have hbase : BaseFields.ofMembers? c.members = some c.base.settled := by
    rw [BaseFields.ofMembers?_congr c.get?_members, BaseFields.ofMembers?_toMembers h]
  have hname : Tree.member? c.members "Name" "" Tree.string? = some c.name := by
    rw [Tree.member?, members, Assoc.get?_insert_self]
    rfl
  have hlimit : Tree.member? c.members "Limit" 0 Tree.int64? = some c.limit := by
    rw [Tree.member?, members, Assoc.get?_insert, if_neg (by decide), Assoc.get?_insert_self]
    apply Tree.int64?_int64
  rw [ofTree, ofTree?, hobject]
  simp only [Option.bind_eq_bind, Option.bind_some, hbase, hname, hlimit]
  rfl

/-! ### Documents -/

variable {c : Card} {id : ObjectId}

/-- The document of a card. -/
def document (id : ObjectId) (c : Card) : Document := Record.documentOfMembers id.toText c.members

theorem get?_id_members (h : c.base.id = some id) :
  Assoc.get? recordIdField c.members = some (.string id.toText)
  := by
  rw [recordIdField, c.get?_members "Id" (by decide), c.base.get?_toMembers.1, h, Option.map_some]

/-- A card with an id can be stored. -/
theorem toDocument_eq (h : c.base.id = some id) :
  Record.toDocument c = .ok (c.document id)
  := Record.documentOfTree_object (get?_id_members h)

/-- A stored card is read back, with the instants that its dates show. -/
theorem ofDocument_document (h : c.base.id = some id) (hdates : c.base.HasValidDates) :
  Record.ofDocument (c.document id) = .ok c.settled
  := by
  change ofTree (Record.treeOfDocument (c.document id)) = _
  rw [document, Record.treeOfDocument_documentOfMembers c.ascending_members
    (fun e he => (mem_members he).2) (get?_id_members h), ← toTree_eq, ofTree_toTree hdates]

/-- A card has no other members than its own. -/
theorem get?_members_eq_none {k : String} (hk : k ∉ "Name" :: "Limit" :: BaseFields.names)
    (c : Card) :
  Assoc.get? k c.members = none
  := by
  rw [Assoc.get?_eq_none_iff]
  intro e he hke
  apply hk
  rw [← hke]
  apply (mem_members he).1

/-- The fields of a stored card are its members, apart from its id. -/
theorem get?_document {k : String} (hk : k ≠ recordIdField) (id : ObjectId) (c : Card) :
  Assoc.get? k (c.document id).fields = (Assoc.get? k c.members).map Value.ofTree
  := by rw [document, Record.documentOfMembers, Assoc.get?_erase, if_neg hk, Record.get?_ofMembers]

/-- The fields of a stored card do not hide its id. -/
theorem get?_idField_document (id : ObjectId) (c : Card) :
  Assoc.get? idField (c.document id).fields = none
  := by
  rw [get?_document (by decide), c.get?_members_eq_none (by decide)]
  rfl

/-- The snapshot of a card restores what would be read from its document. -/
theorem restore_document (id : ObjectId) (c : Card) :
  AuditContainer.restore Card (c.document id).toValue = Record.ofDocument (c.document id)
  := by
  rw [AuditContainer.restore, Document.ofValue_toValue (get?_idField_document id c)]
  rfl

theorem ofTree_eq_ok_iff {t : Tree} :
  ofTree t = .ok c ↔ ofTree? t = some c
  := by
  rw [ofTree]
  cases ofTree? t with
  | none => simp
  | some d => simp

/-- There is only one way in which reading a card fails. -/
theorem eq_undecodable_of_ofDocument {d : Document} {err : Error}
    (h : (Record.ofDocument d : Except Error Card) = .error err) :
  err = .undecodable
  := by
  change ofTree _ = _ at h
  rw [ofTree] at h
  split at h
  · cases h
  · cases h
    rfl

/-- The shared fields of a card are read from the fields of its document. -/
theorem ofMembers?_of_ofDocument {d : Document} (h : Record.ofDocument d = .ok c) :
  BaseFields.ofMembers? (Value.toMembers (Assoc.insert recordIdField (.string d.id) d.fields))
    = some c.base
  := by
  have hread : ofTree? (Record.treeOfDocument d) = some c := ofTree_eq_ok_iff.mp h
  rw [Record.treeOfDocument, Document.set, Document.toTree, Value.toTree, ofTree?] at hread
  obtain ⟨members, hmembers, hread⟩ := Option.bind_eq_some_iff.mp hread
  obtain ⟨base, hbase, hread⟩ := Option.bind_eq_some_iff.mp hread
  obtain ⟨name, -, hread⟩ := Option.bind_eq_some_iff.mp hread
  obtain ⟨limit, -, hread⟩ := Option.bind_eq_some_iff.mp hread
  cases hread
  rw [Tree.objectMembers?] at hmembers
  split at hmembers
  · cases hmembers
    apply hbase
  · cases hmembers

/-- A card that is read has the id that the id of its document is read as, and dates that are
shown as they are. -/
theorem exists_id_of_ofDocument {d : Document} (h : Record.ofDocument d = .ok c) :
  ∃ id, ObjectId.read? d.id = some id ∧ c.base.id = some id ∧ c.base.HasValidDates
    ∧ c.settled = c
  := by
  obtain ⟨hdates, hsettled, hid⟩ := BaseFields.settled_of_ofMembers? (ofMembers?_of_ofDocument h)
  have hget : Assoc.get? "Id"
      (Value.toMembers (Assoc.insert recordIdField (.string d.id) d.fields)) = some (.string d.id) := by
    rw [Value.toMembers_eq_mapValues, Assoc.get?_mapValues, recordIdField, Assoc.get?_insert_self,
      Option.map_some, Value.toTree]
  rw [Tree.member?, hget] at hid
  obtain ⟨id, hread, hbase⟩ := Option.map_eq_some_iff.mp hid
  refine ⟨id, hread, hbase.symm, hdates, ?_⟩
  rw [settled, hsettled]

/-- A card that is read from the document of an id has this id. -/
theorem settled_of_ofDocument {d : Document} (hid : d.id = id.toText)
    (h : Record.ofDocument d = .ok c) :
  c.base.HasValidDates ∧ c.settled = c ∧ c.base.id = some id
  := by
  obtain ⟨_, hread, hbase, hdates, hsettled⟩ := exists_id_of_ofDocument h
  rw [hid, ObjectId.read?_toText] at hread
  cases hread
  exact ⟨hdates, hsettled, hbase⟩

/-! ### Other fields -/

/-- Members that a card does not have do not count. -/
theorem ofTree?_congr {members other : Assoc Tree}
    (h : ∀ n ∈ "Name" :: "Limit" :: BaseFields.names,
      members.filter (fun e => e.1 == n) = other.filter fun e => e.1 == n) :
  ofTree? (.object members) = ofTree? (.object other)
  := by
  have hget : ∀ n ∈ "Name" :: "Limit" :: BaseFields.names,
      Assoc.get? n members = Assoc.get? n other := by
    intro n hn
    rw [Assoc.get?_eq_head?_filter, h n hn, ← Assoc.get?_eq_head?_filter]
  have hrepeated : (("Name" :: "Limit" :: BaseFields.names).all fun n =>
        (members.filter fun e => e.1 == n).length ≤ 1)
      = ("Name" :: "Limit" :: BaseFields.names).all fun n =>
        (other.filter fun e => e.1 == n).length ≤ 1 := by
    rw [Bool.eq_iff_iff, List.all_eq_true, List.all_eq_true]
    apply forall₂_congr
    intro n hn
    rw [h n hn]
  obtain ⟨hname, hlimit, hbase⟩ : _ ∧ _ ∧ _ := by
    simpa only [List.forall_mem_cons] using hget
  simp only [ofTree?, Tree.objectMembers?, hrepeated]
  split
  · simp only [Option.bind_eq_bind, Option.bind_some, BaseFields.ofMembers?_congr hbase,
      Tree.member?, hname, hlimit]
  · rfl

/-- A card is read from a document that has another field too as if it had not. -/
theorem ofDocument_set {name : String} (hname : recordIdField < name)
    (hnone : name ∉ "Name" :: "Limit" :: BaseFields.names) (v : Value) (d : Document) :
  (Record.ofDocument (d.set name v) : Except Error Card) = Record.ofDocument d
  := by
  have hread : ofTree? (Record.treeOfDocument (d.set name v)) = ofTree? (Record.treeOfDocument d) := by
    simp only [Record.treeOfDocument, Document.set, Document.toTree, Value.toTree]
    apply ofTree?_congr
    intro n hn
    have hne : n ≠ name := fun h => hnone (h ▸ hn)
    simp only [Value.toMembers_eq_mapValues, Assoc.mapValues, List.filter_map]
    rw [Assoc.insert_comm hname]
    congr 1
    apply Assoc.filter_insert_of_ne hne
  change ofTree _ = ofTree _
  rw [ofTree, ofTree, hread]

end Card

end AuditedStore
