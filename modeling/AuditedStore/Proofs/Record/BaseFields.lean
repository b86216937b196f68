import AuditedStore.Proofs.Calendar.Timestamp
import AuditedStore.Proofs.ObjectId
import AuditedStore.Proofs.Record.Basic

/-!
# Reading the shared fields back

The shared fields are read back from their JSON members, with the instants that their dates
show.  Dates that were read are shown as they are.
-/

namespace AuditedStore

open Json (Tree Number)

/-! ### Members -/

theorem Json.Tree.isFlat_optionString (s : Option String) :
  (optionString s).IsFlat
  := by
  cases s with
  | none => exact trivial
  | some s => exact trivial

theorem Json.Tree.isFlat_int64 (i : Int64) :
  (int64 i).IsFlat
  := ⟨i, rfl⟩

theorem Json.Tree.int64?_int64 (i : Int64) :
  int64? (int64 i) = some i
  := by
  rw [int64, int64?, Number.ofInt64, Number.toInt64?, if_pos i.toInt_lt, Int64.ofInt_toInt]

/-- A text or null is read as the text that it was made of. -/
theorem Json.Tree.optional?_optionString {α : Type} (read : Tree → Option α) (s : Option String) :
  optional? read (optionString s)
    = s.elim (some none) fun s => (read (.string s)).map some
  := by
  cases s with
  | none => rfl
  | some s => rfl

namespace BaseFields

/-- All dates can be written. -/
structure HasValidDates (b : BaseFields) : Prop where
  created : ∀ t, b.createdDate = some t → t.IsValid
  updated : ∀ t, b.updatedDate = some t → t.IsValid

/-- The fields with the instants that their dates show. -/
def settled (b : BaseFields) : BaseFields :=
  { b with
    createdDate := b.createdDate.map Instant.settled
    updatedDate := b.updatedDate.map Instant.settled }

theorem ascending_toMembers (b : BaseFields) :
  Assoc.Ascending b.toMembers
  := Assoc.ascending_ofList _

theorem mem_optionalMember {name : String} {s : Option String} {e : String × Tree}
    (h : e ∈ optionalMember name s) :
  e.1 = name ∧ e.2.IsFlat
  := by
  cases s with
  | none => cases h
  | some s =>
      rw [List.mem_singleton.mp h]
      exact ⟨rfl, trivial⟩

/-- The members have the names of the shared fields, and flat trees. -/
theorem mem_toMembers {b : BaseFields} {e : String × Tree} (h : e ∈ b.toMembers) :
  e.1 ∈ names ∧ e.2.IsFlat
  := by
  have hmem := Assoc.mem_ofList h
  simp only [List.mem_append, List.mem_cons, List.not_mem_nil, or_false] at hmem
  rcases hmem with ((hid | rfl | rfl) | hclient) | rfl | rfl | rfl | rfl | rfl | rfl
  · obtain ⟨hname, hflat⟩ := mem_optionalMember hid
    rw [hname]
    exact ⟨by simp [names], hflat⟩
  · exact ⟨by simp [names], trivial⟩
  · exact ⟨by simp [names], trivial⟩
  · obtain ⟨hname, hflat⟩ := mem_optionalMember hclient
    rw [hname]
    exact ⟨by simp [names], hflat⟩
  · exact ⟨by simp [names], trivial⟩
  · exact ⟨by simp [names], Tree.isFlat_optionString _⟩
  · exact ⟨by simp [names], Tree.isFlat_optionString _⟩
  · exact ⟨by simp [names], Tree.isFlat_optionString _⟩
  · exact ⟨by simp [names], Tree.isFlat_optionString _⟩
  · exact ⟨by simp [names], Tree.isFlat_int64 _⟩

/-- Only the members with the names of the shared fields are read. -/
theorem ofMembers?_congr {members other : Assoc Tree}
    (h : ∀ k ∈ names, Assoc.get? k members = Assoc.get? k other) :
  ofMembers? members = ofMembers? other
  := by
  simp only [names, List.forall_mem_cons] at h
  obtain ⟨h1, h2, h3, h4, h5, h6, h7, h8, h9, h10, -⟩ := h
  simp only [ofMembers?, Tree.member?, h1, h2, h3, h4, h5, h6, h7, h8, h9, h10]

theorem optional?_treeOfDate {date : Option Instant} (h : ∀ t, date = some t → t.IsValid) :
  Tree.optional? date? (treeOfDate date) = some (date.map Instant.settled)
  := by
  cases date with
  | none => rfl
  | some t =>
      have hread : date? (.string t.toText) = some t.settled := by
        rw [date?, Tree.string?, Option.bind_some, Instant.read?_toText (h t rfl)]
      rw [treeOfDate, Tree.optional?_optionString, Option.map_some, Option.elim_some, hread]
      rfl

/-- The members of the shared fields, by their names. -/
theorem get?_toMembers (b : BaseFields) :
  Assoc.get? "Id" b.toMembers = b.id.map (fun id => .string id.toText)
    ∧ Assoc.get? "Deleted" b.toMembers = some (.bool b.deleted)
    ∧ Assoc.get? "Archived" b.toMembers = some (.bool b.archived)
    ∧ Assoc.get? "ClientId" b.toMembers = b.clientId.map .string
    ∧ Assoc.get? "QuickSearchValue" b.toMembers = some (.string b.quickSearchValue)
    ∧ Assoc.get? "CreatedBy" b.toMembers = some (Tree.optionString b.createdBy)
    ∧ Assoc.get? "CreatedDate" b.toMembers = some (treeOfDate b.createdDate)
    ∧ Assoc.get? "UpdatedBy" b.toMembers = some (Tree.optionString b.updatedBy)
    ∧ Assoc.get? "UpdatedDate" b.toMembers = some (treeOfDate b.updatedDate)
    ∧ Assoc.get? "Version" b.toMembers = some (.int64 b.version)
  := by
  rw [toMembers]
  cases b.id with
  | none =>
      cases b.clientId with
      | none => simp [optionalMember, Assoc.ofList, Assoc.get?_insert, Assoc.get?]
      | some c => simp [optionalMember, Assoc.ofList, Assoc.get?_insert, Assoc.get?]
  | some id =>
      cases b.clientId with
      | none => simp [optionalMember, Assoc.ofList, Assoc.get?_insert, Assoc.get?]
      | some c => simp [optionalMember, Assoc.ofList, Assoc.get?_insert]

theorem optional?_string_optionString (s : Option String) :
  Tree.optional? Tree.string? (Tree.optionString s) = some s
  := by
  rw [Tree.optional?_optionString]
  cases s with
  | none => rfl
  | some s => rfl

/-- An id that is left out when it is absent is read back. -/
theorem member?_id {members : Assoc Tree} {id : Option ObjectId}
    (h : Assoc.get? "Id" members = id.map fun id => .string id.toText) :
  Tree.member? members "Id" none (Tree.optional? id?) = some id
  := by
  rw [Tree.member?, h]
  cases id with
  | none => rfl
  | some id =>
      have hread : id? (.string id.toText) = some id := by
        rw [id?, Tree.string?, Option.bind_some, ObjectId.read?_toText]
      change (id? (.string id.toText)).map some = _
      rw [hread]
      rfl

/-- A client that is left out when it is absent is read back. -/
theorem member?_clientId {members : Assoc Tree} {client : Option String}
    (h : Assoc.get? "ClientId" members = client.map .string) :
  Tree.member? members "ClientId" none (Tree.optional? Tree.string?) = some client
  := by
  rw [Tree.member?, h]
  cases client with
  | none => rfl
  | some c => rfl

/-- The shared fields are read back, with the instants that the dates show. -/
theorem ofMembers?_toMembers {b : BaseFields} (h : b.HasValidDates) :
  ofMembers? b.toMembers = some b.settled
  := by
  obtain ⟨hid, hdeleted, harchived, hclient, hsearch, hcreatedBy, hcreated, hupdatedBy, hupdated,
    hversion⟩ := b.get?_toMembers
  rw [ofMembers?, member?_id hid, member?_clientId hclient]
  simp only [Tree.member?, hdeleted, harchived, hsearch, hcreatedBy, hcreated, hupdatedBy,
    hupdated, hversion, Tree.bool?, Tree.string?, Tree.int64?_int64,
    optional?_string_optionString, optional?_treeOfDate h.created, optional?_treeOfDate h.updated]
  rfl

/-- A date that is read is shown as it is. -/
theorem settled_of_member? {members : Assoc Tree} {name : String} {date : Option Instant}
    (h : Tree.member? members name none (Tree.optional? date?) = some date) :
  (∀ t, date = some t → t.IsValid) ∧ date.map Instant.settled = date
  := by
  cases date with
  | none =>
      constructor
      · intro t ht
        cases ht
      · rfl
  | some t =>
      have hread : ∃ s, Instant.read? s = some t := by
        rw [Tree.member?] at h
        split at h
        · cases h
        · unfold Tree.optional? at h
          split at h
          · cases h
          · obtain ⟨t', hdate, ht'⟩ := Option.map_eq_some_iff.mp h
            cases ht'
            obtain ⟨s, -, hs⟩ := Option.bind_eq_some_iff.mp hdate
            use s
      obtain ⟨s, hs⟩ := hread
      obtain ⟨hvalid, hsettled⟩ := Instant.settled_of_read? hs
      constructor
      · intro t' ht'
        cases ht'
        apply hvalid
      · rw [Option.map_some, hsettled]

/-- Each field that is read is that of its member. -/
theorem member?_of_ofMembers? {members : Assoc Tree} {b : BaseFields}
    (h : ofMembers? members = some b) :
  Tree.member? members "Id" none (Tree.optional? id?) = some b.id
    ∧ Tree.member? members "Deleted" false Tree.bool? = some b.deleted
    ∧ Tree.member? members "Archived" false Tree.bool? = some b.archived
    ∧ Tree.member? members "ClientId" none (Tree.optional? Tree.string?) = some b.clientId
    ∧ Tree.member? members "QuickSearchValue" "" Tree.string? = some b.quickSearchValue
    ∧ Tree.member? members "CreatedBy" none (Tree.optional? Tree.string?) = some b.createdBy
    ∧ Tree.member? members "CreatedDate" none (Tree.optional? date?) = some b.createdDate
    ∧ Tree.member? members "UpdatedBy" none (Tree.optional? Tree.string?) = some b.updatedBy
    ∧ Tree.member? members "UpdatedDate" none (Tree.optional? date?) = some b.updatedDate
    ∧ Tree.member? members "Version" 0 Tree.int64? = some b.version
  := by
  rw [ofMembers?] at h
  obtain ⟨id, hid, h⟩ := Option.bind_eq_some_iff.mp h
  obtain ⟨deleted, hdeleted, h⟩ := Option.bind_eq_some_iff.mp h
  obtain ⟨archived, harchived, h⟩ := Option.bind_eq_some_iff.mp h
  obtain ⟨clientId, hclient, h⟩ := Option.bind_eq_some_iff.mp h
  obtain ⟨search, hsearch, h⟩ := Option.bind_eq_some_iff.mp h
  obtain ⟨createdBy, hcreatedBy, h⟩ := Option.bind_eq_some_iff.mp h
  obtain ⟨created, hcreated, h⟩ := Option.bind_eq_some_iff.mp h
  obtain ⟨updatedBy, hupdatedBy, h⟩ := Option.bind_eq_some_iff.mp h
  obtain ⟨updated, hupdated, h⟩ := Option.bind_eq_some_iff.mp h
  obtain ⟨version, hversion, h⟩ := Option.bind_eq_some_iff.mp h
  cases h
  exact ⟨hid, hdeleted, harchived, hclient, hsearch, hcreatedBy, hcreated, hupdatedBy, hupdated,
    hversion⟩

/-- The dates that are read are shown as they are, and the id is the one of the members. -/
theorem settled_of_ofMembers? {members : Assoc Tree} {b : BaseFields}
    (h : ofMembers? members = some b) :
  b.HasValidDates ∧ b.settled = b
    ∧ Tree.member? members "Id" none (Tree.optional? id?) = some b.id
  := by
  obtain ⟨hid, -, -, -, -, -, hcreated, -, hupdated, -⟩ := member?_of_ofMembers? h
  obtain ⟨hvalid, hsettled⟩ := settled_of_member? hcreated
  obtain ⟨hvalid', hsettled'⟩ := settled_of_member? hupdated
  use ⟨hvalid, hvalid'⟩
  rw [settled, hsettled, hsettled']
  exact ⟨rfl, hid⟩

/-! ### Stamping -/

variable {b : BaseFields} {user : String} {now : Instant} {g : ObjectId.Generator}

/-- Stamping keeps an id, or makes one. -/
theorem exists_id_stamp (b : BaseFields) (user : String) (now : Instant)
    (g : ObjectId.Generator) :
  ∃ id, (b.stamp user now g).base.id = some id
  := by
  cases h : b.id with
  | none => exact ⟨(g.next now).1, by simp [stamp, h]⟩
  | some id => exact ⟨id, by simp [stamp, h]⟩

/-- Stamping a record with an id keeps the id, and makes no other one. -/
theorem stamp_of_id {id : ObjectId} (hid : b.id = some id) :
  (b.stamp user now g).base.id = some id ∧ (b.stamp user now g).generator = g
  := by simp [stamp, hid]

/-- Stamping a record with an id and a date of creation changes what is noted of its last update
alone, and the record is not new. -/
theorem stamp_of_created {id : ObjectId} (hid : b.id = some id)
    (hcreated : b.createdDate.isSome = true) :
  b.stamp user now g = ⟨{ b with updatedBy := some user, updatedDate := some now }, false, g⟩
  := by
  have hnone : b.createdDate.isNone = false := by
    rw [Option.isNone_eq_false_iff, hcreated]
  simp [stamp, hid, hnone]

/-- Stamping at an instant that can be written leaves dates that can be written. -/
theorem HasValidDates.stamp (h : b.HasValidDates) (hnow : now.IsValid) :
  (b.stamp user now g).base.HasValidDates
  := by
  constructor
  · intro t ht
    change (if (b.id.isNone || b.createdDate.isNone) = true then _ else b).createdDate = some t at ht
    split at ht
    · cases ht
      apply hnow
    · apply h.created t ht
  · intro t ht
    cases ht
    apply hnow

end BaseFields

end AuditedStore
