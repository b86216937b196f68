import AuditedStore.Proofs.Record.Card

/-!
# Round trips of cards

A card with an id has a document, from which exactly the card is read, directly or after the
document was flattened and restored.  A card that is read from any document has a document too:
writing what was read gives a normal form, which is read as the same card and written as it is.
-/

namespace AuditedStore

open Json (Tree)

namespace BaseFields

/-- All dates can be written, and none of them is within a leap second. -/
structure HasPlainDates (b : BaseFields) : Prop extends b.HasValidDates where
  created_nanos_lt : ∀ t, b.createdDate = some t → t.nanos < Instant.nanosPerSecond
  updated_nanos_lt : ∀ t, b.updatedDate = some t → t.nanos < Instant.nanosPerSecond

theorem map_settled_eq_self {date : Option Instant}
    (h : ∀ t, date = some t → t.nanos < Instant.nanosPerSecond) :
  date.map Instant.settled = date
  := by
  cases date with
  | none => rfl
  | some t => exact congrArg some (Instant.settled_eq_self (h t rfl))

/-- Dates outside of leap seconds are shown as they are. -/
theorem HasPlainDates.settled_eq_self {b : BaseFields} (h : b.HasPlainDates) :
  b.settled = b
  := by
  rw [settled, map_settled_eq_self h.created_nanos_lt, map_settled_eq_self h.updated_nanos_lt]

end BaseFields

namespace Card

variable {c : Card} {d e : Document}

/-! ### Fields that count -/

/-- A card is read from the id and from the other fields of its own names. -/
theorem ofDocument_congr (hid : d.id = e.id) (hd : Assoc.Ascending d.fields)
    (he : Assoc.Ascending e.fields)
    (h : ∀ n ∈ "Name" :: "Limit" :: BaseFields.names, n ≠ recordIdField →
      Assoc.get? n d.fields = Assoc.get? n e.fields) :
  (Record.ofDocument d : Except Error Card) = Record.ofDocument e
  := by
  have hread : ofTree? (Record.treeOfDocument d) = ofTree? (Record.treeOfDocument e) := by
    simp only [Record.treeOfDocument, Document.set, Document.toTree, Value.toTree,
      Value.toMembers_eq_mapValues]
    apply ofTree?_congr
    intro n hn
    rw [((hd.insert _ _).mapValues _).filter_key, ((he.insert _ _).mapValues _).filter_key,
      Assoc.get?_mapValues, Assoc.get?_mapValues, Assoc.get?_insert, Assoc.get?_insert, hid]
    split
    · rfl
    · next hne => rw [h n hn hne]
  change ofTree _ = ofTree _
  rw [ofTree, ofTree, hread]

/-- A card is restored from a flattened document as it is read from the document itself. -/
theorem restore_toValue (hd : Assoc.Ascending d.fields) :
  AuditContainer.restore Card d.toValue = Record.ofDocument d
  := by
  have hvalue : Document.ofValue d.toValue = .ok ⟨d.id, Assoc.erase idField d.fields⟩ := by
    rw [Document.toValue, Document.ofValue, Assoc.get?_insert_self, Assoc.erase_insert_self]
  rw [AuditContainer.restore, hvalue, Except.bind]
  apply ofDocument_congr (by rfl) (hd.erase idField) hd
  -- No field of a card has the name under which the id is flattened.
  intro n hn _
  rw [Assoc.get?_erase, if_neg]
  rintro rfl
  revert hn
  decide

/-! ### Normal forms -/

/-- A card is read from a document, and restored from it after it was flattened. -/
structure IsReadFrom (c : Card) (d : Document) : Prop where
  read : Record.ofDocument d = .ok c
  restored : AuditContainer.restore Card d.toValue = .ok c

theorem isReadFrom_document {id : ObjectId} (hid : c.base.id = some id)
    (hdates : c.base.HasValidDates) (hsettled : c.settled = c) :
  c.IsReadFrom (c.document id)
  := by
  have hread := ofDocument_document hid hdates
  rw [hsettled] at hread
  exact ⟨hread, (restore_document id c).trans hread⟩

/-- The id of a card is not among the fields of its document. -/
theorem get?_recordIdField_document (id : ObjectId) (c : Card) :
  Assoc.get? recordIdField (c.document id).fields = none
  := by rw [document, Record.documentOfMembers, Assoc.get?_erase, if_pos rfl]

/-- What is written of the card that is read from a document. -/
def normalForm (d : Document) : Except Error Document :=
  (Record.ofDocument d : Except Error Card).bind Record.toDocument

/-- A card with an id is written under this id, which is then no field, and is read back as it is
if its dates are not within leap seconds.  Whatever document a card is read from, it is also
restored from the flattened document (the fields of a document ascend, as those of every map do);
and writing the card gives a normal form of the document: the same card is read from it, and it is
its own normal form. -/
theorem isReadFrom_toDocument :
  (∀ (c : Card) (id : ObjectId), c.base.id = some id →
      ∃ d, Record.toDocument c = .ok d ∧ d.id = id.toText
        ∧ Assoc.get? recordIdField d.fields = none
        ∧ (c.base.HasPlainDates → c.IsReadFrom d))
    ∧ ∀ (d : Document) (c : Card), Record.ofDocument d = .ok c →
      (Assoc.Ascending d.fields → c.IsReadFrom d)
      ∧ ∃ e, normalForm d = .ok e ∧ Record.toDocument c = .ok e ∧ c.IsReadFrom e
        ∧ normalForm e = .ok e
  := by
  constructor
  · intro c id hid
    refine ⟨c.document id, toDocument_eq hid, rfl, get?_recordIdField_document id c, fun hdates => ?_⟩
    apply isReadFrom_document hid hdates.toHasValidDates
    rw [settled, hdates.settled_eq_self]
  · intro d c hread
    obtain ⟨id, -, hid, hdates, hsettled⟩ := exists_id_of_ofDocument hread
    have hwritten : Record.toDocument c = .ok (c.document id) := toDocument_eq hid
    have hback := isReadFrom_document hid hdates hsettled
    refine ⟨fun hd => ⟨hread, (restore_toValue hd).trans hread⟩, c.document id, ?_, hwritten, hback,
      ?_⟩
    · rw [normalForm, hread]
      exact hwritten
    · rw [normalForm, hback.read]
      exact hwritten

/-- A document of an id in capitals, with a date of another time zone, a field that is not a
card's and one with the name of the flattened id. -/
def foreignDocument : Document :=
  ⟨"5F1A2B3C4D5E6F7A8B9C0D1E",
    [("ClientId", .null), ("CreatedDate", .string "1970-01-01T00:59:59.5+01:00"),
      ("Limit", .int (-3)), ("_id", .string "x"), ("color", .string "red")]⟩

/-- A card of a date before 1970 and a bare minimum of other fields, and a document that no manager
has written. -/
theorem isReadFrom_toDocument_foreign :
  ∃ (id : ObjectId) (c : Card), id.toText = "5f1a2b3c4d5e6f7a8b9c0d1e"
    ∧ c = ⟨{ id := some id, createdDate := some ⟨-1, 500000000⟩ }, "", -3⟩
    ∧ (∃ d, Record.toDocument c = .ok d ∧ d.id = id.toText ∧ c.IsReadFrom d)
    ∧ c.IsReadFrom foreignDocument
    ∧ ∃ e, normalForm foreignDocument = .ok e ∧ normalForm e = .ok e
  := by
  let id : ObjectId := ⟨[0x5f, 0x1a, 0x2b, 0x3c, 0x4d, 0x5e, 0x6f, 0x7a, 0x8b, 0x9c, 0x0d, 0x1e], rfl⟩
  let c : Card := ⟨{ id := some id, createdDate := some ⟨-1, 500000000⟩ }, "", -3⟩
  have hdates : c.base.HasPlainDates := by
    refine ⟨⟨?_, nofun⟩, ?_, nofun⟩
    · rintro t ⟨⟩
      exact ⟨by decide, by decide⟩
    · rintro t ⟨⟩
      decide
  have hread : Record.ofDocument foreignDocument = .ok c := by
    apply ofTree_eq_ok_iff.mpr
    decide +kernel
  have hfields : Assoc.Ascending foreignDocument.fields := by
    have hnames : ["ClientId", "CreatedDate", "Limit", "_id", "color"].Pairwise (· < ·) := by decide
    exact List.pairwise_map.mp hnames
  obtain ⟨hcards, hdocuments⟩ := isReadFrom_toDocument
  obtain ⟨d, hd, hid, -, hback⟩ := hcards c id rfl
  obtain ⟨hforeign, e, he, -, -, hnormal⟩ := hdocuments foreignDocument c hread
  exact ⟨id, c, by decide, rfl, ⟨d, hd, hid, hback hdates⟩, hforeign hfields, e, he, hnormal⟩

end Card

end AuditedStore
