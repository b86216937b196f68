import AuditedStore.Proofs.Record.RoundTrip
import AuditedStore.Proofs.Update

/-!
# Editing stored cards

A card is written in a document if the fields with the names of a card are those of the card, other
fields do not count.  Setting one of these fields to what another card has there writes the other
card, if the two differ in this field alone.  So updates that set the fields of a card are the
changes of the card that they are meant to be, one after the other.
-/

namespace AuditedStore

open Json (Tree)

/-- Setting a field of the document itself sets it, unless it has an equal value already. -/
theorem UpdateOp.apply_set_cases {name : String} (hpath : pathNames name = [name])
    (hid : name ≠ idField) (v : Value) (d : Document) :
  (UpdateOp.set name v).apply d = .ok (d.set name v, true)
    ∨ ∃ w, Assoc.get? name d.fields = some w ∧ (w == v) = true
      ∧ (UpdateOp.set name v).apply d = .ok (d, false)
  := by
  have hfield : d.fieldAt? name = Assoc.get? name d.fields := by
    rw [Document.fieldAt?, hpath, Fields.at?]
  have hset : d.setAt? name v = some (d.set name v) := by
    rw [Document.setAt?, hpath, Fields.setAt?, Option.map_some, Document.set]
  simp only [apply, setValue, if_neg hid, hfield, hset]
  cases hw : Assoc.get? name d.fields with
  | none => exact Or.inl rfl
  | some w =>
      cases hequal : w == v with
      | true => exact Or.inr ⟨w, rfl, hequal, by simp [hequal]⟩
      | false => exact Or.inl (by simp [hequal])

namespace Card

/-- The names of the fields of a card. -/
def names : List String := "Name" :: "Limit" :: BaseFields.names

variable {c c' c'' : Card} {id : ObjectId} {d : Document}

/-- A card is written in a document. -/
structure IsWrittenIn (c : Card) (id : ObjectId) (d : Document) : Prop where
  id_eq : d.id = id.toText
  ascending : Assoc.Ascending d.fields
  get?_eq : ∀ n ∈ names, n ≠ recordIdField →
    Assoc.get? n d.fields = (Assoc.get? n c.members).map Value.ofTree

theorem ascending_document (id : ObjectId) (c : Card) :
  Assoc.Ascending (c.document id).fields
  := by
  rw [document, Record.documentOfMembers, Value.ofMembers_eq_mapValues]
  apply (c.ascending_members.mapValues _).erase

theorem isWrittenIn_document (id : ObjectId) (c : Card) :
  c.IsWrittenIn id (c.document id)
  where
  id_eq := rfl
  ascending := c.ascending_document id
  get?_eq _ _ hne := get?_document hne id c

/-- Other fields do not count for the card that is written. -/
theorem IsWrittenIn.set_of_notMem (h : c.IsWrittenIn id d) {name : String} (hname : name ∉ names)
    (v : Value) :
  c.IsWrittenIn id (d.set name v)
  where
  id_eq := h.id_eq
  ascending := h.ascending.insert name v
  get?_eq n hn hne := by
    have hother : n ≠ name := fun heq => hname (heq ▸ hn)
    rw [Document.set, Assoc.get?_insert, if_neg hother, h.get?_eq n hn hne]

/-- A card that is written is read. -/
theorem IsWrittenIn.ofDocument (h : c.IsWrittenIn id d) (hid : c.base.id = some id)
    (hdates : c.base.HasValidDates) (hsettled : c.settled = c) :
  Record.ofDocument d = .ok c
  := by
  have hread := (isReadFrom_document hid hdates hsettled).read
  rw [← hread]
  apply ofDocument_congr h.id_eq h.ascending (c.ascending_document id)
  intro n hn hne
  rw [h.get?_eq n hn hne, get?_document hne]

/-! ### Setting fields -/

/-- Two cards differ at most in one member. -/
def DiffersAt (name : String) (t : Tree) (c c' : Card) : Prop :=
  ∀ n ∈ names, Assoc.get? n c'.members = if n = name then some t else Assoc.get? n c.members

/-- An update of documents in which one card is written writes another one. -/
def Rewrites (u : Update) (c c' : Card) : Prop :=
  ∀ id d, c.IsWrittenIn id d → ∃ e changed, u.run d = (e, .ok changed) ∧ c'.IsWrittenIn id e

theorem Rewrites.nil (c : Card) :
  Rewrites [] c c
  := fun _ _ h => ⟨_, _, rfl, h⟩

/-- Setting the field in which two cards differ writes the other one. -/
theorem IsWrittenIn.apply_set (h : c.IsWrittenIn id d) {name : String} {t : Tree}
    (hname : name ∈ names ∧ name ≠ recordIdField ∧ name ≠ idField ∧ pathNames name = [name])
    (ht : t.IsFlat) (hdiffers : DiffersAt name t c c') :
  ∃ e changed, (UpdateOp.set name (.ofTree t)).apply d = .ok (e, changed) ∧ c'.IsWrittenIn id e
  := by
  obtain ⟨hmem, hrecord, hid, hpath⟩ := hname
  rcases UpdateOp.apply_set_cases hpath hid (.ofTree t) d with hset | ⟨w, hw, hequal, hkept⟩
  · refine ⟨_, _, hset, h.id_eq, h.ascending.insert _ _, fun n hn hne => ?_⟩
    rw [Document.set, Assoc.get?_insert, hdiffers n hn]
    split
    · rfl
    · exact h.get?_eq n hn hne
  · -- What is there already is the same tree, so that the cards do not differ.
    refine ⟨_, _, hkept, h.id_eq, h.ascending, fun n hn hne => ?_⟩
    rw [h.get?_eq n hn hne, hdiffers n hn]
    split
    · next heq =>
        rw [h.get?_eq name hmem hrecord] at hw
        obtain ⟨u, hu, rfl⟩ := Option.map_eq_some_iff.mp hw
        have hflat : u.IsFlat := (mem_members (Assoc.mem_of_get? hu)).2
        rw [heq, hu, Value.eq_of_beq_ofTree hflat ht hequal]
    · rfl

theorem Rewrites.cons {name : String} {t : Tree} {u : Update} (h : Rewrites u c' c'')
    (hdiffers : DiffersAt name t c c') (ht : t.IsFlat)
    (hname : name ∈ names ∧ name ≠ recordIdField ∧ name ≠ idField ∧ pathNames name = [name]) :
  Rewrites (.set name (.ofTree t) :: u) c c''
  := by
  intro id d hd
  obtain ⟨e, changed, happly, he⟩ := hd.apply_set hname ht hdiffers
  obtain ⟨f, changed', hrun, hf⟩ := h id e he
  refine ⟨f, changed || changed', ?_, hf⟩
  rw [Update.run_cons_of_done happly, hrun]
  rfl

/-! ### The fields that are set -/

theorem differsAt_name (s : String) (c : Card) :
  DiffersAt "Name" (.string s) c { c with name := s }
  := by
  intro n _
  simp only [members, Assoc.get?_insert]
  split
  · rfl
  · rfl

theorem differsAt_limit (i : Int64) (c : Card) :
  DiffersAt "Limit" (.int64 i) c { c with limit := i }
  := by
  intro n _
  simp only [members, Assoc.get?_insert]
  split
  · next hname =>
      rw [hname, if_neg (by decide)]
  · split
    · rfl
    · rfl

/-- The members of a card differ where those of the shared fields do. -/
theorem DiffersAt.of_base {name : String} (hname : name ≠ "Name" ∧ name ≠ "Limit") {t : Tree}
    {b : BaseFields}
    (h : ∀ n ∈ BaseFields.names, Assoc.get? n b.toMembers
      = if n = name then some t else Assoc.get? n c.base.toMembers) :
  DiffersAt name t c { c with base := b }
  := by
  intro n hn
  simp only [members, Assoc.get?_insert]
  split
  · next heq => rw [heq, if_neg hname.1.symm]
  · next hne =>
      split
      · next heq => rw [heq, if_neg hname.2.symm]
      · next hne' =>
          apply h
          simpa [names, hne, hne'] using hn

theorem differsAt_updatedDate (now : Instant) (c : Card) :
  DiffersAt "UpdatedDate" (.string now.toText) c
    { c with base := { c.base with updatedDate := some now } }
  := by
  apply DiffersAt.of_base (by decide)
  simp [BaseFields.names, BaseFields.get?_toMembers, BaseFields.treeOfDate, Tree.optionString]

theorem differsAt_updatedBy (user : String) (c : Card) :
  DiffersAt "UpdatedBy" (.string user) c
    { c with base := { c.base with updatedBy := some user } }
  := by
  apply DiffersAt.of_base (by decide)
  simp [BaseFields.names, BaseFields.get?_toMembers, Tree.optionString]

end Card

/-- A change of the name or of the limit of a card. -/
inductive CardEdit where
  | name (s : String)
  | limit (i : Int64)

namespace CardEdit

/-- The card after a change. -/
def apply (c : Card) : CardEdit → Card
  | name s => { c with name := s }
  | limit i => { c with limit := i }

/-- The operation on the document that makes a change. -/
def op : CardEdit → UpdateOp
  | name s => .set "Name" (.string s)
  | limit i => .set "Limit" (.int i)

theorem base_foldl_apply (edits : List CardEdit) (c : Card) :
  (edits.foldl apply c).base = c.base
  := by
  induction edits generalizing c with
  | nil => rfl
  | cons edit edits ih =>
      rw [List.foldl_cons, ih]
      cases edit with
      | name s => rfl
      | limit i => rfl

end CardEdit

namespace Card

variable {c c' : Card}

/-- The operations of changes rewrite the card, ahead of another update. -/
theorem Rewrites.edits (edits : List CardEdit) {u : Update}
    (h : Rewrites u (edits.foldl CardEdit.apply c) c') :
  Rewrites (edits.map CardEdit.op ++ u) c c'
  := by
  induction edits generalizing c with
  | nil => exact h
  | cons edit edits ih =>
      rw [List.map_cons, List.cons_append]
      cases edit with
      | name s =>
          rw [CardEdit.op, ← Value.ofTree_string]
          exact (ih h).cons (differsAt_name s c) trivial (by decide)
      | limit i =>
          rw [CardEdit.op, ← Value.ofTree_int64]
          exact (ih h).cons (differsAt_limit i c) (Tree.isFlat_int64 i) (by decide)

/-- The card after another update by a user. -/
def touch (c : Card) (user : String) (now : Instant) : Card :=
  { c with base := { c.base with updatedBy := some user, updatedDate := some now } }

/-- The operations that stamp an update rewrite the card. -/
theorem rewrites_stamp (user : String) (now : Instant) (c : Card) :
  Rewrites [.set "UpdatedDate" (.string now.toText), .set "UpdatedBy" (.string user)] c
    (c.touch user now)
  := by
  rw [← Value.ofTree_string, ← Value.ofTree_string]
  apply Rewrites.cons _ (differsAt_updatedDate now c) trivial (by decide)
  exact (Rewrites.nil _).cons (differsAt_updatedBy user _) trivial (by decide)

end Card

end AuditedStore
