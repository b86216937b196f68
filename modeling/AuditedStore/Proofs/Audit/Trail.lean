import AuditedStore.Proofs.Audit.Reading
import AuditedStore.Proofs.Store.Embedded
import Mathlib.Data.List.Forall2
import Mathlib.Data.List.Induction

/-!
# Trails of documents

What a run of recordings leaves in a store.  The trail of an id in a collection depends only
on the calls for that id in that collection; each call adds its document and then keeps as
many of the newest as it asks for.
-/

namespace AuditedStore

/-! ### Reading a trail -/

namespace AuditTrail

open LawfulStore

variable {σ : Type} [DocumentStore σ] [LawfulStore σ] {s : σ}

/-- The whole trail is read newest first, of which a window is given. -/
theorem exec_full {α : Type} [Record α] {name id : String} {vs : List Value} {items : List α}
    (hs : Valid s) (hl : lookup? s name id = AuditContainer.stored? id vs)
    (h : List.Forall₂ (fun v a => AuditContainer.restore α v = .ok a) vs items)
    (startAt pageSize : Nat) :
  StoreM.exec (full α name id startAt pageSize) s
    = (.ok {
        results := (items.reverse.drop startAt).take pageSize
        totalCount := items.length, pageSize, startAt }, s)
  := by
  have hheld : AuditContainer.held (lookup? s name id) = .ok vs := by
    rw [hl, AuditContainer.held_stored?]
  have hitems := AuditContainer.records_eq_ok_iff.mpr ⟨vs, hheld, mapM_eq_ok_iff.mpr h⟩
  exact (exec_full_eq_ok_iff hs).mpr ⟨rfl, items, hitems, rfl⟩

end AuditTrail

/-! ### Calls -/

/-- A call that records a document. -/
structure RecordCall where
  collection : String
  doc : Document
  /-- How many documents are kept; zero means all. -/
  cap : Nat

namespace RecordCall

/-- Whether a call records for an id of a collection. -/
def isFor (name id : String) (c : RecordCall) : Bool := c.collection == name && c.doc.id == id

/-- Adds the document of a call to a trail. -/
def extend (trail : List Document) (c : RecordCall) : List Document :=
  keepNewest c.cap (trail ++ [c.doc])

/-- The trail that calls leave for an id of a collection, the oldest document first. -/
def trailOf (name id : String) (calls : List RecordCall) : List Document :=
  (calls.filter (isFor name id)).foldl extend []

/-- The documents that calls record for an id of a collection. -/
def documentsOf (name id : String) (calls : List RecordCall) : List Document :=
  (calls.filter (isFor name id)).map doc

/-- Does calls in turn, up to the first that fails. -/
def recordAll {σ : Type} [DocumentStore σ] (calls : List RecordCall) : StoreM σ Unit :=
  calls.forM fun c => AuditTrail.record c.collection c.doc c.cap

/-- A trail has the last of the recorded documents. -/
theorem foldl_extend_suffix (calls : List RecordCall) :
  calls.foldl extend [] <:+ calls.map doc
  := by
  induction calls using List.reverseRecOn with
  | nil => apply List.nil_suffix
  | append_singleton calls c ih =>
      rw [List.foldl_append, List.map_append]
      have hkeep : keepNewest c.cap (calls.foldl extend [] ++ [c.doc])
          <:+ calls.foldl extend [] ++ [c.doc] := by
        rw [keepNewest]
        split
        · apply List.suffix_rfl
        · apply List.drop_suffix
      apply hkeep.trans
      obtain ⟨older, holder⟩ := ih
      use older
      rw [← List.append_assoc, holder]
      rfl

/-- If all calls keep the same number, they keep the newest of all documents. -/
theorem foldl_extend_eq {calls : List RecordCall} {k : Nat} (h : ∀ c ∈ calls, c.cap = k) :
  calls.foldl extend [] = keepNewest k (calls.map doc)
  := by
  induction calls using List.reverseRecOn with
  | nil => simp [keepNewest]
  | append_singleton calls c ih =>
      have hc : c.cap = k := h c (by simp)
      have hcalls := ih fun c hc => h c (by simp [hc])
      rw [List.foldl_append, List.map_append, hcalls, List.foldl_cons, List.foldl_nil, extend, hc,
        keepNewest_keepNewest_append]
      rfl

/-! ### Runs of calls -/

open LawfulStore

variable {σ : Type} [DocumentStore σ] [LawfulStore σ] {s : σ}

/-- A store that has exactly the containers of some trails. -/
def Holds (trails : String → String → List Document) (s : σ) : Prop :=
  ∀ name id,
    lookup? s name id = AuditContainer.stored? id ((trails name id).map Document.toValue)

/-- The trails after a call. -/
def extendIn (trails : String → String → List Document) (c : RecordCall) (name id : String) :
    List Document :=
  if c.isFor name id then extend (trails name id) c else trails name id

theorem extendIn_self (trails : String → String → List Document) (c : RecordCall) :
  extendIn trails c c.collection c.doc.id = extend (trails c.collection c.doc.id) c
  := by simp [extendIn, isFor]

theorem extendIn_of_ne (trails : String → String → List Document) {c : RecordCall}
    {name id : String} (h : ¬ (name = c.collection ∧ id = c.doc.id)) :
  extendIn trails c name id = trails name id
  := by
  apply if_neg
  rw [isFor, Bool.and_eq_true, beq_iff_eq, beq_iff_eq]
  rintro ⟨rfl, rfl⟩
  exact h ⟨rfl, rfl⟩

/-- The container of an extended trail has one snapshot more, and at most `cap`. -/
theorem stored?_extend (trail : List Document) (c : RecordCall) :
  AuditContainer.stored? c.doc.id ((extend trail c).map Document.toValue)
    = some ((Recording.ofDocument c.collection c.doc c.cap).result (trail.map Document.toValue))
  := by
  rw [extend, map_keepNewest, List.map_append]
  apply AuditContainer.stored?_of_ne_nil
  apply keepNewest_append_singleton_ne_nil

/-- One call succeeds, and extends the trail that it is for. -/
theorem exec_record {trails : String → String → List Document} (hs : Valid s)
    (htrails : Holds trails s) {c : RecordCall} (ha : Accepts σ c.collection) :
  ∃ t, StoreM.exec (AuditTrail.record c.collection c.doc c.cap) s = (.ok (), t)
    ∧ Valid t ∧ Holds (extendIn trails c) t
  := by
  obtain ⟨t, ht, hvalid, hputs⟩ := Recording.exec_run
    (r := Recording.ofDocument c.collection c.doc c.cap) hs ha (htrails c.collection c.doc.id)
  refine ⟨t, ht, hvalid, ?_⟩
  intro name id
  by_cases hfor : name = c.collection ∧ id = c.doc.id
  · obtain ⟨rfl, rfl⟩ := hfor
    rw [extendIn_self, stored?_extend]
    apply hputs.lookup?_self
  · rw [extendIn_of_ne trails hfor, ← htrails]
    apply hputs.lookup?_of_ne hfor

/-- The trails after calls. -/
def extendAll (trails : String → String → List Document) (calls : List RecordCall)
    (name id : String) : List Document :=
  (calls.filter (isFor name id)).foldl extend (trails name id)

theorem extendAll_cons (trails : String → String → List Document) (c : RecordCall)
    (calls : List RecordCall) :
  extendAll trails (c :: calls) = extendAll (extendIn trails c) calls
  := by
  funext name id
  rw [extendAll, extendAll, extendIn, List.filter_cons]
  split
  · rfl
  · rfl

/-- A run of calls succeeds, and extends every trail by the calls for it alone. -/
theorem exec_recordAll {trails : String → String → List Document} {calls : List RecordCall}
    (hs : Valid s) (htrails : Holds trails s) (ha : ∀ c ∈ calls, Accepts σ c.collection) :
  ∃ t, StoreM.exec (recordAll calls) s = (.ok (), t)
    ∧ Valid t ∧ Holds (extendAll trails calls) t
  := by
  induction calls generalizing s trails with
  | nil => exact ⟨s, rfl, hs, htrails⟩
  | cons c calls ih =>
      obtain ⟨hac, hacalls⟩ := List.forall_mem_cons.mp ha
      obtain ⟨t, ht, hvalid, hholds⟩ := exec_record hs htrails hac
      obtain ⟨t', ht', hvalid', hholds'⟩ := ih hvalid hholds hacalls
      rw [← extendAll_cons] at hholds'
      refine ⟨t', ?_, hvalid', hholds'⟩
      calc StoreM.exec (recordAll (c :: calls)) s
          = StoreM.exec (recordAll calls) t := StoreM.exec_bind_ok ht
        _ = (.ok (), t') := ht'

theorem holds_emptyStore (l : Location) :
  Holds (fun _ _ => []) l.emptyStore
  := by
  intro name id
  rw [lookup?, l.documents_emptyStore]
  rfl

/-- Every run of recordings over an empty store succeeds.  Afterwards the container of each id
of a collection has the trail of the calls for it, and reading the trail gives the documents
as they were recorded, newest first.  If these calls all keep the same number of documents,
the trail has that many of the last ones. -/
theorem recordAll_emptyStore (l : Location) (calls : List RecordCall)
    (hnames : ∀ c ∈ calls, SortedStore.isReserved c.collection = false)
    (hids : ∀ c ∈ calls, Assoc.get? idField c.doc.fields = none) :
  ∃ s, StoreM.exec (recordAll calls) l.emptyStore = (.ok (), s)
    ∧ ∀ name id,
      Document.withId? id (s.documents name)
          = AuditContainer.stored? id ((trailOf name id calls).map Document.toValue)
      ∧ (∀ startAt pageSize,
          StoreM.exec (AuditTrail.full Document name id startAt pageSize) s
            = (.ok {
                results := ((trailOf name id calls).reverse.drop startAt).take pageSize
                totalCount := (trailOf name id calls).length, pageSize, startAt }, s))
      ∧ (∀ k, 1 ≤ k → (∀ c ∈ calls, c.isFor name id → c.cap = k) →
          trailOf name id calls
              = (documentsOf name id calls).drop ((documentsOf name id calls).length - k)
            ∧ (trailOf name id calls).length = min (documentsOf name id calls).length k)
  := by
  obtain ⟨s, hexec, hvalid, hholds⟩ :=
    exec_recordAll l.valid_emptyStore (holds_emptyStore l) hnames
  refine ⟨s, hexec, fun name id => ⟨hholds name id, ?_, ?_⟩⟩
  · intro startAt pageSize
    apply AuditTrail.exec_full hvalid (hholds name id)
    apply List.forall₂_map_left_iff.mpr
    apply List.forall₂_same.mpr
    intro d hd
    obtain ⟨c, hc, rfl⟩ := List.mem_map.mp ((foldl_extend_suffix _).subset hd)
    rw [AuditContainer.restore, Document.ofValue_toValue (hids c (List.mem_of_mem_filter hc))]
    rfl
  · intro k hk hcap
    have htrail : trailOf name id calls = keepNewest k (documentsOf name id calls) := by
      apply foldl_extend_eq
      intro c hc
      obtain ⟨hmem, hfor⟩ := List.mem_filter.mp hc
      apply hcap c hmem hfor
    have hne : k ≠ 0 := Nat.one_le_iff_ne_zero.mp hk
    constructor
    · rw [htrail, keepNewest, if_neg hne]
    · rw [htrail, length_keepNewest hne]

/-- Three versions of a document are recorded, at last with only two kept. -/
theorem recordAll_three_versions :
  ∃ s,
    StoreM.exec
        (recordAll
          [ ⟨"trails", ⟨"a", []⟩, 0⟩,
            ⟨"trails", ⟨"a", [("n", .int 1)]⟩, 0⟩,
            ⟨"trails", ⟨"a", [("n", .int 2)]⟩, 2⟩ ])
        (Location.memory "db").emptyStore
      = (.ok (), s)
    ∧ StoreM.exec (AuditTrail.full Document "trails" "a" 0 9) s
      = (.ok {
          results := [⟨"a", [("n", .int 2)]⟩, ⟨"a", [("n", .int 1)]⟩]
          totalCount := 2, pageSize := 9, startAt := 0 }, s)
  := by
  obtain ⟨s, hexec, htrails⟩ := recordAll_emptyStore (.memory "db")
    [ ⟨"trails", ⟨"a", []⟩, 0⟩,
      ⟨"trails", ⟨"a", [("n", .int 1)]⟩, 0⟩,
      ⟨"trails", ⟨"a", [("n", .int 2)]⟩, 2⟩ ]
    (by decide) (by simp [idField, Assoc.get?])
  obtain ⟨-, hfull, -⟩ := htrails "trails" "a"
  exact ⟨s, hexec, hfull 0 9⟩

end RecordCall

end AuditedStore
