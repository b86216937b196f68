import AuditedStore.Proofs.Query.Selection
import AuditedStore.Proofs.Search.Reading
import AuditedStore.Proofs.Store.Embedded
import AuditedStore.Proofs.Text

/-!
# Pages of a search

The pages of a search over a store that does not change are windows of one list: the documents
that satisfy the request, sorted in a stable way.  So pages that follow one another lose and
repeat nothing, and each tells the number of all.
-/

namespace AuditedStore

/-! ### Stable sorting -/

namespace SortSpec

/-- A list of documents that is sorted in a stable way: it has the same documents, none stands
before one that it must follow, and those that agree with a document stand as they stood. -/
structure IsSorted (spec : SortSpec) (docs sorted : List Document) : Prop where
  perm : sorted.Perm docs
  ordered : sorted.Pairwise fun a b => spec.compare a b ≠ .gt
  ties : ∀ d, (sorted.filter fun e => spec.compare d e == .eq)
    = docs.filter fun e => spec.compare d e == .eq

/-- Documents that agree with a third one agree. -/
theorem compare_eq_eq_of_agree {spec : SortSpec} {a b d : Document}
    (ha : spec.compare d a = .eq) (hb : spec.compare d b = .eq) :
  spec.compare a b = .eq
  := Std.TransCmp.eq_trans (Std.OrientedCmp.eq_symm ha) hb

theorem isSorted_sort (spec : SortSpec) (docs : List Document) :
  spec.IsSorted docs (spec.sort docs)
  := by
  constructor
  · apply spec.sort_perm
  · apply (spec.pairwise_sort docs).imp
    intro a b hab
    apply Ordering.isLE_iff_ne_gt.mp hab
  · intro d
    let agrees (e : Document) : Bool := spec.compare d e == .eq
    -- Documents that agree are in order however they stand, so sorting moves none past another.
    have hordered : (docs.filter agrees).Pairwise fun a b => (spec.compare a b).isLE := by
      apply List.pairwise_of_forall_mem_list
      intro a ha b hb
      rw [compare_eq_eq_of_agree (eq_of_beq (List.mem_filter.mp ha).2)
        (eq_of_beq (List.mem_filter.mp hb).2)]
      rfl
    have hsublist : (docs.filter agrees).Sublist ((spec.sort docs).filter agrees) := by
      have h := (sublist_sort hordered List.filter_sublist).filter agrees
      simpa only [List.filter_filter, Bool.and_self] using h
    symm
    apply hsublist.eq_of_length
    apply ((spec.sort_perm docs).filter agrees).length_eq.symm

/-- Documents of which no two agree are sorted in one way only. -/
theorem IsSorted.eq_of_strict {spec : SortSpec} {docs sorted expected : List Document}
    (h : spec.IsSorted docs sorted) (hperm : expected.Perm docs)
    (hstrict : expected.Pairwise fun a b => spec.compare a b = .lt) :
  sorted = expected
  := by
  have hne : expected.Pairwise fun a b => spec.compare a b ≠ .eq := by
    apply hstrict.imp
    intro a b hlt heq
    cases hlt.symm.trans heq
  have hsymm : Std.Symm fun a b => spec.compare a b ≠ .eq :=
    ⟨fun _ _ hab hba => hab (Std.OrientedCmp.eq_symm hba)⟩
  have hordered : expected.Pairwise fun a b => spec.compare a b ≠ .gt := by
    apply hstrict.imp
    intro a b hlt hgt
    cases hlt.symm.trans hgt
  have hsame : sorted.Perm expected := h.perm.trans hperm.symm
  apply hsame.eq_of_pairwise _ h.ordered hordered
  intro a b ha hb hab hba
  by_contra hdiffer
  have heq : spec.compare a b = .eq := Std.OrientedCmp.isLE_antisymm
    (Ordering.isLE_iff_ne_gt.mpr hab) (Ordering.isLE_iff_ne_gt.mpr hba)
  exact hne.forall (hsame.mem_iff.mp ha) hb hdiffer heq

/-- A blank text asks for no order. -/
theorem read?_of_isBlank {text : String} (h : Text.isBlank text = true) (kind : SchemaKind) :
  read? kind text = none
  := by
  have hkeys : (Text.split ',' text).filterMap (readKey? kind) = [] := by
    apply List.filterMap_eq_nil_iff.mpr
    intro clause hclause
    rw [readKey?, Text.words_of_isBlank (Text.isBlank_of_mem_split h hclause)]
  rw [read?, hkeys]

end SortSpec

/-! ### Windows -/

/-- Windows of one size that follow one another are the front of the list. -/
theorem flatMap_windows {α : Type} (items : List α) (size count : Nat) :
  ((List.range count).flatMap fun i => (items.drop (i * size)).take size)
    = items.take (count * size)
  := by
  induction count with
  | zero => simp
  | succ count ih =>
      rw [List.range_succ, List.flatMap_append, ih, Nat.succ_mul, List.take_add]
      simp

namespace SearchRequest

variable {r : SearchRequest} {kind : SchemaKind}

/-- The page of a request is taken from documents in the order that its text says. -/
theorem sort_options (r : SearchRequest) (kind : SchemaKind) :
  (r.options kind).sort = (r.sort.bind (SortSpec.read? kind)).getD []
  := rfl

/-- A request with a blank order, or with none, asks for no order. -/
theorem read?_sort_of_isBlank (h : ∀ text, r.sort = some text → Text.isBlank text = true) :
  r.sort.bind (SortSpec.read? kind) = none
  := by
  cases hsort : r.sort with
  | none => rfl
  | some text => rw [Option.bind_some, SortSpec.read?_of_isBlank (h text hsort)]

end SearchRequest

namespace Search

open LawfulStore

/-- The results on the first pages, one after the other. -/
def resultsOfPages {α : Type} (page : Nat → SearchResult α) (pageSize count : Nat) : List α :=
  (List.range count).flatMap fun i => (page (i * pageSize)).results

/-- The documents of a collection that satisfy a predicate, in their natural order. -/
def matching {σ : Type} [DocumentStore σ] [LawfulStore σ] (s : σ) (collection : String)
    (p : Predicate) : List Document :=
  (documents s collection).filter fun d => p.holds d

section Pages

variable {σ : Type} [DocumentStore σ] [LawfulStore σ] {s : σ} {r : SearchRequest}
  {kind : SchemaKind} {p : Predicate}

/-- Documents are read as they are. -/
theorem mapM_ofDocument (docs : List Document) :
  docs.mapM Record.ofDocument = (.ok docs : Except Error (List Document))
  := by
  have hpure : docs.mapM (fun d => (pure d : Except Error Document)) = pure (docs.map id) :=
    List.mapM_pure
  rw [List.map_id] at hpure
  apply hpure

/-- A search for documents gives a window of the sorted documents that satisfy its request, and
their number. -/
theorem exec_run_document (hs : Valid s) (collection : String) (hp : r.predicate kind = .ok p) :
  (run Document collection r kind).exec s
    = (.ok {
        results := ((((r.sort.bind (SortSpec.read? kind)).getD []).sort
          (matching s collection p)).drop r.startAt).take r.pageSize
        totalCount := (matching s collection p).length
        pageSize := r.pageSize, startAt := r.startAt
        sort := r.sort, term := r.term, filter := r.filter }, s)
  := by
  rw [exec_run_eq hs hp (mapM_ofDocument _), SearchRequest.select_options, r.sort_options,
    List.countP_eq_length_filter]
  rfl

end Pages

/-- The pages of a search over an unchanged store: each tells the number of the documents that
satisfy the request and holds as many of them as fit and are left; and as soon as there are
enough pages for all, the pages one after the other are these documents, sorted in a stable
way by the order that is read from the text of the request, or in their natural order if it has
none or a blank one. -/
theorem exec_run_pages (l : Location) {s : EmbeddedStore} (hs : Reaches l.emptyStore s)
    (collection : String) (r : SearchRequest) (kind : SchemaKind) {p : Predicate}
    (hp : r.predicate kind = .ok p) (pageSize : Nat) :
  ∃ page : Nat → SearchResult Document,
    (∀ start,
      (run Document collection { r with startAt := start, pageSize := pageSize } kind).exec s
          = (.ok (page start), s)
      ∧ (page start).totalCount = (matching s collection p).length
      ∧ (page start).results.length = min pageSize ((matching s collection p).length - start))
    ∧ ∀ count, (matching s collection p).length ≤ count * pageSize →
        ((r.sort.bind (SortSpec.read? kind)).getD []).IsSorted (matching s collection p)
          (resultsOfPages page pageSize count)
        ∧ ((∀ text, r.sort = some text → Text.isBlank text = true) →
            resultsOfPages page pageSize count = matching s collection p)
  := by
  let spec := (r.sort.bind (SortSpec.read? kind)).getD []
  let sorted := spec.sort (matching s collection p)
  have hsorted := spec.isSorted_sort (matching s collection p)
  have hlength : sorted.length = (matching s collection p).length := hsorted.perm.length_eq
  have hexec (start : Nat) := exec_run_document (hs.valid l.valid_emptyStore) collection
    (r := { r with startAt := start, pageSize := pageSize }) hp
  refine ⟨fun start => {
    results := (sorted.drop start).take pageSize
    totalCount := (matching s collection p).length
    pageSize, startAt := start, sort := r.sort, term := r.term, filter := r.filter },
    fun start => ⟨hexec start, rfl, ?_⟩, ?_⟩
  · rw [List.length_take, List.length_drop, hlength]
  · intro count hcount
    have hall : sorted.take (count * pageSize) = sorted := by
      apply List.take_of_length_le
      rw [hlength]
      apply hcount
    rw [resultsOfPages, flatMap_windows, hall]
    use hsorted
    intro hblank
    have hnone : spec = [] := by
      rw [show spec = (r.sort.bind (SortSpec.read? kind)).getD [] from rfl,
        SearchRequest.read?_sort_of_isBlank hblank, Option.getD_none]
    rw [show sorted = spec.sort (matching s collection p) from rfl, hnone, sort_nil]

/-- Three cards with the numbers 1, 3 and 2, on pages of two in descending order of the number: the
pages give them as 3, 2 and 1. -/
theorem exec_run_pages_three_documents :
  ∃ (s : EmbeddedStore) (page : Nat → SearchResult Document),
    Reaches (Location.directory true ["data"]).emptyStore s
    ∧ matching s "cards" .all
        = [⟨"a", [("n", .int 1)]⟩, ⟨"b", [("n", .int 3)]⟩, ⟨"c", [("n", .int 2)]⟩]
    ∧ (∀ start,
        (run Document "cards"
            { sort := some "n desc", ignoreDeleted := true, ignoreArchived := true
              startAt := start, pageSize := 2 } .dynamic).exec s
          = (.ok (page start), s))
    ∧ (page 0).results.length = 2 ∧ (page 2).results.length = 1 ∧ (page 4).results.length = 0
    ∧ resultsOfPages page 2 2
        = [⟨"b", [("n", .int 3)]⟩, ⟨"c", [("n", .int 2)]⟩, ⟨"a", [("n", .int 1)]⟩]
  := by
  obtain ⟨s, hreach, hdocs⟩ : ∃ s, Reaches (Location.directory true ["data"]).emptyStore s
      ∧ matching s "cards" .all
        = [⟨"a", [("n", .int 1)]⟩, ⟨"b", [("n", .int 3)]⟩, ⟨"c", [("n", .int 2)]⟩] := by
    have hempty : Reaches (Location.directory true ["data"]).emptyStore _ := .start
    have hreach := ((hempty.command (.insert "cards" ⟨"b", [("n", .int 3)]⟩)).command
      (.insert "cards" ⟨"a", [("n", .int 1)]⟩)).command (.insert "cards" ⟨"c", [("n", .int 2)]⟩)
    exact ⟨_, hreach, rfl⟩
  let r : SearchRequest :=
    { sort := some "n desc", ignoreDeleted := true, ignoreArchived := true }
  have hp : r.predicate .dynamic = .ok .all := rfl
  have hspec : (r.sort.bind (SortSpec.read? .dynamic)).getD [] = [⟨"n", .descending⟩] := by
    decide +kernel
  obtain ⟨page, hpage, hpages⟩ :=
    exec_run_pages (.directory true ["data"]) hreach "cards" r .dynamic hp 2
  rw [hdocs] at hpage hpages
  refine ⟨s, page, hreach, hdocs, fun start => (hpage start).1, (hpage 0).2.2, (hpage 2).2.2,
    (hpage 4).2.2, ?_⟩
  obtain ⟨hsorted, -⟩ := hpages 2 (by decide)
  rw [hspec] at hsorted
  apply hsorted.eq_of_strict
  · exact @List.perm_append_comm _ [_, _] [_]
  · decide +kernel

end Search

end AuditedStore
