import AuditedStore.Proofs.Audit.Reading
import AuditedStore.Proofs.Search.Paging
import AuditedStore.Proofs.Store.Scanning

/-!
# Windows of trails

Both readers of a trail give a window of it, newest first.  One takes the window from the records, the
other has the store cut it out of the snapshots, counted from their end, so that it neither reads
the others nor knows how many there are.  The windows are the same, and those of the pages of a trail
are the whole trail, with nothing lost and nothing twice.
-/

namespace AuditedStore

open LawfulStore

/-! ### Slices -/

namespace Slice

/-- The items of a window, the last one first, follow the skipped ones in the reversed list. -/
theorem reverse_window {α : Type} (s : Slice) (items : List α) :
  (s.window items).reverse = (items.reverse.drop s.skipFromEnd).take s.limit
  := by
  have hlength : (items.take (items.length - s.skipFromEnd)).length
      = items.length - s.skipFromEnd := by
    rw [List.length_take, Nat.min_eq_left (Nat.sub_le _ _)]
  rw [List.drop_reverse, List.take_reverse, hlength]
  rfl

/-- If a list is read, its windows are read as the windows of what it is read as. -/
theorem mapM_window {ε α β : Type} {f : α → Except ε β} {as : List α} {bs : List β} (s : Slice)
    (h : as.mapM f = .ok bs) :
  (s.window as).mapM f = .ok (s.window bs)
  := by
  rw [mapM_eq_ok_iff] at h ⊢
  rw [window, window, h.length_eq]
  apply List.forall₂_drop
  apply List.forall₂_take _ h

end Slice

namespace AuditContainer

/-- A container that is narrowed by a slice has a window of the snapshots. -/
theorem snapshots_apply {s : Slice} (hs : s.path = auditItemsField) (d : Document) :
  snapshots (s.apply d) = s.window <$> snapshots d
  := by
  have hpath : pathNames auditItemsField = [auditItemsField] := by decide +kernel
  have hat : d.fieldAt? s.path = Assoc.get? auditItemsField d.fields := by
    rw [Document.fieldAt?, hs, hpath, Fields.at?]
  have hset : ∀ v, d.setAt? s.path v = some (d.set auditItemsField v) := by
    intro v
    rw [Document.setAt?, hs, hpath]
    rfl
  rw [Slice.apply, hat]
  cases h : Assoc.get? auditItemsField d.fields with
  | none => simp [snapshots, h, Slice.window]
  | some v =>
      cases v with
      | array items => simp [snapshots, hset, h, Document.set]
      | _ => simp [snapshots, h, Slice.window]

/-- If a trail is read, a window of its snapshots is read as the window of its records. -/
theorem records_map_apply {α : Type} [Record α] {s : Slice} (hs : s.path = auditItemsField)
    {container : Option Document} {items : List α} (h : records α container = .ok items) :
  records α (container.map s.apply) = .ok (s.window items)
  := by
  obtain ⟨vs, hheld, hread⟩ := records_eq_ok_iff.mp h
  apply records_eq_ok_iff.mpr
  refine ⟨s.window vs, ?_, s.mapM_window hread⟩
  cases container with
  | none =>
      cases hheld
      simp [held, Slice.window]
  | some d =>
      rw [held, Option.elim_some] at hheld
      rw [Option.map_some, held, Option.elim_some, snapshots_apply hs, hheld]
      rfl

end AuditContainer

namespace AuditTrail

/-! ### Both readers -/

/-- The sliced reader makes the page of the full reader of a window, with a count of its own. -/
theorem slicedPage_window {α : Type} (startAt pageSize : Nat) (items : List α) :
  slicedPage startAt pageSize ((slice startAt pageSize).window items)
    = { fullPage startAt pageSize items with
        totalCount := (fullPage startAt pageSize items).results.length }
  := by
  have hreverse := (slice startAt pageSize).reverse_window items
  rw [slicedPage, ← List.length_reverse, hreverse]
  rfl

/-- If a trail is read, the sliced reader makes the page of the full reader, with a count of its
own. -/
theorem exec_sliced_of_records {σ α : Type} [Record α] [DocumentStore σ] [LawfulStore σ] {s : σ}
    {items : List α} (hs : Valid s) {name id : String}
    (h : AuditContainer.records α (lookup? s name id) = .ok items) (startAt pageSize : Nat) :
  (sliced α name id startAt pageSize).exec s
    = (.ok { fullPage startAt pageSize items with
        totalCount := (fullPage startAt pageSize items).results.length }, s)
  := by
  rw [exec_sliced_eq hs, AuditContainer.records_map_apply rfl h, ← slicedPage_window]
  rfl

/-- Over every store that commands reach, the full reader answers exactly if all snapshots of the
trail can be restored.  Then it counts them, and the sliced reader answers too, with the same results
in the same order, and counts these.  Where there is no container, or nothing or null in place of the
snapshots, both give the empty page. -/
theorem exec_sliced_of_full (α : Type) [Record α] (l : Location) {s : EmbeddedStore}
    (hs : Reaches l.emptyStore s) (name id : String) (startAt pageSize : Nat) :
  ((∃ page, (full α name id startAt pageSize).exec s = (.ok page, s))
      ↔ ∃ items, AuditContainer.records α (lookup? s name id) = .ok items)
  ∧ (∀ page t, (full α name id startAt pageSize).exec s = (.ok page, t) →
      (sliced α name id startAt pageSize).exec s
          = (.ok { page with totalCount := page.results.length }, s)
      ∧ ∃ vs, AuditContainer.held (lookup? s name id) = .ok vs ∧ page.totalCount = vs.length)
  ∧ ((∀ d, lookup? s name id = some d → Assoc.get? auditItemsField d.fields = none
        ∨ Assoc.get? auditItemsField d.fields = some .null) →
      (full α name id startAt pageSize).exec s = (.ok (emptyPage startAt pageSize), s)
      ∧ (sliced α name id startAt pageSize).exec s = (.ok (emptyPage startAt pageSize), s))
  := by
  have hvalid : Valid s := hs.valid l.valid_emptyStore
  refine ⟨?_, ?_, ?_⟩
  · simp [exec_full_eq_ok_iff hvalid]
  · intro page t hfull
    obtain ⟨-, items, hitems, rfl⟩ := (exec_full_eq_ok_iff hvalid).mp hfull
    obtain ⟨vs, hvs, hread⟩ := AuditContainer.records_eq_ok_iff.mp hitems
    use exec_sliced_of_records hvalid hitems startAt pageSize
    exact ⟨vs, hvs, (mapM_eq_ok_iff.mp hread).length_eq.symm⟩
  · intro hnone
    have hheld : AuditContainer.held (lookup? s name id) = .ok [] := by
      cases hl : lookup? s name id with
      | none => rfl
      | some d =>
          rw [AuditContainer.held, Option.elim_some, AuditContainer.snapshots]
          rcases hnone d hl with h | h
          · rw [h]
          · rw [h]
    have hitems : AuditContainer.records α (lookup? s name id) = .ok [] :=
      AuditContainer.records_eq_ok_iff.mpr ⟨[], hheld, rfl⟩
    constructor
    · rw [← fullPage_nil]
      exact (exec_full_eq_ok_iff hvalid).mpr ⟨rfl, [], hitems, rfl⟩
    · rw [exec_sliced_of_records hvalid hitems, fullPage_nil]
      rfl

/-- In some store there is a trail of any documents. -/
theorem exists_reaches_trail (name id : String) {docs : List Document}
    (hids : ∀ d ∈ docs, Assoc.get? idField d.fields = none) :
  ∃ s : EmbeddedStore, Reaches (Location.memory "db").emptyStore s
    ∧ AuditContainer.records Document (lookup? s name id) = .ok docs
  := by
  let container := AuditContainer.ofSnapshots id (docs.map Document.toValue)
  obtain ⟨s, hreach, hdocs⟩ := MemoryStore.exists_reaches_singleton name container
  have hdocs' : documents (EmbeddedStore.memory s) name = [container] := hdocs
  have hl : lookup? (EmbeddedStore.memory s) name id = some container := by
    rw [lookup?, hdocs', Document.withId?_cons]
    exact if_pos rfl
  refine ⟨.memory s, EmbeddedStore.reaches_memory hreach, ?_⟩
  apply AuditContainer.records_of_documents _ hids
  rw [hl]
  rfl

/-- Of three versions of a document, both readers give the one in the middle. -/
theorem exec_sliced_of_full_three_versions :
  ∃ s : EmbeddedStore, Reaches (Location.memory "db").emptyStore s
    ∧ (full Document "trails" "a" 1 1).exec s
      = (.ok {
          results := [⟨"a", [("n", .int 2)]⟩]
          totalCount := 3, pageSize := 1, startAt := 1 }, s)
    ∧ (sliced Document "trails" "a" 1 1).exec s
      = (.ok {
          results := [⟨"a", [("n", .int 2)]⟩]
          totalCount := 1, pageSize := 1, startAt := 1 }, s)
  := by
  let versions : List Document :=
    [⟨"a", [("n", .int 1)]⟩, ⟨"a", [("n", .int 2)]⟩, ⟨"a", [("n", .int 3)]⟩]
  have hids : ∀ d ∈ versions, Assoc.get? idField d.fields = none := by
    simp [versions, idField, Assoc.get?]
  obtain ⟨s, hreach, hitems⟩ := exists_reaches_trail "trails" "a" hids
  have hfull : (full Document "trails" "a" 1 1).exec s
      = (.ok {
          results := [⟨"a", [("n", .int 2)]⟩]
          totalCount := 3, pageSize := 1, startAt := 1 }, s) :=
    (exec_full_eq_ok_iff (hreach.valid (Location.valid_emptyStore _))).mpr ⟨rfl, _, hitems, rfl⟩
  obtain ⟨-, hsliced, -⟩ := exec_sliced_of_full Document (.memory "db") hreach "trails" "a" 1 1
  exact ⟨s, hreach, hfull, (hsliced _ _ hfull).1⟩

/-! ### Pages -/

/-- Past the last position there is nothing of a list that is no longer than it says. -/
theorem drop_min_lastPosition {α : Type} {items : List α} (h : items.length ≤ lastPosition)
    (n : Nat) :
  items.drop (min n lastPosition) = items.drop n
  := by
  rcases Nat.le_total n lastPosition with hn | hn
  · rw [Nat.min_eq_left hn]
  · rw [Nat.min_eq_right hn, List.drop_of_length_le h, List.drop_of_length_le (h.trans hn)]

/-- The pages of a trail that can be read: each has as many of its records as fit and are left, so
that the pages behind the last record are empty, even those that would start past the last position;
and as soon as there are enough pages for all, the pages one after the other are the trail, newest
first.  A list in memory is never longer than the last position, which `hlength` says of the trail. -/
theorem exec_page_records (α : Type) [Record α] (l : Location) {s : EmbeddedStore}
    (hs : Reaches l.emptyStore s) {name id : String} {items : List α}
    (hitems : AuditContainer.records α (lookup? s name id) = .ok items)
    (hlength : items.length ≤ lastPosition) (pageSize : Nat) :
  ∃ page : Nat → List α,
    (∀ index,
      (AuditTrail.page α name id index pageSize).exec s = (.ok (page index), s)
      ∧ (page index).length = min pageSize (items.length - index * pageSize)
      ∧ (items.length ≤ index * pageSize → page index = []))
    ∧ ∀ count, items.length ≤ count * pageSize →
        (List.range count).flatMap page = items.reverse
  := by
  have hvalid : Valid s := hs.valid l.valid_emptyStore
  rw [← List.length_reverse] at hlength
  refine ⟨fun index => (items.reverse.drop (index * pageSize)).take pageSize,
    fun index => ⟨?_, ?_, ?_⟩, ?_⟩
  · have hsliced :=
      exec_sliced_of_records hvalid hitems (min (index * pageSize) lastPosition) pageSize
    rw [AuditTrail.page, StoreM.exec_bind_ok hsliced, StoreM.exec_pure]
    simp only [fullPage, drop_min_lastPosition hlength]
  · rw [List.length_take, List.length_drop, List.length_reverse]
  · intro hindex
    rw [← List.length_reverse] at hindex
    dsimp only
    rw [List.drop_of_length_le hindex, List.take_nil]
  · intro count hcount
    rw [← List.length_reverse] at hcount
    rw [flatMap_windows, List.take_of_length_le hcount]

/-- Three versions of a document on pages of two; a page that starts past the last position is
empty. -/
theorem exec_page_records_three_versions :
  ∃ (s : EmbeddedStore) (page : Nat → List Document),
    Reaches (Location.memory "db").emptyStore s
    ∧ (∀ index, (AuditTrail.page Document "trails" "a" index 2).exec s = (.ok (page index), s))
    ∧ (page 0).length = 2 ∧ (page 1).length = 1 ∧ page (2 ^ 63) = []
    ∧ (List.range 2).flatMap page
      = [⟨"a", [("n", .int 3)]⟩, ⟨"a", [("n", .int 2)]⟩, ⟨"a", [("n", .int 1)]⟩]
  := by
  let versions : List Document :=
    [⟨"a", [("n", .int 1)]⟩, ⟨"a", [("n", .int 2)]⟩, ⟨"a", [("n", .int 3)]⟩]
  have hids : ∀ d ∈ versions, Assoc.get? idField d.fields = none := by
    simp [versions, idField, Assoc.get?]
  obtain ⟨s, hreach, hitems⟩ := exists_reaches_trail "trails" "a" hids
  obtain ⟨page, hpage, hall⟩ :=
    exec_page_records Document (.memory "db") hreach hitems (by decide) 2
  refine ⟨s, page, hreach, fun index => (hpage index).1, (hpage 0).2.1, (hpage 1).2.1, ?_, ?_⟩
  · exact (hpage (2 ^ 63)).2.2 (by decide)
  · exact hall 2 (by decide)

end AuditTrail

end AuditedStore
