import AuditedStore.Proofs.Query.PinnedId
import AuditedStore.Proofs.Store.Documents
import AuditedStore.Proofs.Value.Order

/-!
# Selecting from rearranged documents

Sort orders are transitive because the order of values is, so sorting gives a list that is in
order.  If the order looks at the id, no two documents of a collection agree in it: then the
sorted list, and every window of it, is the same however the documents stood before.
-/

namespace AuditedStore

/-- The value of the path `_id` is the id. -/
theorem Document.at?_idField (d : Document) :
  d.at? idField = some (.string d.id)
  := by rw [at?, if_pos rfl]

/-! ### Sort orders -/

namespace SortKey

theorem compare_swap (k : SortKey) (a b : Document) :
  k.compare b a = (k.compare a b).swap
  := by
  rw [compare, compare]
  cases k.direction with
  | ascending => exact Value.compareTo_swap _ _
  | descending => exact Value.compareTo_swap _ _

theorem compare_isLE_trans {k : SortKey} {a b c : Document} (hab : (k.compare a b).isLE)
    (hbc : (k.compare b c).isLE) :
  (k.compare a c).isLE
  := by
  have htrans : Std.TransCmp Value.compareTo := inferInstance
  rw [compare] at hab hbc ⊢
  cases hdir : k.direction with
  | ascending =>
      rw [hdir] at hab hbc
      apply htrans.isLE_trans hab hbc
  | descending =>
      rw [hdir] at hab hbc
      apply htrans.isLE_trans hbc hab

instance (k : SortKey) : Std.TransCmp k.compare where
  eq_swap {a b} := k.compare_swap b a
  isLE_trans := compare_isLE_trans

/-- Documents that agree in the path `_id` have the same id. -/
theorem id_eq_of_compare {k : SortKey} (hk : k.field = idField) {a b : Document}
    (h : k.compare a b = .eq) :
  a.id = b.id
  := by
  rw [compare, hk, a.at?_idField, b.at?_idField] at h
  cases hdir : k.direction with
  | ascending =>
      rw [hdir] at h
      apply Std.LawfulEqOrd.eq_of_compare h
  | descending =>
      rw [hdir] at h
      apply (Std.LawfulEqOrd.eq_of_compare h).symm

end SortKey

namespace SortSpec

/-- A sort order looks at the id of documents. -/
def SortsById (spec : SortSpec) : Prop := ∃ k ∈ spec, k.field = idField

instance transCmp_compare : ∀ spec : SortSpec, Std.TransCmp spec.compare
  | [] => { eq_swap := rfl, isLE_trans := fun _ _ => rfl }
  | k :: ks =>
      have := transCmp_compare ks
      inferInstanceAs (Std.TransCmp (compareLex k.compare (SortSpec.compare ks)))

/-- Documents that agree in an order that looks at the id have the same id. -/
theorem id_eq_of_compare {spec : SortSpec} (hspec : spec.SortsById) {a b : Document}
    (h : spec.compare a b = .eq) :
  a.id = b.id
  := by
  obtain ⟨k, hk, hfield⟩ := hspec
  induction spec with
  | nil => cases hk
  | cons l ls ih =>
      obtain ⟨hl, hls⟩ := Ordering.then_eq_eq.mp h
      rcases List.mem_cons.mp hk with rfl | hk
      · apply SortKey.id_eq_of_compare hfield hl
      · apply ih hls hk

theorem sort_perm (spec : SortSpec) (docs : List Document) :
  (spec.sort docs).Perm docs
  := List.mergeSort_perm _ _

theorem sort_eq_mergeSort (spec : SortSpec) (docs : List Document) :
  spec.sort docs = docs.mergeSort fun a b => (spec.compare a b).isLE
  := by
  have hle : ∀ a b, (spec.compare a b != .gt) = (spec.compare a b).isLE := by
    intro a b
    cases spec.compare a b <;> rfl
  simp only [sort, hle]

theorem isLE_total (spec : SortSpec) (a b : Document) :
  ((spec.compare a b).isLE || (spec.compare b a).isLE) = true
  := by
  have hswap : spec.compare b a = (spec.compare a b).swap := Std.OrientedCmp.eq_swap
  rw [hswap]
  cases spec.compare a b <;> rfl

/-- A sorted list is in order. -/
theorem pairwise_sort (spec : SortSpec) (docs : List Document) :
  (spec.sort docs).Pairwise fun a b => (spec.compare a b).isLE
  := by
  rw [sort_eq_mergeSort]
  apply List.pairwise_mergeSort (fun _ _ _ => Std.TransCmp.isLE_trans) spec.isLE_total docs

/-- Documents that are in order already keep their order. -/
theorem sublist_sort {spec : SortSpec} {some docs : List Document}
    (hpairwise : some.Pairwise fun a b => (spec.compare a b).isLE) (h : some.Sublist docs) :
  some.Sublist (spec.sort docs)
  := by
  rw [sort_eq_mergeSort]
  apply List.sublist_mergeSort (fun _ _ _ => Std.TransCmp.isLE_trans) spec.isLE_total hpairwise h

/-- An order that looks at the id sorts documents with distinct ids in one way only. -/
theorem sort_eq_of_perm {spec : SortSpec} (hspec : spec.SortsById) {docs docs' : List Document}
    (hp : docs.Perm docs') (hn : (docs.map Document.id).Nodup) :
  spec.sort docs = spec.sort docs'
  := by
  have hperm : (spec.sort docs).Perm (spec.sort docs') :=
    (spec.sort_perm docs).trans (hp.trans (spec.sort_perm docs').symm)
  apply List.Perm.eq_of_pairwise _ (spec.pairwise_sort docs) (spec.pairwise_sort docs') hperm
  intro a b ha hb hab hba
  -- Documents that agree in the order have the same id, and ids are distinct.
  have heq := Std.OrientedCmp.isLE_antisymm hab hba
  have hmema : a ∈ docs := (spec.sort_perm docs).mem_iff.mp ha
  have hmemb : b ∈ docs := hp.mem_iff.mpr ((spec.sort_perm docs').mem_iff.mp hb)
  apply Document.eq_of_id_eq hn hmema hmemb (id_eq_of_compare hspec heq)

end SortSpec

/-! ### First matches -/

/-- A condition that at most one item of a list meets is met first by the same item after
rearranging the list. -/
theorem Document.find?_eq_of_perm {p : Document → Bool} {docs docs' : List Document}
    (hp : docs.Perm docs') (h : docs.countP p ≤ 1) :
  docs.find? p = docs'.find? p
  := by
  rw [List.countP_eq_length_filter] at h
  have hfilter : (docs.filter p).Perm (docs'.filter p) := hp.filter p
  rw [← List.head?_filter, ← List.head?_filter]
  cases hdocs : docs.filter p with
  | nil =>
      rw [hdocs] at hfilter
      rw [← hfilter.nil_eq]
  | cons d ds =>
      rw [hdocs, List.length_cons] at h
      obtain rfl : ds = [] := List.eq_nil_of_length_eq_zero (by omega)
      rw [hdocs] at hfilter
      rw [← hfilter.singleton_eq]

/-- A predicate that pins an id holds for at most one of the documents with distinct ids. -/
theorem Predicate.countP_le_one_of_pinnedId? {p : Predicate} {id : String}
    (hid : p.pinnedId? = some id) {docs : List Document} (hn : (docs.map Document.id).Nodup) :
  (docs.countP fun d => p.holds d) ≤ 1
  := by
  rw [List.countP_eq_length_filter,
    ← Document.filter_withId? hn fun d hd => Predicate.id_eq_of_holds hd hid]
  apply (List.length_filter_le _ _).trans
  cases Document.withId? id docs <;> simp

/-! ### Selections -/

namespace FindOptions

variable {options : FindOptions} {docs docs' : List Document}

/-- Without a window, the same documents are selected from rearranged ones. -/
theorem select_perm (hskip : options.skip = 0) (hlimit : options.limit = none) (p : Predicate)
    (hp : docs.Perm docs') :
  (options.select p docs).Perm (options.select p docs')
  := by
  have hsorted : (options.sort.sort (docs.filter fun d => p.holds d)).Perm
      (options.sort.sort (docs'.filter fun d => p.holds d)) :=
    (options.sort.sort_perm _).trans ((hp.filter _).trans (options.sort.sort_perm _).symm)
  simp only [select, hskip, hlimit, List.drop_zero, Option.elim_none]
  cases options.slice with
  | none => exact hsorted
  | some slice => exact hsorted.map slice.apply

/-- An order that looks at the id selects the same list from rearranged documents with
distinct ids. -/
theorem select_eq_of_perm (hsort : options.sort.SortsById) (p : Predicate)
    (hp : docs.Perm docs') (hn : (docs.map Document.id).Nodup) :
  options.select p docs = options.select p docs'
  := by
  have hfilter : ((docs.filter fun d => p.holds d).map Document.id).Nodup :=
    hn.sublist (List.filter_sublist.map _)
  rw [select, select, SortSpec.sort_eq_of_perm hsort (hp.filter _) hfilter]

/-- What is selected without a slice satisfies the predicate. -/
theorem holds_of_mem_select (hslice : options.slice = none) {p : Predicate} {d : Document}
    (h : d ∈ options.select p docs) :
  p.holds d = true
  := by
  have hwindow : ∀ window : List Document, (options.limit.elim window window.take).Sublist window := by
    intro window
    cases options.limit with
    | none => exact List.Sublist.refl window
    | some n => exact List.take_sublist n window
  rw [select, hslice] at h
  have hsorted := List.mem_of_mem_drop ((hwindow _).mem h)
  apply (List.mem_filter.mp ((options.sort.sort_perm _).mem_iff.mp hsorted)).2

end FindOptions

end AuditedStore
