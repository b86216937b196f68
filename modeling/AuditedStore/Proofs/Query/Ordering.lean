import AuditedStore.Proofs.Query.Compare
import AuditedStore.Proofs.Query.Selection

/-!
# Comparisons with operands and sort orders

An operand is read as a value of the stored kind, and how it is read depends on that kind alone.  So
all stored values of one kind are compared with the same value, and since the order of values is
transitive, what is less than an operand is sorted before what equals it, and that before what is
greater.
-/

namespace AuditedStore

/-! ### Comparing with one operand -/

namespace Query

/-- An operand can be compared with a stored value: read as a value of the stored kind, it is of
that kind. -/
def IsComparable (actual operand : Value) : Prop :=
  ∃ v, coerce? actual operand = some v ∧ actual.rank = v.rank

theorem looseCompare?_eq_some_iff {actual operand : Value} {o : Ordering} :
  looseCompare? actual operand = some o
    ↔ ∃ v, coerce? actual operand = some v ∧ actual.rank = v.rank ∧ actual.compareTo v = o
  := by
  rw [looseCompare?, Option.bind_eq_some_iff]
  simp only [ite_eq_iff, Option.some.injEq, reduceCtorEq, and_false, or_false]

theorem isComparable_iff {actual operand : Value} :
  IsComparable actual operand ↔ ∃ o, looseCompare? actual operand = some o
  := by
  simp only [IsComparable, looseCompare?_eq_some_iff]
  constructor
  · rintro ⟨v, hv, hkind⟩
    exact ⟨_, v, hv, hkind, rfl⟩
  · rintro ⟨_, v, hv, hkind, -⟩
    exact ⟨v, hv, hkind⟩

/-- An operand that is no text is compared as it is. -/
theorem coerce?_of_string?_eq_none {operand : Value} (h : operand.string? = none)
    (actual : Value) :
  coerce? actual operand = some operand
  := by
  cases operand with
  | string s => cases h
  | _ => cases actual <;> rfl

/-- An operand is read in the same way for all stored values of one kind. -/
theorem coerce?_congr {a b : Value} (h : a.rank = b.rank) (operand : Value) :
  coerce? a operand = coerce? b operand
  := by
  cases operand with
  | string s =>
      -- Integers and binary64 numbers are one kind; else the kind is the constructor.
      cases a with
      | int _ | float _ =>
          cases b with
          | int _ | float _ => rfl
          | _ => cases h
      | _ => cases b <;> first | (cases h; done) | rfl
  | _ => rw [coerce?_of_string?_eq_none rfl, coerce?_of_string?_eq_none rfl]

/-- A stored value that is at most an operand and one of its kind that is at least the operand
compare as the two comparisons with the operand say together. -/
theorem compareTo_of_looseCompare? {a b operand : Value} {o o' : Ordering}
    (hkind : a.rank = b.rank) (ha : looseCompare? a operand = some o)
    (hb : looseCompare? b operand = some o') (ho : o.isLE) (ho' : o'.isGE) :
  a.compareTo b = o.then o'.swap
  := by
  obtain ⟨v, hv, -, rfl⟩ := looseCompare?_eq_some_iff.mp ha
  obtain ⟨w, hw, -, rfl⟩ := looseCompare?_eq_some_iff.mp hb
  rw [← coerce?_congr hkind, hv] at hw
  obtain rfl := Option.some.inj hw
  have hswap : v.compareTo b = (b.compareTo v).swap := Value.compareTo_swap b v
  rw [← hswap]
  apply Value.chain_compareTo a v b ho
  rw [hswap, Ordering.isLE_swap]
  exact ho'

end Query

/-! ### Places in sorted lists -/

/-- Of two different items of a list, one stands before the other. -/
theorem sublist_or_sublist_of_mem {α : Type} {a b : α} {items : List α} (ha : a ∈ items)
    (hb : b ∈ items) (hne : a ≠ b) :
  [a, b].Sublist items ∨ [b, a].Sublist items
  := by
  obtain ⟨front, back, rfl⟩ := List.append_of_mem ha
  rcases List.mem_append.mp hb with hfront | hback
  · right
    apply (List.singleton_sublist.mpr hfront).append
    apply List.singleton_sublist.mpr List.mem_cons_self
  · left
    have hlater : b ∈ back := (List.mem_cons.mp hback).resolve_left hne.symm
    apply List.sublist_append_of_sublist_right
    apply (List.singleton_sublist.mpr hlater).cons_cons

namespace SortSpec

/-- A sort order puts a document strictly before another: the one compares as less, and in every
sorted list that has both, it stands before the other and never behind it. -/
structure PutsBefore (spec : SortSpec) (d e : Document) : Prop where
  compare_eq : spec.compare d e = .lt
  sublist : ∀ docs, d ∈ docs → e ∈ docs → [d, e].Sublist (spec.sort docs)
  not_sublist : ∀ docs, ¬ [e, d].Sublist (spec.sort docs)

theorem putsBefore_of_compare {spec : SortSpec} {d e : Document} (h : spec.compare d e = .lt) :
  spec.PutsBefore d e
  := by
  have hnot : ∀ docs, ¬ [e, d].Sublist (spec.sort docs) := by
    intro docs hsublist
    have hle := List.pairwise_pair.mp ((spec.pairwise_sort docs).sublist hsublist)
    have hswap : spec.compare e d = (spec.compare d e).swap := Std.OrientedCmp.eq_swap
    rw [hswap, h] at hle
    cases hle
  have hne : d ≠ e := by
    rintro rfl
    have hself : spec.compare d d = .eq := Std.ReflCmp.compare_self
    rw [hself] at h
    cases h
  refine ⟨h, fun docs hd he => ?_, hnot⟩
  have hdsorted : d ∈ spec.sort docs := (spec.sort_perm docs).mem_iff.mpr hd
  have hesorted : e ∈ spec.sort docs := (spec.sort_perm docs).mem_iff.mpr he
  exact (sublist_or_sublist_of_mem hdsorted hesorted hne).resolve_right (hnot docs)

end SortSpec

namespace Predicate

/-! ### The three comparisons -/

/-- The condition that the value of a field compares with an operand as `o`. -/
def comparing (field : String) (operand : Value) : Ordering → Predicate
  | .lt => less field operand
  | .eq => equal field operand
  | .gt => greater field operand

section Comparing

variable {field : String} {operand v : Value} {d : Document}

theorem holds_comparing (hv : d.at? field = some v) (hitem : v.isArray = false) (o : Ordering) :
  (comparing field operand o).holds d = true ↔ Query.looseCompare? v operand = some o
  := by
  cases o with
  | lt => rw [comparing, holds, hv, Option.any_some, Query.compares_eq_true_iff hitem]
  | eq => rw [comparing, holds, hv, Query.compares_eq_true_iff hitem]
  | gt => rw [comparing, holds, hv, Option.any_some, Query.compares_eq_true_iff hitem]

/-- A document satisfies at most one of the three comparisons of a field with an operand, and one
exactly if the operand can be compared with the value `v`. -/
structure ComparesOnce (field : String) (operand v : Value) (d : Document) : Prop where
  unique : ∀ o o', (comparing field operand o).holds d = true →
    (comparing field operand o').holds d = true → o = o'
  existsUnique_iff : (∃! o, (comparing field operand o).holds d = true)
    ↔ Query.IsComparable v operand

theorem comparesOnce_of_at? (hv : d.at? field = some v) (hitem : v.isArray = false) :
  ComparesOnce field operand v d
  := by
  have hunique : ∀ o o', (comparing field operand o).holds d = true →
      (comparing field operand o').holds d = true → o = o' := by
    intro o o' h h'
    rw [holds_comparing hv hitem] at h h'
    exact Option.some.inj (h.symm.trans h')
  refine ⟨hunique, ?_⟩
  rw [Query.isComparable_iff]
  simp only [← holds_comparing hv hitem]
  constructor
  · exact ExistsUnique.exists
  · rintro ⟨o, ho⟩
    exact ⟨o, ho, fun o' ho' => hunique o' o ho' ho⟩

end Comparing

/-- Two documents have values of one kind at a field, neither of which is an array.  Each satisfies
at most one of the three comparisons of the field with an operand, and one exactly if the operand can
be compared with its value.  If the first is less than the operand and the second is not, or the first
equals it and the second is greater, the first is sorted strictly before the second in ascending
order of the field, and strictly behind it in descending order. -/
theorem comparing_sort {field : String} {operand v w : Value} {d e : Document}
    (hv : d.at? field = some v) (hw : e.at? field = some w) (hvitem : v.isArray = false)
    (hwitem : w.isArray = false) (hkind : v.rank = w.rank) :
  ComparesOnce field operand v d
  ∧ ComparesOnce field operand w e
  ∧ ((less field operand).holds d = true
        ∧ ((equal field operand).holds e = true ∨ (greater field operand).holds e = true)
      ∨ (equal field operand).holds d = true ∧ (greater field operand).holds e = true →
      SortSpec.PutsBefore [⟨field, .ascending⟩] d e
      ∧ SortSpec.PutsBefore [⟨field, .descending⟩] e d)
  := by
  refine ⟨comparesOnce_of_at? hv hvitem, comparesOnce_of_at? hw hwitem, fun h => ?_⟩
  have hd : ∀ o, (comparing field operand o).holds d = true →
      Query.looseCompare? v operand = some o := fun o => (holds_comparing hv hvitem o).mp
  have he : ∀ o, (comparing field operand o).holds e = true →
      Query.looseCompare? w operand = some o := fun o => (holds_comparing hw hwitem o).mp
  have hlt : v.compareTo w = .lt := by
    rcases h with ⟨hless, hequal | hgreater⟩ | ⟨hequal, hgreater⟩
    · exact Query.compareTo_of_looseCompare? hkind (hd .lt hless) (he .eq hequal) rfl rfl
    · exact Query.compareTo_of_looseCompare? hkind (hd .lt hless) (he .gt hgreater) rfl rfl
    · exact Query.compareTo_of_looseCompare? hkind (hd .eq hequal) (he .gt hgreater) rfl rfl
  constructor
  · apply SortSpec.putsBefore_of_compare
    simp [SortSpec.compare, SortKey.compare, hv, hw, hlt]
  · apply SortSpec.putsBefore_of_compare
    simp [SortSpec.compare, SortKey.compare, hv, hw, hlt]

/-- A binary64 number equals the number that a text says, and the next integer, which has no place
among the binary64 numbers, is greater and sorted behind it. -/
theorem comparing_sort_past_precision :
  (equal "n" (.string " 9007199254740992 ")).holds
      ⟨"a", [("n", .float ⟨0x4340000000000000⟩)]⟩ = true
  ∧ (greater "n" (.string " 9007199254740992 ")).holds
      ⟨"b", [("n", .int 9007199254740993)]⟩ = true
  ∧ SortSpec.PutsBefore [⟨"n", .ascending⟩] ⟨"a", [("n", .float ⟨0x4340000000000000⟩)]⟩
      ⟨"b", [("n", .int 9007199254740993)]⟩
  := by
  have hequal : (equal "n" (.string " 9007199254740992 ")).holds
      ⟨"a", [("n", .float ⟨0x4340000000000000⟩)]⟩ = true := by decide +kernel
  have hgreater : (greater "n" (.string " 9007199254740992 ")).holds
      ⟨"b", [("n", .int 9007199254740993)]⟩ = true := by decide +kernel
  have hv : Document.at? ⟨"a", [("n", .float ⟨0x4340000000000000⟩)]⟩ "n"
      = some (.float ⟨0x4340000000000000⟩) := rfl
  have hw : Document.at? ⟨"b", [("n", .int 9007199254740993)]⟩ "n"
      = some (.int 9007199254740993) := rfl
  obtain ⟨hbefore, -⟩ := (comparing_sort hv hw rfl rfl rfl).2.2 (Or.inr ⟨hequal, hgreater⟩)
  exact ⟨hequal, hgreater, hbefore⟩

end Predicate

end AuditedStore
