import AuditedStore.Proofs.Query.PinnedId
import AuditedStore.Proofs.Text
import AuditedStore.Proofs.Value.Order

/-!
# What equals an operand in queries

A stored value that equals a Boolean or a text in a query need not be that Boolean or text:
it may be an array that has it as an item, and texts are read as values of the stored kind.
Read back as a record, though, such a value is the Boolean or the text of the operand, or it
is refused.  There is one exception: a text that names nothing, which is `null` or the name of
an infinity or a NaN, equals stored values that JSON writes as null.
-/

namespace AuditedStore

open Json (Tree)

namespace Value

/-- A value is written as a Boolean exactly if it is one. -/
theorem bool?_toTree (v : Value) :
  Tree.bool? v.toTree = v.bool?
  := by
  cases v with
  | float x =>
      rw [toTree, treeOfFloat]
      split
      · rfl
      · rfl
  | _ =>
      rw [toTree]
      rfl

/-- Null and the numbers that are not finite are written as null. -/
theorem toTree_eq_null_iff (v : Value) :
  v.toTree = .null ↔ v = null ∨ ∃ x, v = float x ∧ x.isFinite = false
  := by
  cases v with
  | null => simp [toTree]
  | float x => cases h : x.isFinite <;> simp [toTree, treeOfFloat, h]
  | _ => simp [toTree, Tree.int64]

/-- What is read as a text or as nothing is written as a text or as null. -/
theorem optional?_string?_toTree {v : Value} {text : Option String}
    (h : Tree.optional? Tree.string? v.toTree = some text) :
  (∃ s, v = string s ∧ text = some s) ∨ v.toTree = .null ∧ text = none
  := by
  cases v with
  | null =>
      rw [toTree] at h ⊢
      apply Or.inr ⟨rfl, (Option.some.inj h).symm⟩
  | float x =>
      rw [toTree, treeOfFloat] at h ⊢
      split at h
      · cases h
      · next hx => exact Or.inr ⟨dif_neg hx, (Option.some.inj h).symm⟩
  | string s =>
      rw [toTree] at h
      apply Or.inl ⟨s, rfl, (Option.some.inj h).symm⟩
  | _ =>
      rw [toTree] at h
      cases h

end Value

namespace Query

/-- A text that equals stored values which JSON writes as null: `null` in any letter case, or a
name of a binary64 number that is not finite. -/
def NamesNothing (s : String) : Prop :=
  Text.sameIgnoringCase s "null" = true
    ∨ ∃ x, Value.readNumber? s = some (.float x) ∧ x.isFinite = false

/-- A value that is no array is compared itself. -/
theorem compares_eq_true_iff {o : Ordering} {v operand : Value} (hv : v.isArray = false) :
  compares o v operand = true ↔ looseCompare? v operand = some o
  := by
  cases v with
  | array items => cases hv
  | _ => simp [compares, anyElement]

theorem compares_eq_bool (a b : Bool) :
  compares .eq (.bool a) (.bool b) = (a == b)
  := by
  apply Bool.eq_iff_iff.mpr
  rw [compares_eq_true_iff rfl]
  simp [looseCompare?, coerce?, Value.rank, Value.compareTo]

theorem looseCompare?_null (s : String) :
  looseCompare? .null (.string s) = if Text.sameIgnoringCase s "null" then some .eq else none
  := by
  rw [looseCompare?, coerce?]
  split
  · rfl
  · rfl

/-- Numbers that are not finite are equal to no integers, and to themselves alone. -/
theorem compareTo_eq_eq_iff_of_not_isFinite {x : Binary64} (hx : x.isFinite = false) (v : Value) :
  (Value.float x).compareTo v = .eq ↔ v = .float x
  := by
  rw [Value.compareTo_eq_eq_iff]
  constructor
  · intro h
    cases v with
    | int i =>
        -- An integer that equals a number is nearest to it, but integers are near finite numbers.
        have hfinite := Binary64.isFinite_ofInt64 i
        rw [Value.ofInt_eq_of_compareIntFloat (eq_of_beq h), hx] at hfinite
        cases hfinite
    | float y =>
        rw [Value.equals, beq_iff_eq, ← Binary64.key_eq_key_iff] at h
        rw [Binary64.eq_of_key_eq h]
    | _ => cases h
  · rintro rfl
    apply beq_self_eq_true x.bits

/-- A number that is not finite equals the texts that are read as it. -/
theorem looseCompare?_of_not_isFinite {x : Binary64} (hx : x.isFinite = false) (s : String) :
  looseCompare? (.float x) (.string s) = some .eq ↔ Value.readNumber? s = some (.float x)
  := by
  have hcoerce : coerce? (.float x) (.string s) = Value.readNumber? s := rfl
  rw [looseCompare?, hcoerce, Option.bind_eq_some_iff]
  constructor
  · rintro ⟨v, hv, hcompare⟩
    split at hcompare
    · rw [hv, (compareTo_eq_eq_iff_of_not_isFinite hx v).mp (Option.some.inj hcompare)]
    · cases hcompare
  · intro hread
    use .float x, hread
    rw [if_pos rfl, (compareTo_eq_eq_iff_of_not_isFinite hx _).mpr rfl]

/-- A value that equals a Boolean in a query is read as that Boolean, if it is read as any. -/
theorem flag_of_compares {v : Value} {b flag : Bool} (h : compares .eq v (.bool b) = true)
    (hread : Tree.bool? v.toTree = some flag) :
  flag = b
  := by
  rw [Value.bool?_toTree] at hread
  cases v with
  | bool a =>
      cases hread
      rw [compares_eq_bool] at h
      apply eq_of_beq h
  | _ => cases hread

/-- A value that equals a text in a query is read as that text, if it is read as a text or as
nothing, or else as nothing and the text names it. -/
theorem text_of_compares {v : Value} {s : String} {text : Option String}
    (h : compares .eq v (.string s) = true)
    (hread : Tree.optional? Tree.string? v.toTree = some text) :
  text = some s ∨ text = none ∧ NamesNothing s
  := by
  rcases Value.optional?_string?_toTree hread with ⟨t, rfl, rfl⟩ | ⟨hnull, rfl⟩
  · left
    rw [compares_eq_string] at h
    rw [eq_of_beq h]
  · right
    use rfl
    rcases v.toTree_eq_null_iff.mp hnull with rfl | ⟨x, rfl, hx⟩
    · left
      rw [compares_eq_true_iff rfl, looseCompare?_null] at h
      by_contra hs
      rw [if_neg hs] at h
      cases h
    · right
      use x
      rw [compares_eq_true_iff rfl, looseCompare?_of_not_isFinite hx] at h
      exact ⟨h, hx⟩

/-- A text that names nothing equals a stored value that is written as null. -/
theorem exists_of_namesNothing {s : String} (h : NamesNothing s) :
  ∃ v : Value, v.toTree = .null ∧ compares .eq v (.string s) = true
  := by
  rcases h with hs | ⟨x, hread, hx⟩
  · use .null, by rw [Value.toTree]
    rw [compares_eq_true_iff rfl, looseCompare?_null, if_pos hs]
  · use .float x, (Value.toTree_eq_null_iff _).mpr (Or.inr ⟨x, rfl, hx⟩)
    apply (compares_eq_true_iff rfl).mpr ((looseCompare?_of_not_isFinite hx s).mpr hread)

/-- A blank text is not a name for nothing. -/
theorem not_namesNothing_of_isBlank {s : String} (h : Text.isBlank s = true) :
  ¬ NamesNothing s
  := by
  rintro (hnull | ⟨x, hread, -⟩)
  · rw [Text.sameIgnoringCase, Text.asciiLower_of_isBlank h] at hnull
    rw [eq_of_beq hnull] at h
    revert h
    decide
  · have hint : (Numeral.readInt64? "").map Value.int = none := rfl
    have hfloat : (Binary64.read? "").map Value.float = none := rfl
    rw [Value.readNumber?, Text.trim_of_isBlank h, hint, hfloat] at hread
    cases hread

end Query

/-- A field that equals an operand other than null is there. -/
theorem Predicate.exists_of_holds_equal {d : Document} {field : String} {operand : Value}
    (hnull : operand.isNull = false) (h : (equal field operand).holds d = true) :
  ∃ v, d.at? field = some v ∧ Query.compares .eq v operand = true
  := by
  rw [holds] at h
  cases hv : d.at? field with
  | none =>
      rw [hv] at h
      rw [hnull] at h
      cases h
  | some v =>
      rw [hv] at h
      exact ⟨v, rfl, h⟩

end AuditedStore
