import AuditedStore.Proofs.Query.Compare

/-!
# Fields that are one of some operands

Where a document has a field, the field is one of some operands exactly if it equals one of them.  A
missing field is compared as null, though, and texts are read as values of the stored kind: so it is
also one of some operands that have the text `null` among them, and it does not equal that text.
-/

namespace AuditedStore

namespace Query

/-- Null equals null, and the text `null` in any letter case. -/
theorem compares_null_iff (operand : Value) :
  compares .eq .null operand = true
    ↔ operand = .null ∨ ∃ s, operand = .string s ∧ Text.sameIgnoringCase s "null" = true
  := by
  rw [compares_eq_true_iff rfl]
  cases operand with
  | string s => simp [looseCompare?_null]
  | _ => simp [looseCompare?, coerce?, Value.rank, Value.compareTo]

end Query

namespace Predicate

variable {d : Document} {field : String}

/-- A field that is there is one of some operands if it compares equal to one of them. -/
theorem holds_oneOf_of_at? {v : Value} (hv : d.at? field = some v) (operands : List Value) :
  (oneOf field operands).holds d = true ↔ ∃ operand ∈ operands, (equal field operand).holds d = true
  := by
  simp only [holds, hv, Option.getD_some, List.any_eq_true]

/-- A missing field equals null alone. -/
theorem holds_equal_of_missing (h : d.at? field = none) (operand : Value) :
  (equal field operand).holds d = true ↔ operand = .null
  := by
  rw [holds, h]
  cases operand <;> simp [Value.isNull]

/-- A missing field is one of the operands if null is, or a text that is read as null. -/
theorem holds_oneOf_of_missing (h : d.at? field = none) (operands : List Value) :
  (oneOf field operands).holds d = true
    ↔ .null ∈ operands ∨ ∃ s, .string s ∈ operands ∧ Text.sameIgnoringCase s "null" = true
  := by
  rw [holds, h, Option.getD_none, List.any_eq_true]
  simp only [Query.compares_null_iff]
  constructor
  · rintro ⟨operand, hmem, rfl | ⟨s, rfl, hs⟩⟩
    · left
      exact hmem
    · right
      exact ⟨s, hmem, hs⟩
  · rintro (hmem | ⟨s, hmem, hs⟩)
    · exact ⟨.null, hmem, Or.inl rfl⟩
    · exact ⟨.string s, hmem, Or.inr ⟨s, rfl, hs⟩⟩

/-- A field is one of some operands exactly if it equals one of them, or it is missing and one of
them is the text `null` in some letter case. -/
theorem holds_oneOf_iff (d : Document) (field : String) (operands : List Value) :
  (oneOf field operands).holds d = true
    ↔ (∃ operand ∈ operands, (equal field operand).holds d = true)
      ∨ d.at? field = none
        ∧ ∃ s, .string s ∈ operands ∧ Text.sameIgnoringCase s "null" = true
  := by
  cases hv : d.at? field with
  | none =>
      simp only [holds_oneOf_of_missing hv, holds_equal_of_missing hv, exists_eq_right, true_and]
  | some v => simp [holds_oneOf_of_at? hv]

/-- A document without the field `x` satisfies that `x` is one of the text `null` alone, but not
that `x` equals that text. -/
theorem holds_oneOf_missing_null :
  (oneOf "x" [.string "null"]).holds ⟨"a", []⟩ = true
    ∧ ¬ ∃ operand ∈ [.string "null"], (equal "x" operand).holds ⟨"a", []⟩ = true
  := by
  have hmissing : Document.at? ⟨"a", []⟩ "x" = none := by decide +kernel
  constructor
  · rw [holds_oneOf_of_missing hmissing]
    exact Or.inr ⟨"null", List.mem_singleton_self _, by decide +kernel⟩
  · simp [holds_equal_of_missing hmissing]

end Predicate

end AuditedStore
