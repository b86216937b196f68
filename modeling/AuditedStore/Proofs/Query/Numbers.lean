import AuditedStore.Proofs.Query.Grammar
import AuditedStore.Proofs.Query.Ordering
import AuditedStore.Proofs.Value.Numbers

/-!
# Clauses with numbers

A clause of a filter whose value is an integer compares stored numbers with that integer exactly:
the text is read as the integer, never as a binary64 number, and from there on numbers are compared
by their exact values.
-/

namespace AuditedStore

variable {v : Value} {q : ℚ} {n : Int64} {text : String}

/-! ### Stored numbers and the text of an integer -/

theorem Value.readNumber?_of_readInt64? (h : Numeral.readInt64? text = some n) :
  Value.readNumber? text = some (.int n)
  := by
  rw [Value.readNumber?, (FilterToken.IsPlain.of_readInt64? h).trim_eq_self, h]
  rfl

theorem Value.HasValue.isArray_eq_false (h : v.HasValue q) :
  v.isArray = false
  := by
  cases h with
  | int i => rfl
  | float x => rfl

/-- A stored number is compared with the text of an integer by their exact values. -/
theorem Query.looseCompare?_of_readInt64? (hv : v.HasValue q)
    (htext : Numeral.readInt64? text = some n) :
  Query.looseCompare? v (.string text) = some (compare q n.toInt)
  := by
  have hread := Value.readNumber?_of_readInt64? htext
  have hcompare := Value.compareTo_of_hasValue hv (.int n)
  apply Query.looseCompare?_eq_some_iff.mpr
  cases hv with
  | int i => exact ⟨.int n, hread, rfl, hcompare⟩
  | float x => exact ⟨.int n, hread, rfl, hcompare⟩

/-! ### Clauses that ask for a comparison -/

/-- The operator of a clause that asks for a comparison. -/
def FilterOperator.ofOrdering : Ordering → FilterOperator
  | .lt => lt
  | .eq => eq
  | .gt => gt

theorem FilterToken.toPredicate?_ofOrdering (kind : SchemaKind) (field value : String)
    (o : Ordering) :
  FilterToken.toPredicate? kind ⟨field, .ofOrdering o, value⟩
    = some (.comparing (kind.queryField field) (.string value) o)
  := by cases o <;> rfl

namespace Predicate

open FilterToken (IsPlain)

variable {kind : SchemaKind} {field f : String} {d : Document} {o : Ordering}

/-- The condition of a filter of one clause that asks for a comparison. -/
theorem withFilter_of_read? (hcomma : ',' ∉ f.toList) (htext : IsPlain text)
    (hread : FilterToken.read? f
      = some ⟨Text.trimStart field, .ofOrdering o, Text.trimEnd text⟩) :
  all.withFilter kind f = comparing (kind.queryField field) (.string text) o
  := by
  have hp := FilterToken.toPredicate?_ofOrdering kind (Text.trimStart field) (Text.trimEnd text) o
  rw [withFilter_eq_foldl, FilterToken.conditions_of_read? hcomma hread hp, List.foldl_cons,
    List.foldl_nil, Predicate.and, FilterToken.queryField_trimStart, htext.trimEnd_eq_self]

theorem withFilter_equality (hcomma : ',' ∉ field.toList) (hcolon : ':' ∉ field.toList)
    (htext : IsPlain text) :
  all.withFilter kind (field ++ ":" ++ text)
    = comparing (kind.queryField field) (.string text) .eq
  := by
  have hclause : ',' ∉ (field ++ ":" ++ text).toList := by
    simpa using ⟨hcomma, htext.comma_notMem⟩
  apply withFilter_of_read? hclause htext
  apply FilterToken.read?_equality hcolon htext.colon_notMem

theorem withFilter_comparison (hcomma : ',' ∉ field.toList) (hcolon : ':' ∉ field.toList)
    (htext : IsPlain text) (o : Ordering) :
  all.withFilter kind (field ++ ":" ++ (FilterOperator.ofOrdering o).name ++ ":" ++ text)
    = comparing (kind.queryField field) (.string text) o
  := by
  have hspelled := FilterOperator.isSpelledBy_name (.ofOrdering o)
  obtain ⟨hname, hname'⟩ := hspelled.notMem
  have hclause :
      ',' ∉ (field ++ ":" ++ (FilterOperator.ofOrdering o).name ++ ":" ++ text).toList := by
    simpa using ⟨hcomma, hname, htext.comma_notMem⟩
  apply withFilter_of_read? hclause htext
  apply FilterToken.read?_comparison hcolon hname' (FilterOperator.read?_eq_some_iff.mpr hspelled)
    htext.colon_notMem

/-- A comparison of a field with the text of an integer asks how the exact value of a stored number
compares with that integer. -/
theorem holds_comparing_of_readInt64? (hv : d.at? field = some v) (hq : v.HasValue q)
    (htext : Numeral.readInt64? text = some n) :
  (comparing field (.string text) o).holds d = true ↔ compare q n.toInt = o
  := by
  rw [holds_comparing hv hq.isArray_eq_false, Query.looseCompare?_of_readInt64? hq htext,
    Option.some.injEq]

/-- A clause with an integer in decimal asks whether a stored number, other than negative zero, is
equal to, less than or greater than that integer, as exact numbers. -/
theorem withFilter_integer (hcomma : ',' ∉ field.toList) (hcolon : ':' ∉ field.toList)
    (hv : d.at? (kind.queryField field) = some v) (hq : v.HasValue q) (n : Int64) :
  Numeral.readInt64? (toString n.toInt) = some n
  ∧ ∀ text, Numeral.readInt64? text = some n →
      ((all.withFilter kind (field ++ ":" ++ text)).holds d = true ↔ q = n.toInt)
      ∧ ((all.withFilter kind (field ++ ":" ++ "eq" ++ ":" ++ text)).holds d = true ↔ q = n.toInt)
      ∧ ((all.withFilter kind (field ++ ":" ++ "lt" ++ ":" ++ text)).holds d = true ↔ q < n.toInt)
      ∧ ((all.withFilter kind (field ++ ":" ++ "gt" ++ ":" ++ text)).holds d = true ↔ n.toInt < q)
  := by
  refine ⟨Numeral.readInt64?_toString n, fun text htext => ?_⟩
  have hplain := IsPlain.of_readInt64? htext
  have hcomparison : ∀ o : Ordering,
      (all.withFilter kind
        (field ++ ":" ++ (FilterOperator.ofOrdering o).name ++ ":" ++ text)).holds d = true
        ↔ compare q n.toInt = o := by
    intro o
    rw [withFilter_comparison hcomma hcolon hplain, holds_comparing_of_readInt64? hv hq htext]
  refine ⟨?_, ?_, ?_, ?_⟩
  · rw [withFilter_equality hcomma hcolon hplain, holds_comparing_of_readInt64? hv hq htext,
      compare_eq_iff_eq]
  · exact (hcomparison .eq).trans compare_eq_iff_eq
  · exact (hcomparison .lt).trans compare_lt_iff_lt
  · exact (hcomparison .gt).trans compare_gt_iff_gt

/-- A stored number is less than an integer that would be rounded to it. -/
theorem withFilter_integer_past_precision :
  let d : Document := ⟨"a", [("Limit", .float ⟨0x4340000000000000⟩)]⟩
  (all.withFilter .typed "limit:9007199254740993").holds d = false
  ∧ (all.withFilter .typed "limit:lt:9007199254740993").holds d = true
  := by
  intro d
  have hfield : SchemaKind.typed.queryField "limit" = "Limit" := by decide +kernel
  have hv : d.at? (SchemaKind.typed.queryField "limit") = some (.float ⟨0x4340000000000000⟩) := by
    rw [hfield]
    rfl
  have hq : (Value.float ⟨0x4340000000000000⟩).HasValue 9007199254740992 := by
    rw [← Value.toRat_two_pow_53]
    exact .float _ (by decide +kernel) (by decide +kernel)
  have hless : (9007199254740992 : ℚ) < (9007199254740993 : Int64).toInt := by
    have hint : (9007199254740993 : Int64).toInt = 9007199254740993 := rfl
    rw [hint]
    norm_num
  obtain ⟨-, hclauses⟩ :=
    withFilter_integer (by decide +kernel) (by decide +kernel) hv hq 9007199254740993
  obtain ⟨hequal_iff, -, hless_iff, -⟩ := hclauses "9007199254740993" (by decide +kernel)
  constructor
  · apply Bool.eq_false_iff.mpr
    intro h
    exact hless.ne (hequal_iff.mp h)
  · exact hless_iff.mpr hless

end Predicate

end AuditedStore
