import AuditedStore.Proofs.ObjectId
import AuditedStore.Proofs.Query.Conjunction
import AuditedStore.Proofs.Text
import Mathlib.Data.List.Basic

/-!
# Filters as conjunctions of their clauses

The clauses of a filter are its texts between commas, and each either adds one condition or is
passed over.  Joining two filters by a comma applies them one after the other; a document
satisfies a filter exactly if it satisfies the base and the condition of every clause, so that
neither the order of the clauses nor their number of times counts.
-/

namespace AuditedStore

namespace FilterToken

/-- A clause that adds no condition: it has another form, its operator is unknown, or its
pattern cannot be read. -/
inductive IsPassedOver (clause : String) : Prop where
  | otherForm (htwo : (Text.split ':' (Text.trim clause)).length ≠ 2)
      (hthree : (Text.split ':' (Text.trim clause)).length ≠ 3)
  | unknownOperator {field operator value : String}
      (hparts : Text.split ':' (Text.trim clause) = [field, operator, value])
      (hoperator : FilterOperator.read? operator = none)
  | unreadablePattern {field operator value : String}
      (hparts : Text.split ':' (Text.trim clause) = [field, operator, value])
      (hoperator : FilterOperator.read? operator = some .regex)
      (hpattern : SearchPattern.read? value = none)

/-- The condition of a clause, unless it is passed over. -/
def condition? (kind : SchemaKind) (clause : String) : Option Predicate :=
  (read? clause).bind fun t => t.toPredicate? kind

/-- The conditions of the clauses of a filter. -/
def conditions (kind : SchemaKind) (filter : String) : List Predicate :=
  (Text.split ',' filter).filterMap (condition? kind)

variable {kind : SchemaKind} {clause f g : String}

/-- Only the condition of a pattern can be missing. -/
theorem toPredicate?_eq_none_iff {t : FilterToken} :
  t.toPredicate? kind = none ↔ t.operator = .regex ∧ SearchPattern.read? t.value = none
  := by
  rw [toPredicate?]
  cases t.operator with
  | regex => simp
  | _ => simp

/-- The clauses that are passed over are those of another form, those with an unknown operator
and those with an unreadable pattern. -/
theorem condition?_eq_none_iff :
  condition? kind clause = none ↔ IsPassedOver clause
  := by
  constructor
  · intro h
    rw [condition?, read?] at h
    split at h
    · cases h
    · next field operator value hparts =>
        cases hoperator : FilterOperator.read? operator with
        | none => exact .unknownOperator hparts hoperator
        | some op =>
            rw [hoperator] at h
            obtain ⟨rfl, hpattern⟩ := toPredicate?_eq_none_iff.mp h
            exact .unreadablePattern hparts hoperator hpattern
    · next htwo hthree =>
        apply IsPassedOver.otherForm
        · rw [ne_eq, List.length_eq_two]
          rintro ⟨field, value, hparts⟩
          exact htwo field value hparts
        · rw [ne_eq, List.length_eq_three]
          rintro ⟨field, operator, value, hparts⟩
          exact hthree field operator value hparts
  · intro h
    rw [condition?, read?]
    cases h with
    | otherForm htwo hthree =>
        split
        · next hparts => exact absurd (congrArg List.length hparts) htwo
        · next hparts => exact absurd (congrArg List.length hparts) hthree
        · rfl
    | unknownOperator hparts hoperator => simp [hparts, hoperator]
    | unreadablePattern hparts hoperator hpattern =>
        simp [hparts, hoperator, toPredicate?_eq_none_iff, hpattern]

/-- A blank clause is passed over. -/
theorem IsPassedOver.of_isBlank (h : Text.isBlank clause = true) :
  IsPassedOver clause
  := by
  have hparts : Text.split ':' (Text.trim clause) = [""] := by
    rw [Text.trim_of_isBlank h]
    rfl
  apply IsPassedOver.otherForm
  · simp [hparts]
  · simp [hparts]

theorem conditions_eq_nil (h : ∀ clause ∈ Text.split ',' f, IsPassedOver clause) :
  conditions kind f = []
  := by
  apply List.filterMap_eq_nil_iff.mpr
  intro clause hclause
  apply condition?_eq_none_iff.mpr (h clause hclause)

/-- Filters that are joined by a comma have the conditions of both. -/
theorem conditions_append (f g : String) :
  conditions kind (f ++ "," ++ g) = conditions kind f ++ conditions kind g
  := by
  have hclauses : Text.split ',' (f ++ "," ++ g) = Text.split ',' f ++ Text.split ',' g :=
    Text.split_append ',' f g
  rw [conditions, hclauses, List.filterMap_append, conditions, conditions]

/-! ### Clauses without separators in their parts -/

theorem queryField_trimStart (kind : SchemaKind) (field : String) :
  kind.queryField (Text.trimStart field) = kind.queryField field
  := by rw [SchemaKind.queryField, SchemaKind.queryField, Text.trim_trimStart]

theorem split_trimStart {field : String} (h : ':' ∉ field.toList) :
  Text.split ':' (Text.trimStart field) = [Text.trimStart field]
  := Text.split_of_notMem fun hc => h (Text.mem_of_mem_trimStart hc)

theorem split_trimEnd {value : String} (h : ':' ∉ value.toList) :
  Text.split ':' (Text.trimEnd value) = [Text.trimEnd value]
  := Text.split_of_notMem fun hc => h (Text.mem_of_mem_trimEnd hc)

/-- A clause of two parts asks for equality. -/
theorem read?_equality {field value : String} (hfield : ':' ∉ field.toList)
    (hvalue : ':' ∉ value.toList) :
  read? (field ++ ":" ++ value) = some ⟨Text.trimStart field, .eq, Text.trimEnd value⟩
  := by
  have hcolon : ":" = String.singleton ':' := rfl
  rw [read?, hcolon, Text.trim_append (by decide), Text.split_append, split_trimStart hfield,
    split_trimEnd hvalue]
  rfl

/-- A clause of three parts asks for what its operator says, if that can be read. -/
theorem read?_threeParts {field operator value : String} (hfield : ':' ∉ field.toList)
    (hoperator : ':' ∉ operator.toList) (hvalue : ':' ∉ value.toList) :
  read? (field ++ ":" ++ operator ++ ":" ++ value)
    = (FilterOperator.read? operator).map fun op =>
        ⟨Text.trimStart field, op, Text.trimEnd value⟩
  := by
  have hcolon : ":" = String.singleton ':' := rfl
  rw [read?, hcolon, Text.trim_append (by decide), Text.trimStart_append (by decide),
    Text.split_append, Text.split_append, split_trimStart hfield, Text.split_of_notMem hoperator,
    split_trimEnd hvalue]
  rfl

theorem read?_comparison {field operator value : String} {op : FilterOperator}
    (hfield : ':' ∉ field.toList) (hoperator : ':' ∉ operator.toList)
    (hread : FilterOperator.read? operator = some op) (hvalue : ':' ∉ value.toList) :
  read? (field ++ ":" ++ operator ++ ":" ++ value)
    = some ⟨Text.trimStart field, op, Text.trimEnd value⟩
  := by rw [read?_threeParts hfield hoperator hvalue, hread, Option.map_some]

/-- The condition of a filter of one clause. -/
theorem conditions_of_read? {t : FilterToken} {p : Predicate} (hcomma : ',' ∉ clause.toList)
    (ht : read? clause = some t) (hp : t.toPredicate? kind = some p) :
  conditions kind clause = [p]
  := by
  have hcondition : condition? kind clause = some p := by
    rw [condition?, ht, Option.bind_some, hp]
  rw [conditions, Text.split_of_notMem hcomma, List.filterMap_cons_some hcondition,
    List.filterMap_nil]

/-- A text that stands in a clause as it is: none of its characters separates anything. -/
def IsPlain (s : String) : Prop :=
  ∀ c ∈ s.toList, c ≠ ',' ∧ c ≠ ':' ∧ Text.isBlankChar c = false

namespace IsPlain

variable {s : String}

theorem comma_notMem (h : IsPlain s) :
  ',' ∉ s.toList
  := fun hc => (h _ hc).1 rfl

theorem colon_notMem (h : IsPlain s) :
  ':' ∉ s.toList
  := fun hc => (h _ hc).2.1 rfl

theorem trim_eq_self (h : IsPlain s) :
  Text.trim s = s
  := Text.trim_eq_self fun c hc => (h c hc).2.2

theorem trimEnd_eq_self (h : IsPlain s) :
  Text.trimEnd s = s
  := Text.trimEnd_eq_self fun c hc => (h c hc).2.2

/-- A text that is read as an id is plain. -/
theorem of_read? (h : (ObjectId.read? s).isSome = true) :
  IsPlain s
  := by
  obtain ⟨id, hid⟩ := Option.isSome_iff_exists.mp h
  intro c hc
  have hdigit := ObjectId.isSome_hexDigit?_of_read? hid hc
  refine ⟨?_, ?_, Text.isBlankChar_of_hexDigit? hdigit⟩
  · rintro rfl
    cases hdigit
  · rintro rfl
    cases hdigit

theorem toText (id : ObjectId) :
  IsPlain id.toText
  := .of_read? (by rw [ObjectId.read?_toText, Option.isSome_some])

/-- The numeral of a word is plain. -/
theorem of_readInt64? {i : Int64} (h : Numeral.readInt64? s = some i) :
  IsPlain s
  := by
  intro c hc
  rcases Numeral.of_mem_of_readInt64? h hc with hdigit | rfl | rfl
  · obtain ⟨hlower, hupper⟩ := Numeral.isDigit_iff.mp hdigit
    refine ⟨?_, ?_, Text.isBlankChar_of_isDigit hdigit⟩
    · rintro rfl
      cases hdigit
    · rintro rfl
      cases hdigit
  · decide
  · decide

end IsPlain

/-- The only clause of the filter for an id asks for the id. -/
theorem conditions_hasId (kind : SchemaKind) {id : String} (h : IsPlain id) :
  conditions kind ("_id:" ++ id) = [.hasId id]
  := by
  have hclause : "_id:" ++ id = "_id" ++ ":" ++ id := rfl
  have hcomma : ',' ∉ ("_id" ++ ":" ++ id).toList := by
    simpa using h.comma_notMem
  have hfield : kind.queryField (Text.trimStart "_id") = idField := by
    cases kind with
    | dynamic => decide +kernel
    | typed => decide +kernel
  rw [hclause]
  apply conditions_of_read? hcomma (read?_equality (by decide) h.colon_notMem)
  rw [toPredicate?, hfield, h.trimEnd_eq_self]
  rfl

end FilterToken

namespace Predicate

open FilterToken (IsPassedOver condition? conditions conditions_append conditions_eq_nil)

variable {base : Predicate} {kind : SchemaKind} {f g : String} {d : Document}

theorem holdAll_eq_true_iff {ps : List Predicate} :
  holdAll d ps = true ↔ ∀ p ∈ ps, p.holds d = true
  := by
  induction ps with
  | nil => simp [holdAll]
  | cons p ps ih => rw [holdAll, Bool.and_eq_true, ih, List.forall_mem_cons]

/-- A filter joins the conditions of its clauses with the base one by one. -/
theorem withFilter_eq_foldl (base : Predicate) (kind : SchemaKind) (f : String) :
  base.withFilter kind f = (conditions kind f).foldl Predicate.and base
  := by
  have hconditions : (FilterToken.readAll f).filterMap (·.toPredicate? kind) = conditions kind f :=
    List.filterMap_filterMap ..
  rw [withFilter, hconditions]
  split
  · next hblank =>
      -- The clauses of a blank filter are blank.
      rw [conditions_eq_nil fun _ hc => .of_isBlank (Text.isBlank_of_mem_split hblank hc),
        List.foldl_nil]
  · rfl

/-- Joined filters are applied one after the other. -/
theorem withFilter_append (base : Predicate) (kind : SchemaKind) (f g : String) :
  base.withFilter kind (f ++ "," ++ g) = (base.withFilter kind f).withFilter kind g
  := by
  rw [withFilter_eq_foldl, conditions_append, List.foldl_append, ← withFilter_eq_foldl,
    ← withFilter_eq_foldl]

/-- A filter whose clauses are all passed over changes nothing. -/
theorem withFilter_eq_self (h : ∀ clause ∈ Text.split ',' f, IsPassedOver clause) :
  base.withFilter kind f = base
  := by rw [withFilter_eq_foldl, conditions_eq_nil h, List.foldl_nil]

/-- A document satisfies a filter exactly if it satisfies the base and every clause. -/
theorem holds_withFilter_iff :
  (base.withFilter kind f).holds d = true
    ↔ base.holds d = true
      ∧ ∀ clause ∈ Text.split ',' f, ∀ p, condition? kind clause = some p → p.holds d = true
  := by
  rw [withFilter_eq_foldl, holds_foldl_and, Bool.and_eq_true, holdAll_eq_true_iff]
  apply and_congr_right'
  constructor
  · intro h clause hclause p hp
    apply h p (List.mem_filterMap.mpr ⟨clause, hclause, hp⟩)
  · intro h p hp
    obtain ⟨clause, hclause, hcondition⟩ := List.mem_filterMap.mp hp
    apply h clause hclause p hcondition

/-- A filter is the conjunction of its clauses that are not passed over: joined filters are
applied one after the other; a document satisfies a filter exactly if it satisfies the base
and the predicate of every clause that is read and has one; filters with the same clauses, in
any order and any number of times, are satisfied alike; clauses that are passed over change
nothing wherever they stand; and no filter makes a document satisfy what the base rejects. -/
theorem withFilter_clauses (base : Predicate) (kind : SchemaKind) :
  (∀ f g, base.withFilter kind (f ++ "," ++ g) = (base.withFilter kind f).withFilter kind g)
    ∧ (∀ f d, (base.withFilter kind f).holds d = true
        ↔ base.holds d = true
          ∧ ∀ clause ∈ Text.split ',' f, ∀ t p, FilterToken.read? clause = some t →
              t.toPredicate? kind = some p → p.holds d = true)
    ∧ (∀ f g, (∀ clause, clause ∈ Text.split ',' f ↔ clause ∈ Text.split ',' g) →
        ∀ d, (base.withFilter kind f).holds d = (base.withFilter kind g).holds d)
    ∧ (∀ f g, (∀ clause ∈ Text.split ',' g, IsPassedOver clause) →
        base.withFilter kind (f ++ "," ++ g) = base.withFilter kind f
        ∧ base.withFilter kind (g ++ "," ++ f) = base.withFilter kind f)
    ∧ ∀ f d, base.holds d = false → (base.withFilter kind f).holds d = false
  := by
  refine ⟨withFilter_append base kind, ?_, ?_, ?_, ?_⟩
  · intro f d
    rw [holds_withFilter_iff]
    apply and_congr_right'
    simp only [condition?, Option.bind_eq_some_iff]
    constructor
    · intro h clause hclause t p ht hp
      apply h clause hclause p ⟨t, ht, hp⟩
    · rintro h clause hclause p ⟨t, ht, hp⟩
      apply h clause hclause t p ht hp
  · intro f g hsame d
    apply Bool.eq_iff_iff.mpr
    rw [holds_withFilter_iff, holds_withFilter_iff]
    simp only [hsame]
  · intro f g hpassed
    constructor
    · rw [withFilter_append, withFilter_eq_self hpassed]
    · rw [withFilter_append, withFilter_eq_self hpassed]
  · intro f d hd
    apply Bool.eq_false_iff.mpr
    intro h
    rw [(holds_withFilter_iff.mp h).1] at hd
    cases hd

/-- Two clauses are given in another order, one of them twice, and with an unknown operator
between them. -/
theorem withFilter_clauses_reordered :
  let base : Predicate := .equal "Deleted" (.bool false)
  base.withFilter .typed ("limit:gt:10" ++ "," ++ "color:like:red")
      = base.withFilter .typed "limit:gt:10"
    ∧ ∀ d, (base.withFilter .typed "limit:gt:10,name:visa,limit:gt:10").holds d
        = (base.withFilter .typed "name:visa,limit:gt:10").holds d
  := by
  intro base
  obtain ⟨-, -, hsame, hpassed, -⟩ := withFilter_clauses base .typed
  constructor
  · apply (hpassed "limit:gt:10" "color:like:red" _).1
    have hclause : Text.split ',' "color:like:red" = ["color:like:red"] := by decide +kernel
    have hparts : Text.split ':' (Text.trim "color:like:red") = ["color", "like", "red"] := by
      decide +kernel
    rw [hclause, List.forall_mem_singleton]
    exact .unknownOperator hparts (by decide +kernel)
  · apply hsame
    have hclauses : Text.split ',' "limit:gt:10,name:visa,limit:gt:10"
        = ["limit:gt:10", "name:visa", "limit:gt:10"] := by decide +kernel
    have hclauses' : Text.split ',' "name:visa,limit:gt:10" = ["name:visa", "limit:gt:10"] := by
      decide +kernel
    intro clause
    rw [hclauses, hclauses']
    simp [or_comm]

end Predicate

end AuditedStore
