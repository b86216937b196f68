import AuditedStore.Proofs.Query.Filtering

/-!
# The grammar of filters

A filter is a list of clauses with commas between them.  A clause writes a token: it has the field
and the value, with a colon or with an operator between two colons between them, and perhaps blanks
around all.  Any other clause is malformed and writes nothing.  Reading a filter gives exactly the
tokens that its clauses write, in their order; and the tokens that can be read are those that can be
written.
-/

namespace AuditedStore

/-! ### Operators -/

namespace FilterOperator

/-- The names of an operator. -/
def names : FilterOperator → List String
  | eq => ["eq"]
  | lt => ["lt"]
  | gt => ["gt"]
  | regex => ["regex", "contains"]

/-- A text spells an operator: it is one of its names, in any letter case. -/
def IsSpelledBy (op : FilterOperator) (s : String) : Prop :=
  ∃ name ∈ op.names, Text.sameIgnoringCase s name = true

variable {op : FilterOperator} {s : String}

theorem isSpelledBy_iff :
  op.IsSpelledBy s ↔ Text.asciiLower s ∈ op.names
  := by
  have hnames : ∀ name ∈ op.names, Text.asciiLower name = name := by
    cases op <;> decide +kernel
  constructor
  · rintro ⟨name, hname, hs⟩
    rw [Text.sameIgnoringCase, beq_iff_eq, hnames name hname] at hs
    rwa [hs]
  · intro hs
    refine ⟨_, hs, ?_⟩
    rw [Text.sameIgnoringCase, hnames _ hs, beq_self_eq_true]

/-- Exactly the texts that spell an operator are read as it. -/
theorem read?_eq_some_iff :
  read? s = some op ↔ op.IsSpelledBy s
  := by
  rw [isSpelledBy_iff, read?]
  constructor
  · intro h
    split at h
    all_goals
      cases h
    all_goals
      next hs =>
        rw [hs]
        decide
  · intro h
    cases op with
    | regex =>
        rcases List.mem_pair.mp h with hs | hs
        · rw [hs]
          rfl
        · rw [hs]
          rfl
    | _ =>
        rw [List.mem_singleton.mp h]
        rfl

theorem isSpelledBy_name (op : FilterOperator) :
  op.IsSpelledBy op.name
  := by
  apply isSpelledBy_iff.mpr
  cases op <;> decide +kernel

/-- A text that spells an operator has no separators in it. -/
theorem IsSpelledBy.notMem (h : op.IsSpelledBy s) :
  ',' ∉ s.toList ∧ ':' ∉ s.toList
  := by
  have hnames : ∀ name ∈ op.names, ',' ∉ name.toList ∧ ':' ∉ name.toList := by
    cases op <;> decide +kernel
  obtain ⟨hcomma, hcolon⟩ := hnames _ (isSpelledBy_iff.mp h)
  rw [Text.asciiLower, String.toList_ofList] at hcomma hcolon
  exact ⟨fun hmem => hcomma (List.mem_map_of_mem hmem), fun hmem => hcolon (List.mem_map_of_mem hmem)⟩

end FilterOperator

/-! ### Clauses -/

namespace FilterToken

/-- A token that a clause can write: its parts have no separators in them, and no blanks where the
clause is trimmed. -/
structure IsWritable (t : FilterToken) : Prop where
  comma_field : ',' ∉ t.field.toList
  colon_field : ':' ∉ t.field.toList
  comma_value : ',' ∉ t.value.toList
  colon_value : ':' ∉ t.value.toList
  field_start : Text.IsTrimmedStart t.field
  value_end : Text.IsTrimmedEnd t.value

/-- A clause writes a token, perhaps with blanks around. -/
inductive Writes : String → FilterToken → Prop where
  | equality {front field value back : String}
      (hfront : Text.isBlank front = true) (hback : Text.isBlank back = true)
      (ht : IsWritable ⟨field, .eq, value⟩) :
      Writes (front ++ field ++ ":" ++ (value ++ back)) ⟨field, .eq, value⟩
  | comparison {front field operator value back : String} {op : FilterOperator}
      (hfront : Text.isBlank front = true) (hback : Text.isBlank back = true)
      (hop : op.IsSpelledBy operator) (ht : IsWritable ⟨field, op, value⟩) :
      Writes (front ++ field ++ ":" ++ operator ++ ":" ++ (value ++ back)) ⟨field, op, value⟩

/-- A clause of another form than those that write tokens: it has not one or two colons, or it has
two and what stands between them spells no operator. -/
inductive IsMalformed (clause : String) : Prop where
  | otherForm (hone : clause.toList.count ':' ≠ 1) (htwo : clause.toList.count ':' ≠ 2)
  | unknownOperator {field operator value : String}
      (hclause : clause = field ++ ":" ++ operator ++ ":" ++ value)
      (hfield : ':' ∉ field.toList) (hoperator : ':' ∉ operator.toList)
      (hvalue : ':' ∉ value.toList)
      (hunknown : ∀ op : FilterOperator, ¬ op.IsSpelledBy operator)

variable {clause : String} {t : FilterToken}

theorem colon_notMem_append {s t : String} (hs : ':' ∉ s.toList) (ht : ':' ∉ t.toList) :
  ':' ∉ (s ++ t).toList
  := by
  rw [String.toList_append, List.mem_append, not_or]
  exact ⟨hs, ht⟩

theorem colon_notMem_of_isBlank {s : String} (h : Text.isBlank s = true) :
  ':' ∉ s.toList
  := Text.notMem_of_isBlank h (by decide)

/-- A clause that writes a token is read as it. -/
theorem Writes.read?_eq (h : Writes clause t) :
  read? clause = some t
  := by
  cases h with
  | equality hfront hback ht =>
      rw [read?_equality (colon_notMem_append (colon_notMem_of_isBlank hfront) ht.colon_field)
        (colon_notMem_append ht.colon_value (colon_notMem_of_isBlank hback)),
        ht.field_start.trimStart_append hfront, ht.value_end.trimEnd_append hback]
  | comparison hfront hback hop ht =>
      rw [read?_comparison (colon_notMem_append (colon_notMem_of_isBlank hfront) ht.colon_field)
        hop.notMem.2 (FilterOperator.read?_eq_some_iff.mpr hop)
        (colon_notMem_append ht.colon_value (colon_notMem_of_isBlank hback)),
        ht.field_start.trimStart_append hfront, ht.value_end.trimEnd_append hback]

/-- The parts of a clause can be written if the clause has no comma. -/
theorem isWritable_of_trim_eq {field between value : String} (op : FilterOperator)
    (hcomma : ',' ∉ clause.toList) (hclause : Text.trim clause = field ++ between ++ value)
    (hfield : ':' ∉ field.toList) (hvalue : ':' ∉ value.toList) :
  IsWritable ⟨field, op, value⟩
  := by
  have hstart := hclause ▸ Text.isTrimmedStart_trim clause
  have hend := hclause ▸ Text.isTrimmedEnd_trim clause
  have hcommaTrim : ',' ∉ (Text.trim clause).toList := by
    rwa [← List.count_eq_zero, Text.count_trim (by decide), List.count_eq_zero]
  rw [hclause] at hcommaTrim
  simp only [String.toList_append, List.mem_append, not_or] at hcommaTrim
  obtain ⟨⟨hcommaField, -⟩, hcommaValue⟩ := hcommaTrim
  exact ⟨hcommaField, hfield, hcommaValue, hvalue, hstart.of_append.of_append, hend.of_append⟩

theorem split_eq_pair_iff {s field value : String} :
  Text.split ':' s = [field, value]
    ↔ s = field ++ ":" ++ value ∧ ':' ∉ field.toList ∧ ':' ∉ value.toList
  := by
  rw [Text.split_eq_iff (List.cons_ne_nil _ _)]
  simp

theorem split_eq_triple_iff {s field operator value : String} :
  Text.split ':' s = [field, operator, value]
    ↔ s = field ++ ":" ++ operator ++ ":" ++ value
      ∧ ':' ∉ field.toList ∧ ':' ∉ operator.toList ∧ ':' ∉ value.toList
  := by
  rw [Text.split_eq_iff (List.cons_ne_nil _ _)]
  simp [String.append_assoc]

/-- A clause without a comma writes the token that it is read as. -/
theorem writes_of_read? (hcomma : ',' ∉ clause.toList) (h : read? clause = some t) :
  Writes clause t
  := by
  obtain ⟨front, back, hfront, hback, heq⟩ := Text.exists_eq_append_trim clause
  rw [read?] at h
  split at h
  · next field value hparts =>
      cases h
      obtain ⟨htrim, hfield, hvalue⟩ := split_eq_pair_iff.mp hparts
      have hclause : clause = front ++ field ++ ":" ++ (value ++ back) := by
        rw [heq, htrim]
        simp only [String.append_assoc]
      rw [hclause]
      exact .equality hfront hback (isWritable_of_trim_eq .eq hcomma htrim hfield hvalue)
  · next field operator value hparts =>
      obtain ⟨op, hop, rfl⟩ := Option.map_eq_some_iff.mp h
      obtain ⟨htrim, hfield, -, hvalue⟩ := split_eq_triple_iff.mp hparts
      have hclause : clause = front ++ field ++ ":" ++ operator ++ ":" ++ (value ++ back) := by
        rw [heq, htrim]
        simp only [String.append_assoc]
      have htrim' : Text.trim clause = field ++ (":" ++ operator ++ ":") ++ value := by
        rw [htrim]
        simp only [String.append_assoc]
      rw [hclause]
      exact .comparison hfront hback (FilterOperator.read?_eq_some_iff.mp hop)
        (isWritable_of_trim_eq op hcomma htrim' hfield hvalue)
  · cases h

/-- A clause with two colons whose operator cannot be read is malformed. -/
theorem isMalformed_of_split {field operator value : String}
    (hparts : Text.split ':' (Text.trim clause) = [field, operator, value])
    (hoperator : FilterOperator.read? operator = none) :
  IsMalformed clause
  := by
  obtain ⟨front, back, hfront, hback, heq⟩ := Text.exists_eq_append_trim clause
  obtain ⟨htrim, hfield, hcolon, hvalue⟩ := split_eq_triple_iff.mp hparts
  have hclause : clause = front ++ field ++ ":" ++ operator ++ ":" ++ (value ++ back) := by
    rw [heq, htrim]
    simp only [String.append_assoc]
  apply IsMalformed.unknownOperator hclause
    (colon_notMem_append (colon_notMem_of_isBlank hfront) hfield) hcolon
    (colon_notMem_append hvalue (colon_notMem_of_isBlank hback))
  intro op hop
  rw [FilterOperator.read?_eq_some_iff.mpr hop] at hoperator
  cases hoperator

/-- The clauses that are not read are the malformed ones. -/
theorem read?_eq_none_iff :
  read? clause = none ↔ IsMalformed clause
  := by
  have hlength : (Text.split ':' (Text.trim clause)).length = clause.toList.count ':' + 1 := by
    rw [Text.length_split, Text.count_trim (by decide)]
  constructor
  · intro h
    rw [read?] at h
    split at h
    · cases h
    · next hparts => exact isMalformed_of_split hparts (Option.map_eq_none_iff.mp h)
    · next htwo hthree =>
        apply IsMalformed.otherForm
        · intro hone
          obtain ⟨field, value, hparts⟩ := List.length_eq_two.mp (hlength.trans (by rw [hone]))
          exact htwo field value hparts
        · intro htwo
          obtain ⟨field, operator, value, hparts⟩ :=
            List.length_eq_three.mp (hlength.trans (by rw [htwo]))
          exact hthree field operator value hparts
  · intro h
    cases h with
    | otherForm hone htwo =>
        rw [read?]
        split
        · next hparts => simp [hparts, hone] at hlength
        · next hparts => simp [hparts, htwo] at hlength
        · rfl
    | unknownOperator hclause hfield hoperator hvalue hunknown =>
        rw [hclause, read?_threeParts hfield hoperator hvalue, Option.map_eq_none_iff,
          Option.eq_none_iff_forall_ne_some]
        exact fun op hop => hunknown op (FilterOperator.read?_eq_some_iff.mp hop)

/-! ### Filters -/

/-- Clauses write tokens: each writes the next one, or is malformed and writes none. -/
inductive WritesAll : List String → List FilterToken → Prop where
  | nil : WritesAll [] []
  | token {clause : String} {t : FilterToken} {clauses : List String} {ts : List FilterToken}
      (h : Writes clause t) (hs : WritesAll clauses ts) : WritesAll (clause :: clauses) (t :: ts)
  | malformed {clause : String} {clauses : List String} {ts : List FilterToken}
      (hcomma : ',' ∉ clause.toList) (h : IsMalformed clause) (hs : WritesAll clauses ts) :
      WritesAll (clause :: clauses) ts

/-- The plain clause that writes a token. -/
def write (t : FilterToken) : String := t.field ++ ":" ++ t.operator.name ++ ":" ++ t.value

/-- The filter of the plain clauses that write some tokens. -/
def writeAll (ts : List FilterToken) : String := ",".intercalate (ts.map write)

variable {clauses : List String} {ts : List FilterToken} {s : String}

theorem Writes.isWritable (h : Writes clause t) :
  t.IsWritable
  := by
  cases h with
  | equality _ _ ht => exact ht
  | comparison _ _ _ ht => exact ht

/-- A clause that writes a token has no comma. -/
theorem Writes.comma_notMem (h : Writes clause t) :
  ',' ∉ clause.toList
  := by
  have hblank : ∀ s, Text.isBlank s = true → ',' ∉ s.toList :=
    fun s hs => Text.notMem_of_isBlank hs (by decide)
  cases h with
  | equality hfront hback ht =>
      simp [hblank _ hfront, hblank _ hback, ht.comma_field, ht.comma_value]
  | comparison hfront hback hop ht =>
      simp [hblank _ hfront, hblank _ hback, hop.notMem.1, ht.comma_field, ht.comma_value]

theorem WritesAll.comma_notMem (h : WritesAll clauses ts) :
  ∀ clause ∈ clauses, ',' ∉ clause.toList
  := by
  induction h with
  | nil => exact fun _ hmem => absurd hmem List.not_mem_nil
  | token h _ ih => exact List.forall_mem_cons.mpr ⟨h.comma_notMem, ih⟩
  | malformed hcomma _ _ ih => exact List.forall_mem_cons.mpr ⟨hcomma, ih⟩

theorem WritesAll.isWritable (h : WritesAll clauses ts) :
  ∀ t ∈ ts, t.IsWritable
  := by
  induction h with
  | nil => exact fun _ hmem => absurd hmem List.not_mem_nil
  | token h _ ih => exact List.forall_mem_cons.mpr ⟨h.isWritable, ih⟩
  | malformed _ _ _ ih => exact ih

/-- Exactly the tokens are read one by one that clauses without commas write. -/
theorem filterMap_read?_eq_iff (hcomma : ∀ clause ∈ clauses, ',' ∉ clause.toList) :
  clauses.filterMap read? = ts ↔ WritesAll clauses ts
  := by
  constructor
  · rintro rfl
    induction clauses with
    | nil => exact .nil
    | cons clause clauses ih =>
        obtain ⟨hclause, hrest⟩ := List.forall_mem_cons.mp hcomma
        cases h : read? clause with
        | none =>
            rw [List.filterMap_cons_none h]
            exact .malformed hclause (read?_eq_none_iff.mp h) (ih hrest)
        | some t =>
            rw [List.filterMap_cons_some h]
            exact .token (writes_of_read? hclause h) (ih hrest)
  · intro h
    induction h with
    | nil => rfl
    | token h _ ih =>
        rw [List.filterMap_cons_some h.read?_eq, ih (List.forall_mem_cons.mp hcomma).2]
    | malformed _ h _ ih =>
        rw [List.filterMap_cons_none (read?_eq_none_iff.mpr h), ih (List.forall_mem_cons.mp hcomma).2]

/-- Without clauses, nothing is read. -/
theorem readAll_empty :
  readAll "" = []
  := by decide +kernel

/-- A filter is read as the tokens that its clauses write. -/
theorem readAll_eq_iff :
  readAll s = ts ↔ ∃ clauses, s = ",".intercalate clauses ∧ WritesAll clauses ts
  := by
  have hcommaText : "," = String.singleton ',' := rfl
  constructor
  · intro h
    refine ⟨Text.split ',' s, (Text.intercalate_split ',' s).symm, ?_⟩
    exact (filterMap_read?_eq_iff fun _ hmem => Text.notMem_of_mem_split hmem).mp h
  · rintro ⟨clauses, rfl, h⟩
    by_cases hne : clauses = []
    · -- The filter of no clauses is cut into one blank clause.
      subst hne
      cases h
      exact readAll_empty
    · rw [readAll, hcommaText, Text.split_intercalate hne h.comma_notMem]
      exact (filterMap_read?_eq_iff h.comma_notMem).mpr h

theorem isWritable_of_mem_readAll (h : t ∈ readAll s) :
  t.IsWritable
  := by
  obtain ⟨clauses, -, hwrites⟩ := readAll_eq_iff.mp (rfl : readAll s = readAll s)
  exact hwrites.isWritable t h

theorem IsWritable.writes_write (h : t.IsWritable) :
  Writes t.write t
  := by
  have hblank : Text.isBlank "" = true := rfl
  have hclause := Writes.comparison hblank hblank (FilterOperator.isSpelledBy_name t.operator) h
  rwa [String.empty_append, String.append_empty] at hclause

/-- Tokens are read back from the filter that is written for them exactly if they can be
written. -/
theorem readAll_writeAll_iff :
  readAll (writeAll ts) = ts ↔ ∀ t ∈ ts, t.IsWritable
  := by
  constructor
  · intro h t ht
    rw [← h] at ht
    exact isWritable_of_mem_readAll ht
  · intro h
    refine readAll_eq_iff.mpr ⟨_, rfl, ?_⟩
    induction ts with
    | nil => exact .nil
    | cons t ts ih =>
        obtain ⟨ht, hts⟩ := List.forall_mem_cons.mp h
        exact .token ht.writes_write (ih hts)

/-- Reading filters follows their grammar.  A filter is read as some tokens exactly if it is joined
of clauses that write them in turn, with malformed clauses anywhere between; tokens are read back
from the filter that is written for them exactly if they can be written; and the tokens of every
filter can be, so that they are the same when they are written and read again. -/
theorem readAll_grammatical :
  (∀ s ts, readAll s = ts ↔ ∃ clauses, s = ",".intercalate clauses ∧ WritesAll clauses ts)
    ∧ (∀ ts, readAll (writeAll ts) = ts ↔ ∀ t ∈ ts, t.IsWritable)
    ∧ ∀ s, (∀ t ∈ readAll s, t.IsWritable) ∧ readAll (writeAll (readAll s)) = readAll s
  := by
  refine ⟨fun _ _ => readAll_eq_iff, fun _ => readAll_writeAll_iff, fun s => ?_⟩
  have hwritable : ∀ t ∈ readAll s, t.IsWritable := fun _ ht => isWritable_of_mem_readAll ht
  exact ⟨hwritable, readAll_writeAll_iff.mpr hwritable⟩

/-- Two tokens are written with blanks around them and a clause with an unknown operator between
them. -/
theorem readAll_grammatical_unknown :
  let clauses := [" name:Visa", "limit:like:5", "limit:GT:10\t"]
  let ts : List FilterToken := [⟨"name", .eq, "Visa"⟩, ⟨"limit", .gt, "10"⟩]
  WritesAll clauses ts
    ∧ readAll (",".intercalate clauses) = ts
    ∧ IsWritable ⟨"limit", .gt, "10"⟩
  := by
  intro clauses ts
  obtain ⟨hread, -, htokens⟩ := readAll_grammatical
  have hcomma : ∀ clause ∈ clauses, ',' ∉ clause.toList := by decide +kernel
  have hwrites : WritesAll clauses ts := (filterMap_read?_eq_iff hcomma).mp (by decide +kernel)
  have hts : readAll (",".intercalate clauses) = ts := (hread _ _).mpr ⟨clauses, rfl, hwrites⟩
  refine ⟨hwrites, hts, (htokens (",".intercalate clauses)).1 _ ?_⟩
  rw [hts]
  exact List.mem_cons_of_mem _ List.mem_cons_self

end FilterToken

end AuditedStore
