import AuditedStore.Query.Predicate

/-!
# Filter strings

A filter is a text of clauses with commas between them.  A clause is `field:value`, which
asks for equality, or `field:operator:value` with the operator `eq`, `lt`, `gt`, `regex` or
`contains` in any letter case.  Clauses of another form, and patterns that cannot be read,
are passed over.
-/

namespace AuditedStore

/-- The operator of a clause. -/
inductive FilterOperator where
  | eq
  | lt
  | gt
  /-- A search for a pattern. -/
  | regex
deriving DecidableEq, Repr

/-- A clause of a filter. -/
structure FilterToken where
  field : String
  operator : FilterOperator
  value : String
deriving DecidableEq, Repr

/-- Reads an operator. -/
def FilterOperator.read? (s : String) : Option FilterOperator :=
  match Text.asciiLower s with
  | "eq" => some eq
  | "lt" => some lt
  | "gt" => some gt
  | "regex" => some regex
  | "contains" => some regex
  | _ => none

/-- The name of an operator. -/
def FilterOperator.name : FilterOperator → String
  | eq => "eq"
  | lt => "lt"
  | gt => "gt"
  | regex => "regex"

namespace FilterToken

/-- Reads a clause. -/
def read? (clause : String) : Option FilterToken :=
  match Text.split ':' (Text.trim clause) with
  | [field, value] => some ⟨field, .eq, value⟩
  | [field, operator, value] =>
    (FilterOperator.read? operator).map fun operator => ⟨field, operator, value⟩
  | _ => none

/-- The clauses of a filter. -/
def readAll (filter : String) : List FilterToken := (Text.split ',' filter).filterMap read?

/-- The predicate of a clause, unless its pattern cannot be read. -/
def toPredicate? (kind : SchemaKind) (t : FilterToken) : Option Predicate :=
  let field := kind.queryField t.field
  match t.operator with
  | .eq => some (.equal field (.string t.value))
  | .lt => some (.less field (.string t.value))
  | .gt => some (.greater field (.string t.value))
  | .regex => (SearchPattern.read? t.value).map (.search field)

end FilterToken

/-- The conjunction of a predicate with the clauses of a filter. -/
def Predicate.withFilter (base : Predicate) (kind : SchemaKind) (filter : String) : Predicate :=
  if Text.isBlank filter then base
  else ((FilterToken.readAll filter).filterMap (·.toPredicate? kind)).foldl Predicate.and base

end AuditedStore
