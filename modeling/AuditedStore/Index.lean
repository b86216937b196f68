import AuditedStore.Query.Sort

/-!
# Indexes

An index has a name, a collection and a list of fields with directions.  Records declare
their fields one by one, each under the name of an index and with a column;
`IndexDefinition.ofFields` groups the declarations into indexes, in the order of names, and
orders the fields of each by column.
-/

namespace AuditedStore

/-- An index of a collection. -/
structure IndexDefinition where
  name : String
  collection : String
  keys : List SortKey
  /-- Whether writers go on while the index is built. -/
  background : Bool
deriving DecidableEq, Repr

/-- The declaration that a field belongs to an index. -/
structure IndexedField where
  index : String
  field : String
  column : Int
  direction : Direction
deriving DecidableEq, Repr

namespace IndexDefinition

/-- The fields of an index as a JSON object of directions. -/
def keyTree (i : IndexDefinition) : Json.Tree := SortKey.toTree i.keys

/-- The declarations by the name of their index, each group in the order of declaration. -/
def groups (fields : List IndexedField) : Assoc (List IndexedField) :=
  fields.foldl (fun acc f =>
    Assoc.insert f.index ((Assoc.get? f.index acc).getD [] ++ [f]) acc) []

/-- The index of a group of declarations; fields of one column keep their order. -/
def ofGroup (collection : String) (kind : SchemaKind) (name : String)
    (fields : List IndexedField) : IndexDefinition where
  name := name
  collection := collection
  keys := (fields.mergeSort fun f g => f.column ≤ g.column).map fun f =>
    ⟨kind.normalize f.field, f.direction⟩
  background := true

/-- The indexes that a list of declarations asks for. -/
def ofFields (collection : String) (kind : SchemaKind) (fields : List IndexedField) :
    List IndexDefinition :=
  (groups fields).map fun (name, members) => ofGroup collection kind name members

end IndexDefinition

end AuditedStore
