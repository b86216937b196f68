import AuditedStore.Document.Path

/-!
# Slices

A slice narrows the array at a path to a window that is counted from its end.
-/

namespace AuditedStore

/-- The window of `limit` items that ends `skipFromEnd` items before the end of the array
at `path`. -/
structure Slice where
  path : String
  skipFromEnd : Nat
  limit : Nat
deriving DecidableEq, Repr

/-- The items of a list in the window. -/
def Slice.window (s : Slice) (items : List α) : List α :=
  let stop := items.length - s.skipFromEnd
  (items.take stop).drop (stop - s.limit)

/-- A document with the array narrowed to the window; without an array it is unchanged. -/
def Slice.apply (s : Slice) (d : Document) : Document :=
  match d.fieldAt? s.path with
  | some (.array items) => (d.setAt? s.path (.array (s.window items))).getD d
  | _ => d

end AuditedStore
