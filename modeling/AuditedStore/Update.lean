import AuditedStore.Document.Path
import AuditedStore.Value.Order

/-!
# Updates

An update is a list of operations that change a document at paths: setting a value, pushing
to an array, and removing the first item of one.  Each operation is refused or done as a
whole.  The operations of an update are done in order up to the first that is refused;
`Update.run` gives the document that then results beside the outcome.
-/

namespace AuditedStore

/-- One change of a document. -/
inductive UpdateOp where
  | set (path : String) (v : Value)
  | push (path : String) (v : Value)
  /-- Pushes and then drops the oldest items beyond `keepLast`; zero keeps all. -/
  | pushCapped (path : String) (v : Value) (keepLast : Nat)
  | popFirst (path : String)

/-- A list of changes. -/
abbrev Update := List UpdateOp

/-- The last `n` items of a list, or all of them if `n` is zero. -/
def keepNewest (n : Nat) (items : List α) : List α :=
  if n = 0 then items else items.drop (items.length - n)

namespace UpdateOp

/-- The path that an operation changes. -/
def path : UpdateOp → String
  | set path _ => path
  | push path _ => path
  | pushCapped path _ _ => path
  | popFirst path => path

/-- Sets the value at a path, unless it is there already. -/
def setValue (path : String) (v : Value) (d : Document) : Except Refusal (Document × Bool) :=
  if path = idField then
    match v with
    | .string id => if id = d.id then .ok (d, false) else .error .immutableId
    | _ => .error .immutableId
  else if (d.fieldAt? path).any (· == v) then .ok (d, false)
  else match d.setAt? path v with
    | some e => .ok (e, true)
    | none => .error (.blockedPath path)

/-- Pushes to the array at a path, which is made if there is nothing there. -/
def pushValue (path : String) (v : Value) (keepLast : Nat) (d : Document) :
    Except Refusal (Document × Bool) :=
  match d.fieldAt? path with
  | none =>
    match d.setAt? path (.array [v]) with
    | some e => .ok (e, true)
    | none => .error (.blockedArray path)
  | some (.array items) =>
    match d.setAt? path (.array (keepNewest keepLast (items ++ [v]))) with
    | some e => .ok (e, true)
    | none => .error (.blockedArray path)
  | some _ => .error (.pushToNonArray path)

/-- Removes the first item of the array at a path, if there is one. -/
def removeFirst (path : String) (d : Document) : Except Refusal (Document × Bool) :=
  match d.fieldAt? path with
  | none => .ok (d, false)
  | some (.array []) => .ok (d, false)
  | some (.array (_ :: items)) =>
    match d.setAt? path (.array items) with
    | some e => .ok (e, true)
    | none => .error (.popFromNonArray path)
  | some _ => .error (.popFromNonArray path)

/-- Does one operation; the Boolean says whether the document has changed. -/
def apply : UpdateOp → Document → Except Refusal (Document × Bool)
  | set path v, d => setValue path v d
  | push path v, d => pushValue path v 0 d
  | pushCapped path v keepLast, d => pushValue path v keepLast d
  | popFirst path, d => removeFirst path d

end UpdateOp

/-- Does the operations in order up to the first that is refused.  The outcome says whether
the document has changed. -/
def Update.run : Update → Document → Document × Except Refusal Bool
  | [], d => (d, .ok false)
  | op :: ops, d =>
    match op.apply d with
    | .error e => (d, .error e)
    | .ok (d, changed) =>
      let (d, outcome) := Update.run ops d
      (d, outcome.map (changed || ·))

end AuditedStore
