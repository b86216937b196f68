import AuditedStore.Proofs.Document.InPlace
import AuditedStore.Proofs.Update.Commuting

/-!
# Updates in place

The operations of an update can be done on the stored document itself, step by step: a value is
placed at a path, making objects on the way; an array that is missing is made empty before an item
is pushed to it; and the items are changed where they are.  Done so, an operation that is refused
could leave half of its effect behind, but none does.  So an update that is refused leaves what its
operations before the refused one made of the document, and one that changes nothing leaves the
document as it was.  What no operation has a path to is never changed.
-/

namespace AuditedStore

/-- The items of the array at a path; none if there is no array. -/
def Document.itemsAt (d : Document) (path : String) : List Value :=
  ((d.fieldAt? path).bind Value.array?).getD []

namespace UpdateOp

variable {op : UpdateOp} {d e : Document} {path : String} {v : Value} {keepLast : Nat}
  {changed : Bool}

/-! ### Operations in place -/

/-- Pushes to the array at a path.  If there is nothing, an empty array is placed first, and is then
pushed to; the oldest items beyond `keepLast` are dropped after the push, none if it is zero. -/
def pushInPlace (path : String) (v : Value) (keepLast : Nat) (d : Document) :
    Document × Except Refusal Bool :=
  let (d, made) := if (d.fieldAt? path).isNone then d.place path (.array []) else (d, true)
  if made then
    match d.fieldAt? path with
    | some (.array items) =>
      let items := items ++ [v]
      let excess := if 0 < keepLast then items.length - keepLast else 0
      (d.overwrite path (.array (items.drop excess)), .ok true)
    | _ => (d, .error (.pushToNonArray path))
  else (d, .error (.blockedArray path))

/-- Does one operation in place.  What it has done stays, also if it is refused. -/
def applyInPlace : UpdateOp → Document → Document × Except Refusal Bool
  | set path v, d =>
    if path = idField then
      (d, if v.string? = some d.id then .ok false else .error .immutableId)
    else if (d.fieldAt? path).any (· == v) then (d, .ok false)
    else
      let (d, placed) := d.place path v
      (d, if placed then .ok true else .error (.blockedPath path))
  | push path v, d => pushInPlace path v 0 d
  | pushCapped path v keepLast, d => pushInPlace path v keepLast d
  | popFirst path, d =>
    match d.fieldAt? path with
    | none => (d, .ok false)
    | some (.array []) => (d, .ok false)
    | some (.array (_ :: items)) => (d.overwrite path (.array items), .ok true)
    | some _ => (d, .error (.popFromNonArray path))

/-- The document that an operation leaves, beside its outcome: if it is refused, the document as it
was. -/
def outcome (result : Except Refusal (Document × Bool)) (d : Document) :
    Document × Except Refusal Bool :=
  match result with
  | .ok (e, changed) => (e, .ok changed)
  | .error why => (d, .error why)

theorem keepNewest_eq_drop (keepLast : Nat) (items : List Value) :
  keepNewest keepLast items = items.drop (if 0 < keepLast then items.length - keepLast else 0)
  := by
  rw [keepNewest]
  by_cases h : keepLast = 0
  · rw [if_pos h, if_neg (by omega), List.drop_zero]
  · rw [if_neg h, if_pos (by omega)]

/-- An empty array that is placed and then pushed to is an array of one item that is set. -/
theorem pushInPlace_eq (h : d.IsOrdered) (path : String) (v : Value) (keepLast : Nat) :
  pushInPlace path v keepLast d = outcome (pushValue path v keepLast d) d
  := by
  rw [pushInPlace, pushValue]
  cases hpath : d.fieldAt? path with
  | none =>
      rw [Option.isNone_none, if_pos rfl, Document.place_eq h]
      cases hempty : d.setAt? path (.array []) with
      | none =>
          have hone : d.setAt? path (.array [v]) = none := by
            rw [← Option.not_isSome_iff_eq_none, Document.isSome_setAt?_congr _ (.array []), hempty]
            exact Bool.false_ne_true
          simp [hone, outcome]
      | some made =>
          have hmade : made.fieldAt? path = some (.array []) := Document.fieldAt?_of_setAt? hempty
          have hone : d.setAt? path (.array [v]) = some (made.overwrite path (.array [v])) := by
            rw [← Document.setAt?_of_setAt? hempty, Document.setAt?_eq_overwrite hmade]
          have hkept : keepNewest keepLast [v] = [v] := keepNewest_singleton keepLast v
          rw [keepNewest_eq_drop] at hkept
          simp only [Option.isSome_some, Option.getD_some, if_true, hmade, List.nil_append, hkept,
            hone, outcome]
  | some w =>
      cases w with
      | array items =>
          simp only [Option.isNone_some, Bool.false_eq_true, if_false, if_true, hpath,
            Document.setAt?_eq_overwrite hpath, keepNewest_eq_drop, outcome]
      | _ => simp [hpath, outcome]

/-- An operation in place does what it should, and one that is refused leaves no trace. -/
theorem applyInPlace_eq (h : d.IsOrdered) (op : UpdateOp) :
  op.applyInPlace d = outcome (op.apply d) d
  := by
  cases op with
  | set path v =>
      rw [applyInPlace, apply]
      unfold setValue
      by_cases hid : path = idField
      · rw [if_pos hid, if_pos hid]
        cases v with
        | string id => by_cases h : id = d.id <;> simp [h, Value.string?, outcome]
        | _ => rfl
      · rw [if_neg hid, if_neg hid]
        split
        · rfl
        · rw [Document.place_eq h]
          cases d.setAt? path v <;> rfl
  | push path v => apply pushInPlace_eq h
  | pushCapped path v keepLast => apply pushInPlace_eq h
  | popFirst path =>
      rw [applyInPlace, apply, removeFirst]
      cases hpath : d.fieldAt? path with
      | none => rfl
      | some w =>
          cases w with
          | array items =>
              cases items with
              | nil => rfl
              | cons first items =>
                  simp only [Document.setAt?_eq_overwrite hpath]
                  rfl
          | _ => rfl

/-! ### What an operation does to a document -/

/-- The value that an operation sets is ordered.  Items of arrays need not be, since paths do not
lead to them. -/
def IsOrdered : UpdateOp → Prop
  | set _ v => v.IsOrdered
  | _ => True

/-- Pushing leaves the newest of the items that were there, if there were any, and the pushed
one. -/
theorem eq_of_pushed? {current : Option Value} {w : Value}
    (h : pushed? v keepLast current = some w) :
  w = .array (keepNewest keepLast ((current.bind Value.array?).getD [] ++ [v]))
  := by
  cases current with
  | none =>
      cases h
      exact congrArg Value.array (keepNewest_singleton keepLast v).symm
  | some there =>
      cases there with
      | array items =>
          cases h
          rfl
      | _ => cases h

theorem isOrdered_of_intent? {id : String} {current : Option Value} {w : Value}
    (hop : op.IsOrdered) (h : op.intent? id current = some (some w)) :
  w.IsOrdered
  := by
  cases op with
  | set path v => grind [intent?, IsOrdered]
  | push path v =>
      obtain ⟨_, hpushed, ⟨⟩⟩ := Option.map_eq_some_iff.mp h
      rw [eq_of_pushed? hpushed]
      trivial
  | pushCapped path v keepLast =>
      obtain ⟨_, hpushed, ⟨⟩⟩ := Option.map_eq_some_iff.mp h
      rw [eq_of_pushed? hpushed]
      trivial
  | popFirst path =>
      cases current with
      | none => cases h
      | some there =>
          cases there with
          | array items =>
              cases items with
              | nil => cases h
              | cons first items =>
                  cases h
                  trivial
          | _ => cases h

/-- A document stays ordered. -/
theorem isOrdered_of_apply (hd : d.IsOrdered) (hop : op.IsOrdered)
    (h : op.apply d = .ok (e, changed)) :
  e.IsOrdered
  := by
  obtain ⟨intent, hintent, hput⟩ := apply_eq_ok_iff.mp h
  cases intent with
  | none =>
      cases hput
      exact hd
  | some w =>
      apply hd.setAt? (isOrdered_of_intent? hop hintent)
      exact (Document.put?_some_eq_some_iff.mp hput).1

/-- An operation that says that it has changed nothing has changed nothing. -/
theorem eq_of_apply_unchanged (h : op.apply d = .ok (e, false)) :
  e = d
  := by
  obtain ⟨intent, -, hput⟩ := apply_eq_ok_iff.mp h
  cases intent with
  | none =>
      cases hput
      rfl
  | some w => cases (Document.put?_some_eq_some_iff.mp hput).2

/-- An operation does not change what is at independent paths. -/
theorem fieldAt?_of_apply {other : String} (hpaths : IndependentPaths op.path other)
    (h : op.apply d = .ok (e, changed)) :
  e.fieldAt? other = d.fieldAt? other
  := by
  obtain ⟨intent, -, hput⟩ := apply_eq_ok_iff.mp h
  apply Document.fieldAt?_of_put? hpaths hput

theorem fieldAt?_of_apply_pushCapped (h : (pushCapped path v keepLast).apply d = .ok (e, changed)) :
  e.fieldAt? path = some (.array (keepNewest keepLast (d.itemsAt path ++ [v])))
  := by
  obtain ⟨intent, hintent, hput⟩ := apply_eq_ok_iff.mp h
  obtain ⟨w, hpushed, rfl⟩ := Option.map_eq_some_iff.mp hintent
  have hset : d.setAt? path w = some e := (Document.put?_some_eq_some_iff.mp hput).1
  rw [Document.fieldAt?_of_setAt? hset, eq_of_pushed? hpushed]
  rfl

end UpdateOp

namespace Update

variable {op : UpdateOp} {ops u : Update} {d e : Document} {changed : Bool} {why : Refusal}

/-! ### Updates -/

/-- Does the operations of an update in place, in order up to the first that is refused. -/
def runInPlace : Update → Document → Document × Except Refusal Bool
  | [], d => (d, .ok false)
  | op :: ops, d =>
    match op.applyInPlace d with
    | (d, .error why) => (d, .error why)
    | (d, .ok changed) =>
      let (d, outcome) := runInPlace ops d
      (d, outcome.map (changed || ·))

/-- An update in place does what it should, with no trace of the operation that is refused. -/
theorem runInPlace_eq (hd : d.IsOrdered) (hu : ∀ op ∈ u, op.IsOrdered) :
  u.runInPlace d = u.run d
  := by
  induction u generalizing d with
  | nil => rfl
  | cons op ops ih =>
      obtain ⟨hop, hops⟩ := List.forall_mem_cons.mp hu
      rw [runInPlace, UpdateOp.applyInPlace_eq hd]
      cases h : op.apply d with
      | error why =>
          rw [run_cons_of_refused h]
          rfl
      | ok result =>
          obtain ⟨e, changed⟩ := result
          rw [run_cons_of_done h]
          simp only [UpdateOp.outcome, ih (UpdateOp.isOrdered_of_apply hd hop h) hops]

/-- An update that says that it has changed nothing has changed nothing. -/
theorem eq_of_run_unchanged (h : u.run d = (e, .ok false)) :
  e = d
  := by
  induction u generalizing d with
  | nil =>
      cases h
      rfl
  | cons op ops ih =>
      obtain ⟨f, first, rest, hop, hrest, hor⟩ := run_cons_eq_ok_iff.mp h
      obtain ⟨rfl, rfl⟩ := Bool.or_eq_false_iff.mp hor.symm
      rw [ih hrest, UpdateOp.eq_of_apply_unchanged hop]

/-- An update does not change what is at paths that are independent of its own. -/
theorem fieldAt?_run {path : String} (hpaths : ∀ op ∈ u, IndependentPaths op.path path)
    (d : Document) :
  (u.run d).1.fieldAt? path = d.fieldAt? path
  := by
  induction u generalizing d with
  | nil => rfl
  | cons op ops ih =>
      obtain ⟨hop, hops⟩ := List.forall_mem_cons.mp hpaths
      cases h : op.apply d with
      | error why => rw [run_cons_of_refused h]
      | ok result =>
          obtain ⟨e, changed⟩ := result
          rw [run_cons_of_done h, ih hops, UpdateOp.fieldAt?_of_apply hop h]

/-- A document stays ordered. -/
theorem isOrdered_of_run (hd : d.IsOrdered) (hu : ∀ op ∈ u, op.IsOrdered)
    (h : u.run d = (e, .ok changed)) :
  e.IsOrdered
  := by
  induction u generalizing d changed with
  | nil =>
      cases h
      exact hd
  | cons op ops ih =>
      obtain ⟨hop, hops⟩ := List.forall_mem_cons.mp hu
      obtain ⟨f, first, rest, happly, hrest, -⟩ := run_cons_eq_ok_iff.mp h
      exact ih (UpdateOp.isOrdered_of_apply hd hop happly) hops hrest

/-- The operation that refuses an update, with the document as the operations before it have made
it.  Done in place, it leaves that document as it is. -/
theorem exists_traceless_of_run_refused (h : u.run d = (e, .error why)) :
  ∃ (before after : Update) (op : UpdateOp) (changed : Bool),
    u = before ++ op :: after
    ∧ before.run d = (e, .ok changed)
    ∧ op.apply e = .error why
    ∧ (d.IsOrdered → (∀ op ∈ u, op.IsOrdered) → op.applyInPlace e = (e, .error why))
  := by
  obtain ⟨before, after, op, changed, rfl, hbefore, hop⟩ := exists_of_run_refused h
  refine ⟨before, after, op, changed, rfl, hbefore, hop, fun hd hu => ?_⟩
  have he : e.IsOrdered :=
    isOrdered_of_run hd (fun op hop => hu op (List.mem_append_left _ hop)) hbefore
  rw [UpdateOp.applyInPlace_eq he, hop]
  rfl

/-- What an update does, whether it is refused or not.  If it says that it has changed nothing, the
document is as it was.  If it is refused, the document is what the operations before the refused one
have made of it, which has left no trace.  The id is kept, and so is what is at every path that is
independent of the paths of all operations.  A push that keeps the last items leaves an array that
ends with the pushed item and has no more items than are to be kept, the newest ones in order.  An
update in place does all this too, although it could leave half of an operation behind. -/
theorem run_effects (u : Update) (d : Document) :
  (∀ e, u.run d = (e, .ok false) → e = d)
  ∧ (∀ e why, u.run d = (e, .error why) →
    ∃ (before after : Update) (op : UpdateOp) (changed : Bool),
      u = before ++ op :: after
      ∧ before.run d = (e, .ok changed)
      ∧ op.apply e = .error why
      ∧ (d.IsOrdered → (∀ op ∈ u, op.IsOrdered) → op.applyInPlace e = (e, .error why)))
  ∧ (u.run d).1.id = d.id
  ∧ (∀ path, (∀ op ∈ u, IndependentPaths op.path path) →
    (u.run d).1.fieldAt? path = d.fieldAt? path ∧ (u.run d).1.at? path = d.at? path)
  ∧ (∀ path v keepLast e changed, 0 < keepLast →
    (UpdateOp.pushCapped path v keepLast).apply d = .ok (e, changed) →
      ∃ items, e.fieldAt? path = some (.array items)
        ∧ items.getLast? = some v
        ∧ items.length = min ((d.itemsAt path).length + 1) keepLast
        ∧ items <:+ d.itemsAt path ++ [v])
  ∧ (d.IsOrdered → (∀ op ∈ u, op.IsOrdered) → u.runInPlace d = u.run d)
  := by
  refine ⟨fun e => eq_of_run_unchanged, fun e why => exists_traceless_of_run_refused, u.id_run d,
    ?_, ?_, runInPlace_eq⟩
  · intro path hpaths
    have hfield := fieldAt?_run hpaths d
    use hfield
    rw [Document.at?, Document.at?, hfield, u.id_run d]
  · intro path v keepLast e changed hkeep h
    use keepNewest keepLast (d.itemsAt path ++ [v]), UpdateOp.fieldAt?_of_apply_pushCapped h,
      getLast?_keepNewest_append_singleton _ _ _
    constructor
    · rw [length_keepNewest (Nat.ne_of_gt hkeep), List.length_append, List.length_singleton]
    · apply keepNewest_suffix

/-! ### An update that is refused at its third operation -/

/-- A document with a log of two items and a number. -/
def logged : Document := ⟨"a", [("log", .array [.int 7, .int 8]), ("n", .int 1)]⟩

/-- Sets a value below an object that is missing, pushes to the log, and then to the number. -/
def refusedThird : Update :=
  [.set "t.c" .null, .pushCapped "log" (.int 9) 2, .push "n" .null, .set "m" .null]

/-- What the first two operations make of the document. -/
def loggedNine : Document :=
  ⟨"a", [("log", .array [.int 8, .int 9]), ("n", .int 1), ("t", .object [("c", .null)])]⟩

/-- In place, the refused update leaves what its first two operations have made, and nothing next to
what they have set; the log ends with the pushed item and has as many items as are to be kept.
Setting the number to itself, and removing an item where there is no array, changes nothing. -/
theorem run_effects_refused :
  refusedThird.runInPlace logged = (loggedNine, .error (.pushToNonArray "n"))
  ∧ (∃ op : UpdateOp, op.applyInPlace loggedNine = (loggedNine, .error (.pushToNonArray "n")))
  ∧ (refusedThird.run logged).1.fieldAt? "t.d" = logged.fieldAt? "t.d"
  ∧ (∃ items, Document.fieldAt? ⟨"a", [("log", .array [.int 8, .int 9]), ("n", .int 1)]⟩ "log"
      = some (.array items) ∧ items.getLast? = some (.int 9) ∧ items.length = min 3 2)
  ∧ (∃ e, run [.set "n" (.int 1), .popFirst "m"] logged = (e, .ok false)
    ∧ e = logged)
  := by
  have hrun : refusedThird.run logged = (loggedNine, .error (.pushToNonArray "n")) := rfl
  have hordered : logged.IsOrdered := by
    apply Fields.isOrdered_iff.mpr
    constructor
    · apply List.pairwise_pair.mpr
      decide
    · simp [logged, Value.IsOrdered]
  have hops : ∀ op ∈ refusedThird, op.IsOrdered := by
    simp [refusedThird, UpdateOp.IsOrdered, Value.IsOrdered]
  have hpaths : ∀ op ∈ refusedThird, IndependentPaths op.path "t.d" := by decide +kernel
  have hpushed : (UpdateOp.pushCapped "log" (.int 9) 2).apply logged
      = .ok (⟨"a", [("log", .array [.int 8, .int 9]), ("n", .int 1)]⟩, true) := rfl
  have hidle : run [.set "n" (.int 1), .popFirst "m"] logged
      = (logged, .ok false) := rfl
  obtain ⟨-, hrefused, -, hframe, hpush, hplace⟩ := run_effects refusedThird logged
  obtain ⟨hsame, -⟩ := run_effects [.set "n" (.int 1), .popFirst "m"] logged
  refine ⟨(hplace hordered hops).trans hrun, ?_, (hframe "t.d" hpaths).1, ?_, ?_⟩
  · obtain ⟨_, _, op, _, -, -, -, hop⟩ := hrefused _ _ hrun
    exact ⟨op, hop hordered hops⟩
  · obtain ⟨items, hitems, hlast, hlength, -⟩ := hpush "log" (.int 9) 2 _ _ (by decide) hpushed
    exact ⟨items, hitems, hlast, hlength⟩
  · exact ⟨logged, hidle, hsame logged hidle⟩

end Update

end AuditedStore
