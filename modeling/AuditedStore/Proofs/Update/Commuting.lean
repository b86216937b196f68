import AuditedStore.Proofs.Update
import AuditedStore.Proofs.Value.Order

/-!
# Operations at independent paths

What an operation does depends on the id of the document and on the value at its path alone, and
it sets at most that value.  So operations at independent paths commute: whether they are refused,
what they make of a document and whether they change it does not depend on their order.  Values
that have been set at independent paths are all there afterwards, so setting them again changes
nothing.
-/

namespace AuditedStore

namespace Document

variable {d e x : Document} {path other : String} {intent intent' : Option Value}
  {changed changed' : Bool}

/-- The document with a value at a path, or as it is if no value is given; the Boolean says which.
Nothing if the value cannot be set. -/
def put? (d : Document) (path : String) : Option Value → Option (Document × Bool)
  | none => some (d, false)
  | some v => (d.setAt? path v).map fun e => (e, true)

theorem put?_some_eq_some_iff {v : Value} :
  d.put? path (some v) = some (e, changed) ↔ d.setAt? path v = some e ∧ changed = true
  := by
  rw [put?, Option.map_eq_some_iff]
  grind

theorem id_of_put? (h : d.put? path intent = some (e, changed)) :
  e.id = d.id
  := by
  cases intent with
  | none =>
      cases h
      rfl
  | some v => apply id_of_setAt? (put?_some_eq_some_iff.mp h).1

theorem fieldAt?_of_put? (hpaths : IndependentPaths path other)
    (h : d.put? path intent = some (e, changed)) :
  e.fieldAt? other = d.fieldAt? other
  := by
  cases intent with
  | none =>
      cases h
      rfl
  | some v => apply fieldAt?_of_setAt?_of_independent hpaths (put?_some_eq_some_iff.mp h).1

/-- What has been put at one path and then at an independent one can be put in the other order. -/
theorem exists_put?_of_independent (hpaths : IndependentPaths path other)
    (h : d.put? path intent = some (e, changed))
    (h' : e.put? other intent' = some (x, changed')) :
  ∃ e', d.put? other intent' = some (e', changed') ∧ e'.put? path intent = some (x, changed)
  := by
  cases intent with
  | none =>
      cases h
      exact ⟨x, h', rfl⟩
  | some v =>
      cases intent' with
      | none =>
          cases h'
          exact ⟨d, rfl, h⟩
      | some w =>
          obtain ⟨hset, rfl⟩ := put?_some_eq_some_iff.mp h
          obtain ⟨hset', rfl⟩ := put?_some_eq_some_iff.mp h'
          obtain ⟨e', he', hx⟩ := exists_setAt?_of_independent hpaths hset hset'
          use e'
          exact ⟨put?_some_eq_some_iff.mpr ⟨he', rfl⟩, put?_some_eq_some_iff.mpr ⟨hx, rfl⟩⟩

end Document

namespace UpdateOp

variable {op op' : UpdateOp} {d e x : Document} {changed changed' : Bool}

/-! ### What an operation depends on -/

/-- What pushing makes of the value at a path; nothing if that is not an array. -/
def pushed? (v : Value) (keepLast : Nat) : Option Value → Option Value
  | none => some (.array [v])
  | some (.array items) => some (.array (keepNewest keepLast (items ++ [v])))
  | some _ => none

/-- The value that an operation gives its path, in a document with an id and for the value that is
there, or `some none` if it leaves that value as it is.  Nothing if the operation is refused. -/
def intent? (id : String) : UpdateOp → Option Value → Option (Option Value)
  | set path v, current =>
    if path = idField then if v.string? = some id then some none else none
    else if current.any (· == v) then some none
    else some (some v)
  | push _ v, current => (pushed? v 0 current).map some
  | pushCapped _ v keepLast, current => (pushed? v keepLast current).map some
  | popFirst _, none => some none
  | popFirst _, some (.array []) => some none
  | popFirst _, some (.array (_ :: items)) => some (some (.array items))
  | popFirst _, some _ => none

theorem toOption_pushValue (path : String) (v : Value) (keepLast : Nat) (d : Document) :
  (pushValue path v keepLast d).toOption
    = ((pushed? v keepLast (d.fieldAt? path)).map some).bind (d.put? path)
  := by
  rw [pushValue]
  cases d.fieldAt? path with
  | none =>
      cases h : d.setAt? path (.array [v]) <;>
        simp [pushed?, Document.put?, h, Except.toOption]
  | some w =>
      cases w with
      | array items =>
          cases h : d.setAt? path (.array (keepNewest keepLast (items ++ [v]))) <;>
            simp [pushed?, Document.put?, h, Except.toOption]
      | _ => rfl

/-- An operation is done if it is not refused for the value at its path, and the value that it gives
the path can be set there. -/
theorem toOption_apply (op : UpdateOp) (d : Document) :
  (op.apply d).toOption = (op.intent? d.id (d.fieldAt? op.path)).bind (d.put? op.path)
  := by
  cases op with
  | set path v =>
      rw [apply, UpdateOp.path, intent?]
      unfold setValue
      by_cases hid : path = idField
      · rw [if_pos hid, if_pos hid]
        cases v with
        | string id =>
            by_cases h : id = d.id <;>
              simp [h, Value.string?, Document.put?, Except.toOption]
        | _ => rfl
      · rw [if_neg hid, if_neg hid]
        split
        · rfl
        · cases h : d.setAt? path v <;> simp [h, Document.put?, Except.toOption]
  | push path v => apply toOption_pushValue
  | pushCapped path v keepLast => apply toOption_pushValue
  | popFirst path =>
      rw [apply, removeFirst, UpdateOp.path]
      cases d.fieldAt? path with
      | none => rfl
      | some w =>
          cases w with
          | array items =>
              cases items with
              | nil => rfl
              | cons first items =>
                  cases h : d.setAt? path (.array items) <;>
                    simp [intent?, h, Document.put?, Except.toOption]
          | _ => rfl

theorem apply_eq_ok_iff :
  op.apply d = .ok (e, changed)
    ↔ ∃ intent, op.intent? d.id (d.fieldAt? op.path) = some intent
      ∧ d.put? op.path intent = some (e, changed)
  := by
  rw [← Option.bind_eq_some_iff, ← toOption_apply]
  cases op.apply d <;> simp [Except.toOption]

/-! ### Two operations -/

/-- Operations at independent paths that have been done can be done in the other order, and each
changes the document then if it did before. -/
theorem exists_apply_of_independent (hpaths : IndependentPaths op.path op'.path)
    (h : op.apply d = .ok (e, changed)) (h' : op'.apply e = .ok (x, changed')) :
  ∃ e', op'.apply d = .ok (e', changed') ∧ op.apply e' = .ok (x, changed)
  := by
  obtain ⟨intent, hintent, hput⟩ := apply_eq_ok_iff.mp h
  obtain ⟨intent', hintent', hput'⟩ := apply_eq_ok_iff.mp h'
  obtain ⟨e', he', hx⟩ := Document.exists_put?_of_independent hpaths hput hput'
  -- Each operation finds what it found before, since the other one does not change that.
  rw [Document.id_of_put? hput, Document.fieldAt?_of_put? hpaths hput] at hintent'
  rw [← Document.id_of_put? he', ← Document.fieldAt?_of_put? hpaths.symm he'] at hintent
  use e'
  exact ⟨apply_eq_ok_iff.mpr ⟨intent', hintent', he'⟩, apply_eq_ok_iff.mpr ⟨intent, hintent, hx⟩⟩

/-- A value that has been set is there, so setting it again changes nothing. -/
theorem apply_set_again {path : String} {v : Value}
    (h : (set path v).apply d = .ok (e, changed)) :
  (set path v).apply e = .ok (e, false)
  := by
  obtain ⟨intent, hintent, hput⟩ := apply_eq_ok_iff.mp h
  cases intent with
  | none =>
      cases hput
      exact h
  | some w =>
      obtain ⟨hset, -⟩ := Document.put?_some_eq_some_iff.mp hput
      rw [intent?] at hintent
      obtain ⟨hid, rfl⟩ : path ≠ idField ∧ w = v := by grind
      have hthere : (e.fieldAt? path).any (· == w) = true := by
        rw [show e.fieldAt? path = some w from Document.fieldAt?_of_setAt? hset, Option.any_some,
          BEq.rfl]
      simp only [apply, setValue, if_neg hid, if_pos hthere]

end UpdateOp

namespace Update

variable {op op' : UpdateOp} {ops u : Update} {d e x : Document} {changed : Bool}

theorem run_cons_eq_ok_iff :
  run (op :: ops) d = (x, .ok changed)
    ↔ ∃ e first rest, op.apply d = .ok (e, first) ∧ run ops e = (x, .ok rest)
      ∧ changed = (first || rest)
  := by
  cases h : op.apply d with
  | error why =>
      rw [run_cons_of_refused h]
      simp
  | ok result =>
      obtain ⟨e, first⟩ := result
      rw [run_cons_of_done h]
      constructor
      · intro hrun
        obtain ⟨hdocument, houtcome⟩ := Prod.mk.inj hrun
        cases hrest : (run ops e).2 with
        | error why =>
            rw [hrest] at houtcome
            cases houtcome
        | ok rest =>
            rw [hrest] at houtcome
            cases houtcome
            exact ⟨e, first, rest, rfl, Prod.ext hdocument hrest, rfl⟩
      · rintro ⟨_, _, rest, ⟨⟩, hrest, rfl⟩
        rw [hrest]
        rfl

theorem run_singleton_eq_ok_iff :
  run [op] d = (x, .ok changed) ↔ op.apply d = .ok (x, changed)
  := by
  rw [run_cons_eq_ok_iff]
  constructor
  · rintro ⟨e, first, rest, h, hrest, rfl⟩
    cases hrest
    rw [h, Bool.or_false]
  · intro h
    exact ⟨x, changed, false, h, rfl, (Bool.or_false changed).symm⟩

/-- Two operations at independent paths that are done one after the other can be done in the other
order, with the same result. -/
theorem run_pair_swap (h : IndependentPaths op.path op'.path)
    (hrun : run [op, op'] d = (x, .ok changed)) :
  run [op', op] d = (x, .ok changed)
  := by
  obtain ⟨e, first, second, hop, hop', rfl⟩ := run_cons_eq_ok_iff.mp hrun
  obtain ⟨e', he', hx⟩ :=
    UpdateOp.exists_apply_of_independent h hop (run_singleton_eq_ok_iff.mp hop')
  apply run_cons_eq_ok_iff.mpr
  use e', second, first, he', run_singleton_eq_ok_iff.mpr hx
  apply Bool.or_comm

/-- An operation that would change nothing still changes nothing after operations at independent
paths. -/
theorem apply_of_run (hpaths : ∀ op' ∈ u, IndependentPaths op.path op'.path)
    (h : op.apply d = .ok (d, false)) (hrun : run u d = (e, .ok changed)) :
  op.apply e = .ok (e, false)
  := by
  induction u generalizing d changed with
  | nil =>
      cases hrun
      exact h
  | cons op' ops ih =>
      obtain ⟨hpath, hpaths⟩ := List.forall_mem_cons.mp hpaths
      obtain ⟨f, first, rest, hop', hrest, -⟩ := run_cons_eq_ok_iff.mp hrun
      obtain ⟨f', hf', hf⟩ := UpdateOp.exists_apply_of_independent hpath h hop'
      rw [hop'] at hf'
      cases hf'
      exact ih hpaths hf hrest

/-! ### Setting values -/

/-- The update that sets values at paths. -/
def setAll (values : List (String × Value)) : Update := values.map fun e => .set e.1 e.2

/-- Values that have been set at pairwise independent paths are all there. -/
theorem run_setAll_again {values : List (String × Value)}
    (hpaths : values.Pairwise fun a b => IndependentPaths a.1 b.1)
    (hrun : run (setAll values) d = (e, .ok changed)) :
  run (setAll values) e = (e, .ok false)
  := by
  induction values generalizing d changed with
  | nil => rfl
  | cons a values ih =>
      obtain ⟨hpath, hpaths⟩ := List.pairwise_cons.mp hpaths
      obtain ⟨f, first, rest, hset, hrest, -⟩ := run_cons_eq_ok_iff.mp hrun
      have hindependent : ∀ op ∈ setAll values,
          IndependentPaths (UpdateOp.set a.1 a.2).path op.path := by
        intro op hop
        obtain ⟨b, hb, rfl⟩ := List.mem_map.mp hop
        exact hpath b hb
      have hagain := apply_of_run hindependent (UpdateOp.apply_set_again hset) hrest
      apply run_cons_eq_ok_iff.mpr
      exact ⟨e, false, false, hagain, ih hpaths hrest, rfl⟩

/-- Two operations at independent paths, one after the other, are done in the one order exactly if
they are in the other, and then both orders give the same document and say the same about whether it
has changed.  Setting values at pairwise independent paths once more changes nothing. -/
theorem run_independent (d : Document) :
  (∀ op op' : UpdateOp, IndependentPaths op.path op'.path → ∀ (e : Document) (changed : Bool),
    run [op, op'] d = (e, .ok changed) ↔ run [op', op] d = (e, .ok changed))
  ∧ (∀ values : List (String × Value), (values.Pairwise fun a b => IndependentPaths a.1 b.1) →
    ∀ (e : Document) (changed : Bool), run (setAll values) d = (e, .ok changed) →
      run (setAll values) e = (e, .ok false))
  := by
  constructor
  · intro op op' h e changed
    constructor
    · apply run_pair_swap h
    · apply run_pair_swap h.symm
  · intro values h e changed
    apply run_setAll_again h

/-- An item is pushed and a value set below an object that is missing, in either order; and values
that are set below it, with the id of the document as it is, are all there afterwards. -/
theorem run_independent_below_missing :
  run [.set "t.c" .null, .push "t.b" (.int 1)] ⟨"a", []⟩
      = (⟨"a", [("t", .object [("b", .array [.int 1]), ("c", .null)])]⟩, .ok true)
  ∧ run (setAll [("t.b", .int 1), ("_id", .string "a"), ("t.c", .null)])
        ⟨"a", [("t", .object [("b", .int 1), ("c", .null)])]⟩
      = (⟨"a", [("t", .object [("b", .int 1), ("c", .null)])]⟩, .ok false)
  := by
  obtain ⟨hcomm, hagain⟩ := run_independent ⟨"a", []⟩
  constructor
  · have hpaths : IndependentPaths "t.b" "t.c" := by decide +kernel
    apply (hcomm (.push "t.b" (.int 1)) (.set "t.c" .null) hpaths _ _).mp
    rfl
  · have hpaths : [("t.b", Value.int 1), ("_id", .string "a"), ("t.c", .null)].Pairwise
        fun a b => IndependentPaths a.1 b.1 := by decide +kernel
    apply hagain _ hpaths _ true
    rfl

end Update

end AuditedStore
