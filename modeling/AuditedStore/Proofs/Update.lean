import AuditedStore.Update
import AuditedStore.Proofs.Document.Path
import Mathlib.Data.List.Forall2
import Mathlib.Tactic.Use

/-!
# Refused updates

An update keeps the id of its document.  One that is refused has done exactly the operations
before the one that is refused.
-/

namespace AuditedStore

namespace UpdateOp

/-- An operation either leaves its document alone or sets one value of it. -/
theorem eq_or_setAt?_of_apply {op : UpdateOp} {d e : Document} {changed : Bool}
    (h : op.apply d = .ok (e, changed)) :
  e = d ∨ ∃ v, d.setAt? op.path v = some e
  := by
  cases op with
  | set path v =>
      simp only [apply, setValue] at h
      grind [UpdateOp.path]
  | push path v =>
      simp only [apply, pushValue] at h
      grind [UpdateOp.path]
  | pushCapped path v keepLast =>
      simp only [apply, pushValue] at h
      grind [UpdateOp.path]
  | popFirst path =>
      simp only [apply, removeFirst] at h
      grind [UpdateOp.path]

/-- An operation keeps the id. -/
theorem id_of_apply {op : UpdateOp} {d e : Document} {changed : Bool}
    (h : op.apply d = .ok (e, changed)) :
  e.id = d.id
  := by
  obtain rfl | ⟨v, hv⟩ := eq_or_setAt?_of_apply h
  · rfl
  · apply Document.id_of_setAt? hv

end UpdateOp

namespace Update

variable {op : UpdateOp} {ops u : Update} {d e : Document} {changed : Bool} {why : Refusal}

theorem run_cons_of_refused (h : op.apply d = .error why) :
  run (op :: ops) d = (d, .error why)
  := by
  rw [run, h]

theorem run_cons_of_done (h : op.apply d = .ok (e, changed)) :
  run (op :: ops) d = ((run ops e).1, (run ops e).2.map (changed || ·))
  := by
  rw [run, h]

/-- An update keeps the id. -/
theorem id_run (u : Update) (d : Document) :
  (u.run d).1.id = d.id
  := by
  induction u generalizing d with
  | nil => rfl
  | cons op ops ih =>
      cases h : op.apply d with
      | error why => rw [run_cons_of_refused h]
      | ok result =>
          obtain ⟨e, changed⟩ := result
          rw [run_cons_of_done h]
          apply (ih e).trans (UpdateOp.id_of_apply h)

/-- A refused update has done exactly the operations before the one that is refused. -/
theorem exists_of_run_refused (h : u.run d = (e, .error why)) :
  ∃ (before after : Update) (op : UpdateOp) (changed : Bool),
    u = before ++ op :: after ∧ before.run d = (e, .ok changed) ∧ op.apply e = .error why
  := by
  induction u generalizing d with
  | nil => cases h
  | cons op ops ih =>
      cases happly : op.apply d with
      | error cause =>
          rw [run_cons_of_refused happly] at h
          cases h
          use [], ops, op, false
          exact ⟨rfl, rfl, happly⟩
      | ok result =>
          obtain ⟨d', changed⟩ := result
          rw [run_cons_of_done happly] at h
          obtain ⟨he, hwhy⟩ := Prod.mk.inj h
          cases hrest : (run ops d').2 with
          | ok _ =>
              rw [hrest] at hwhy
              cases hwhy
          | error cause =>
              rw [hrest] at hwhy
              cases hwhy
              obtain ⟨before, after, op', changed', rfl, hbefore, hop⟩ := ih (Prod.ext he hrest)
              use op :: before, after, op', changed || changed'
              refine ⟨rfl, ?_, hop⟩
              rw [run_cons_of_done happly, hbefore]
              rfl

/-- Setting a field of the document itself is never refused. -/
theorem run_set_eq_ok {path : String} (hpath : pathNames path = [path]) (hid : path ≠ idField)
    (v : Value) (d : Document) :
  ∃ e changed, run [.set path v] d = (e, .ok changed)
  := by
  obtain ⟨e, he⟩ : ∃ e, d.setAt? path v = some e := by
    rw [Document.setAt?, hpath]
    exact ⟨_, rfl⟩
  obtain ⟨f, changed, hf⟩ : ∃ f changed, (UpdateOp.set path v).apply d = .ok (f, changed) := by
    simp only [UpdateOp.apply, UpdateOp.setValue, hid, if_false]
    split
    · exact ⟨_, _, rfl⟩
    · rw [he]
      exact ⟨_, _, rfl⟩
  exact ⟨_, _, run_cons_of_done hf⟩

end Update

/-! ### The newest items -/

section KeepNewest

variable {α β : Type}

theorem length_keepNewest {n : Nat} (hn : n ≠ 0) (items : List α) :
  (keepNewest n items).length = min items.length n
  := by
  rw [keepNewest, if_neg hn, List.length_drop]
  omega

theorem map_keepNewest (f : α → β) (n : Nat) (items : List α) :
  (keepNewest n items).map f = keepNewest n (items.map f)
  := by
  rw [keepNewest, keepNewest]
  split
  · rfl
  · rw [List.map_drop, List.length_map]

theorem keepNewest_nil (n : Nat) :
  keepNewest n ([] : List α) = []
  := by simp [keepNewest]

/-- Whatever the number of items that are kept, the last one is. -/
theorem keepNewest_singleton (n : Nat) (a : α) :
  keepNewest n [a] = [a]
  := by
  rw [keepNewest]
  split
  · rfl
  · next hn =>
      have h : [a].length - n = 0 := Nat.sub_eq_zero_of_le (Nat.one_le_iff_ne_zero.mpr hn)
      rw [h, List.drop_zero]

theorem keepNewest_suffix (n : Nat) (items : List α) :
  keepNewest n items <:+ items
  := by
  rw [keepNewest]
  split
  · apply List.suffix_rfl
  · apply List.drop_suffix

theorem getLast?_keepNewest_append_singleton (n : Nat) (items : List α) (a : α) :
  (keepNewest n (items ++ [a])).getLast? = some a
  := by
  rw [keepNewest]
  split
  · apply List.getLast?_concat
  · next hn =>
      have hle : (items ++ [a]).length - n ≤ items.length := by
        rw [List.length_append, List.length_singleton]
        omega
      rw [List.drop_append_of_le_length hle, List.getLast?_concat]

theorem keepNewest_append_singleton_ne_nil (n : Nat) (items : List α) (a : α) :
  keepNewest n (items ++ [a]) ≠ []
  := by
  rw [keepNewest]
  split
  · simp
  · rw [ne_eq, List.drop_eq_nil_iff, List.length_append, List.length_singleton]
    omega

/-- To keep the newest of what was kept is to keep the newest of all. -/
theorem keepNewest_keepNewest_append (n : Nat) (items more : List α) :
  keepNewest n (keepNewest n items ++ more) = keepNewest n (items ++ more)
  := by
  by_cases hn : n = 0
  · simp [keepNewest, hn]
  · have hdrop : items.drop (items.length - n) ++ more
        = (items ++ more).drop (items.length - n) := by
      rw [List.drop_append_of_le_length (Nat.sub_le _ _)]
    simp only [keepNewest, if_neg hn, hdrop, List.drop_drop, List.length_drop,
      List.length_append]
    congr 1
    omega

theorem forall₂_keepNewest {R : α → β → Prop} {items : List α} {others : List β}
    (h : List.Forall₂ R items others) (n : Nat) :
  List.Forall₂ R (keepNewest n items) (keepNewest n others)
  := by
  rw [keepNewest, keepNewest, h.length_eq]
  split
  · apply h
  · apply List.forall₂_drop _ h

end KeepNewest

end AuditedStore
