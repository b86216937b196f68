import AuditedStore.Proofs.Query.PinnedId

/-!
# Conjunctions

Joining predicates flattens conjunctions and drops conditions that always hold, but it means
that both hold.  So whatever clauses a filter adds, the condition it is added to still holds
for all documents that are left.

A predicate is seen as the list of its clauses, and joining predicates appends these lists.  So
the conjunction has the laws of lists: it is associative, and the predicate without clauses is
its identity.
-/

namespace AuditedStore

namespace Predicate

variable {d : Document}

theorem holdAll_append (ps qs : List Predicate) :
  holdAll d (ps ++ qs) = (holdAll d ps && holdAll d qs)
  := by
  induction ps with
  | nil => rfl
  | cons p ps ih => rw [List.cons_append, holdAll, holdAll, ih, Bool.and_assoc]

/-- The conjunction of two predicates holds where both do. -/
theorem holds_and (p q : Predicate) :
  (p.and q).holds d = (p.holds d && q.holds d)
  := by
  fun_cases Predicate.and p q
  · rw [holds, Bool.true_and]
  · rw [holds, Bool.and_true]
  all_goals
    simp only [holds, holdAll_append, holdAll, Bool.and_true]

/-! ### Clauses -/

/-- The predicates that a predicate is the conjunction of: the nodes of a conjunction, nothing
for `all`, and else the predicate itself. -/
def clauses : Predicate → List Predicate
  | all => []
  | every nodes => nodes
  | p => [p]

/-- A predicate that is no conjunction with another conjunction among its nodes. -/
def IsFlat (p : Predicate) : Prop :=
  ∀ nodes, p = every nodes → ∀ inner, every inner ∉ nodes

variable {p q : Predicate}

theorem all_and (p : Predicate) :
  all.and p = p
  := by rw [Predicate.and]

theorem and_all (p : Predicate) :
  p.and all = p
  := by cases p <;> rfl

/-- A predicate that is neither `all` nor a conjunction is its only clause. -/
theorem clauses_of_ne (hall : p ≠ all) (hevery : ∀ nodes, p ≠ every nodes) :
  p.clauses = [p]
  := by
  rw [clauses]
  · exact hall
  · exact hevery

/-- The conjunction of two predicates, none of which is `all`, has the clauses of both as its
nodes. -/
theorem and_of_ne_all (hp : p ≠ all) (hq : q ≠ all) :
  p.and q = every (p.clauses ++ q.clauses)
  := by
  fun_cases Predicate.and p q
  · exact absurd rfl hp
  · exact absurd rfl hq
  · rfl
  · next hevery => rw [clauses_of_ne hq hevery, clauses]
  · next hevery => rw [clauses_of_ne hp hevery, clauses, List.singleton_append]
  · next hp' _ hq' _ =>
      rw [clauses_of_ne hp hp', clauses_of_ne hq hq', List.singleton_append]

/-- A conjunction has the clauses of the one predicate before those of the other. -/
theorem clauses_and (p q : Predicate) :
  (p.and q).clauses = p.clauses ++ q.clauses
  := by
  by_cases hp : p = all
  · rw [hp, all_and, clauses, List.nil_append]
  · by_cases hq : q = all
    · rw [hq, and_all, clauses, List.append_nil]
    · rw [and_of_ne_all hp hq, clauses]

theorem and_ne_all (hp : p ≠ all) (hq : q ≠ all) :
  p.and q ≠ all
  := by
  rw [and_of_ne_all hp hq]
  nofun

theorem and_assoc (p q r : Predicate) :
  (p.and q).and r = p.and (q.and r)
  := by
  by_cases hp : p = all
  · rw [hp, all_and, all_and]
  by_cases hq : q = all
  · rw [hq, and_all, all_and]
  by_cases hr : r = all
  · rw [hr, and_all, and_all]
  rw [and_of_ne_all (and_ne_all hp hq) hr, and_of_ne_all hp (and_ne_all hq hr), clauses_and,
    clauses_and, List.append_assoc]

theorem isFlat_iff :
  p.IsFlat ↔ ∀ nodes, every nodes ∉ p.clauses
  := by
  cases p with
  | every nodes =>
      constructor
      · intro h
        exact h nodes rfl
      · rintro h _ ⟨⟩
        exact h
  | _ => simp [IsFlat, clauses]

/-- The conjunction of two predicates has no conjunction among its nodes exactly if none of the
two has. -/
theorem isFlat_and :
  (p.and q).IsFlat ↔ p.IsFlat ∧ q.IsFlat
  := by
  rw [isFlat_iff, isFlat_iff, isFlat_iff, ← forall_and]
  simp only [clauses_and, List.mem_append, not_or]

theorem isAll_iff :
  p.isAll = true ↔ p = all
  := by cases p <;> simp [isAll]

/-- What the conjunction of two predicates is, whichever of them are `all`. -/
theorem and_eq_ite (p q : Predicate) :
  p.and q = if p.isAll then q else if q.isAll then p else every (p.clauses ++ q.clauses)
  := by
  split
  · next hp => rw [isAll_iff.mp hp, all_and]
  · next hp =>
      split
      · next hq => rw [isAll_iff.mp hq, and_all]
      · next hq => exact and_of_ne_all (mt isAll_iff.mpr hp) (mt isAll_iff.mpr hq)

/-- Joining predicates is a lawful conjunction.  It means that both hold; `all` is its identity on
both sides; it is associative, as an equation of predicates; and its clauses are those of the one
predicate and then those of the other, so that a conjunction stands directly in it only if one
stands directly in one of the two. -/
theorem and_lawful (p q r : Predicate) :
  (∀ d, (p.and q).holds d = true ↔ p.holds d = true ∧ q.holds d = true)
  ∧ all.and p = p
  ∧ p.and all = p
  ∧ (p.and q).and r = p.and (q.and r)
  ∧ ((p.and q).IsFlat ↔ p.IsFlat ∧ q.IsFlat)
  ∧ (p.and q).clauses = p.clauses ++ q.clauses
  ∧ p.and q = if p.isAll then q else if q.isAll then p else every (p.clauses ++ q.clauses)
  := by
  refine ⟨fun d => ?_, all_and p, and_all p, and_assoc p q r, isFlat_and, clauses_and p q,
    and_eq_ite p q⟩
  rw [holds_and, Bool.and_eq_true]

/-! ### Conditions and what is joined with them -/

/-- A predicate that is joined with others one by one holds where all of them do. -/
theorem holds_foldl_and (p : Predicate) (ps : List Predicate) :
  (ps.foldl Predicate.and p).holds d = (p.holds d && holdAll d ps)
  := by
  induction ps generalizing p with
  | nil => rw [List.foldl_nil, holdAll, Bool.and_true]
  | cons q ps ih => rw [List.foldl_cons, ih, holds_and, holdAll, Bool.and_assoc]

/-- A filter only narrows a predicate. -/
theorem holds_of_holds_filtered {base : Predicate} {kind : SchemaKind} {filter : Option String}
    (h : (filter.elim base (base.withFilter kind)).holds d = true) :
  base.holds d = true
  := by
  cases filter with
  | none => exact h
  | some filter =>
      rw [Option.elim_some, withFilter] at h
      split at h
      · apply h
      · rw [holds_foldl_and] at h
        apply (Bool.and_eq_true_iff.mp h).1

end Predicate

/-- The condition of a request asks for its flags and its owner, whatever its term and its
filter are. -/
theorem SearchRequest.holds_of_predicate {r : SearchRequest} {kind : SchemaKind} {p : Predicate}
    (hp : r.predicate kind = .ok p) {d : Document} (h : p.holds d = true) :
  (flagPredicate r.ignoreDeleted (kind.normalize deletedField) r.deleted).holds d = true
    ∧ (flagPredicate r.ignoreArchived (kind.normalize archivedField) r.archived).holds d = true
    ∧ (clientPredicate kind r.clientId).holds d = true
  := by
  rw [predicate] at hp
  cases hterm : termPredicate kind r.term with
  | error e =>
      rw [hterm] at hp
      cases hp
  | ok term =>
      rw [hterm] at hp
      cases hp
      have hbase := Predicate.holds_of_holds_filtered h
      simp only [Predicate.holds_and, Bool.and_eq_true] at hbase
      exact ⟨hbase.1.1.1, hbase.1.1.2, hbase.1.2⟩

end AuditedStore
