import AuditedStore.Search

/-!
# Pinned ids

A predicate that pins an id holds only for documents with that id, however deep in its
conjunctions the id stands.  The predicate `Predicate.hasId` holds exactly for these.
-/

namespace AuditedStore

namespace Query

/-- Two texts are compared as they are, without coercion. -/
theorem looseCompare?_string (s t : String) :
  looseCompare? (.string s) (.string t) = some (compare s t)
  := by
  simp [looseCompare?, coerce?, Value.rank, Value.compareTo]

/-- A stored text equals the operands with the same characters alone. -/
theorem compares_eq_string (s t : String) :
  compares .eq (.string s) (.string t) = (s == t)
  := by
  apply Bool.eq_iff_iff.mpr
  simp only [compares, anyElement, looseCompare?_string, beq_iff_eq, Option.some.injEq]
  apply Std.compare_eq_iff_eq

end Query

namespace Predicate

/-- The predicate `hasId id` holds exactly for the documents with the id `id`. -/
@[simp]
theorem holds_hasId (d : Document) (id : String) :
  (hasId id).holds d = (d.id == id)
  := by
  simp [hasId, holds, Document.at?, Query.compares_eq_string]

@[simp]
theorem pinnedId?_hasId (id : String) :
  (hasId id).pinnedId? = some id
  := by simp [hasId, pinnedId?]

mutual

/-- A predicate that pins an id holds only for documents with it. -/
theorem id_eq_of_holds {d : Document} {id : String} :
  ∀ {p : Predicate}, p.holds d = true → p.pinnedId? = some id → d.id = id
  | .equal field (.string v), hp, hid => by
      simp only [pinnedId?] at hid
      split at hid
      · next hf =>
          obtain rfl := hf
          obtain rfl := Option.some.inj hid
          simpa [holds, Document.at?, Query.compares_eq_string] using hp
      · cases hid
  | .every nodes, hp, hid => id_eq_of_holdAll hp hid

/-- A conjunction in which a predicate pins an id holds only for documents with it. -/
theorem id_eq_of_holdAll {d : Document} {id : String} :
  ∀ {ps : List Predicate}, holdAll d ps = true → firstPinnedId? ps = some id → d.id = id
  | p :: ps, hp, hid => by
      obtain ⟨hhead, htail⟩ := Bool.and_eq_true_iff.mp hp
      cases h : p.pinnedId? with
      | some pinned =>
          rw [firstPinnedId?, h, Option.some_or] at hid
          obtain rfl := Option.some.inj hid
          apply id_eq_of_holds hhead h
      | none =>
          rw [firstPinnedId?, h, Option.none_or] at hid
          apply id_eq_of_holdAll htail hid

end

end Predicate

end AuditedStore
