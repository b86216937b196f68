import AuditedStore.Proofs.Store.Embedded
import AuditedStore.Proofs.Store.Scanning

/-!
# The effect of commands on the collections of a store

Both kinds of stores keep a map from names to collections.  A command sets at most one of them,
the one that it writes, and it does so only if it has opened that one or it was there; or it drops
one.  So a command leaves all other collections as they are.
-/

namespace AuditedStore

/-! ### Commands on collections -/

namespace Command

/-- With this answer a command has stored a document in a collection, or created an index on it. -/
def Stores (name : String) : {α : Type} → Command α → Except Error α → Prop
  | _, insert n _, .ok _ => n = name
  | _, replace n _ _ _, .ok result => n = name ∧ result.upserted.isSome = true
  | _, createIndex i, .ok _ => i.collection = name
  | _, _, _ => False

/-- With this answer a command has found nothing to replace in a collection, and inserted
nothing. -/
def FindsNone (name : String) : {α : Type} → Command α → Except Error α → Prop
  | _, replace n _ _ _, .ok result => n = name ∧ result = .unmatched
  | _, _, _ => False

/-- With this answer a command has made sure that a collection is there. -/
def Opens (name : String) {α : Type} (c : Command α) (answer : Except Error α) : Prop :=
  c.Stores name answer ∨ c.FindsNone name answer

/-- A command drops a collection. -/
def Drops (name : String) : {α : Type} → Command α → Prop
  | _, drop n => n = name
  | _, _ => False

/-- A command reads the store, or updates a document of it. -/
def ReadsOrUpdates : {α : Type} → Command α → Prop
  | _, find .. | _, count .. | _, update .. | _, listCollections _ | _, listIndexes _ => True
  | _, _ => False

/-- The collection that a command may write. -/
def written? : {α : Type} → Command α → Option String
  | _, insert n _ | _, replace n _ _ _ | _, update n _ _ => some n
  | _, createIndex i => some i.collection
  | _, _ => none

variable {c : Command α} {answer : Except Error α} {name : String}

theorem not_opens_error (e : Error) :
  ¬ c.Opens name (.error e)
  := by
  cases c with
  | _ => rintro (h | h) <;> cases h

theorem written?_of_opens (h : c.Opens name answer) :
  c.written? = some name
  := by
  cases answer with
  | error e => exact absurd h (not_opens_error e)
  | ok a =>
      cases c with
      | insert n d =>
          obtain rfl : n = name := h.resolve_right id
          rfl
      | replace n p d upsert =>
          obtain ⟨rfl, -⟩ | ⟨rfl, -⟩ := h
          · rfl
          · rfl
      | createIndex i =>
          obtain rfl : i.collection = name := h.resolve_right id
          rfl
      | _ => exact absurd h (by rintro (h | h) <;> exact h)

theorem written?_of_drops (h : c.Drops name) :
  c.written? = none
  := by
  cases c with
  | drop n => rfl
  | _ => cases h

namespace ReadsOrUpdates

theorem not_opens (h : c.ReadsOrUpdates) :
  ¬ c.Opens name answer
  := by
  cases c with
  | find | count | update | listCollections | listIndexes => rintro (h | h) <;> cases h
  | _ => cases h

theorem not_drops (h : c.ReadsOrUpdates) :
  ¬ c.Drops name
  := by
  cases c with
  | find | count | update | listCollections | listIndexes => exact id
  | _ => cases h

end ReadsOrUpdates

/-- What a command does with the collections of a store: nothing, it sets one that it has opened or
that was there, or it drops one. -/
inductive Effect {β : Type} {α : Type} (c : Command α) (answer : Except Error α) (es : Assoc β) :
    Assoc β → Prop where
  | none (hopens : ∀ name, ¬ c.Opens name answer)
      (hdrops : ∀ name, SortedStore.isReserved name = false → ¬ c.Drops name) :
      Effect c answer es es
  | set {name : String} (v : β) (hname : c.written? = some name)
      (hthere : c.Opens name answer ∨ name ∈ Assoc.keys es) :
      Effect c answer es (Assoc.insert name v es)
  | drop (name : String) (hdrops : ∀ other, c.Drops other ↔ other = name) :
      Effect c answer es (Assoc.erase name es)

namespace Effect

variable {β : Type} {es es' : Assoc β}

theorem ascending (h : c.Effect answer es es') (hes : Assoc.Ascending es) :
  Assoc.Ascending es'
  := by
  cases h with
  | none => exact hes
  | set v => exact hes.insert _ v
  | drop dropped => exact hes.erase dropped

/-- After a command, the collections are there that it has opened, and those that were there before
and that it does not drop. -/
theorem mem_keys_iff (h : c.Effect answer es es') (hr : SortedStore.isReserved name = false) :
  name ∈ Assoc.keys es' ↔ c.Opens name answer ∨ name ∈ Assoc.keys es ∧ ¬ c.Drops name
  := by
  cases h with
  | none hopens hdrops => simp [hopens, hdrops name hr]
  | set v hwritten hthere =>
      have hdrops : ¬ c.Drops name := by
        intro hdrops
        rw [written?_of_drops hdrops] at hwritten
        cases hwritten
      rw [Assoc.mem_keys_insert_iff]
      constructor
      · rintro (rfl | hname)
        · exact hthere.imp_right fun hmem => ⟨hmem, hdrops⟩
        · exact Or.inr ⟨hname, hdrops⟩
      · rintro (hopens | ⟨hname, -⟩)
        · rw [written?_of_opens hopens] at hwritten
          exact Or.inl (Option.some.inj hwritten)
        · exact Or.inr hname
  | drop dropped hdrops =>
      have hopens : ¬ c.Opens name answer := by
        intro hopens
        have hwritten := written?_of_drops ((hdrops dropped).mpr rfl)
        rw [written?_of_opens hopens] at hwritten
        cases hwritten
      simp [Assoc.keys_erase, hopens, hdrops, and_comm]

/-- A command leaves the collections as they are that it neither writes nor drops. -/
theorem get?_eq (h : c.Effect answer es es') (hwritten : c.written? ≠ some name)
    (hdrops : ¬ c.Drops name) :
  Assoc.get? name es' = Assoc.get? name es
  := by
  cases h with
  | none => rfl
  | set v hset =>
      rw [Assoc.get?_insert, if_neg]
      rintro rfl
      exact hwritten hset
  | drop dropped hdropped => rw [Assoc.get?_erase, if_neg fun h => hdrops ((hdropped name).mpr h)]

theorem keys_of_readsOrUpdates (h : c.Effect answer es es') (hes : Assoc.Ascending es)
    (hc : c.ReadsOrUpdates) :
  Assoc.keys es' = Assoc.keys es
  := by
  cases h with
  | none => rfl
  | set v _ hthere => exact hes.keys_insert (hthere.resolve_left hc.not_opens) v
  | drop dropped hdrops => exact absurd ((hdrops dropped).mpr rfl) hc.not_drops

end Effect

end Command

/-! ### Stores in memory -/

namespace MemoryStore

variable {s : MemoryStore} {name : String}

theorem collection_of_notMem (h : name ∉ Assoc.keys s.collections) :
  s.collection name = {}
  := by
  rw [Assoc.mem_keys_iff, not_not] at h
  rw [collection, h, Option.getD_none]

theorem mem_keys_of_hasId {id : String} (h : (s.collection name).hasId id = true) :
  name ∈ Assoc.keys s.collections
  := by
  by_contra hmem
  rw [collection_of_notMem hmem] at h
  simp [Collection.hasId] at h

theorem mem_keys_of_position? {p : Predicate} {i : Nat}
    (h : (s.collection name).position? p = some i) :
  name ∈ Assoc.keys s.collections
  := by
  by_contra hmem
  rw [collection_of_notMem hmem, Collection.position?] at h
  split at h
  · simp at h
  · simp at h

theorem effect_insert (s : MemoryStore) (name : String) (d : Document) :
  (Command.insert name d).Effect (s.insert name d).1 s.collections
    (s.insert name d).2.collections
  := by
  rw [insert]
  split
  · next htaken => exact .set _ rfl (Or.inr (mem_keys_of_hasId htaken))
  · exact .set _ rfl (Or.inl (Or.inl rfl))

theorem effect_replace (s : MemoryStore) (name : String) (p : Predicate) (d : Document)
    (upsert : Bool) :
  (Command.replace name p d upsert).Effect (s.replace name p d upsert).1 s.collections
    (s.replace name p d upsert).2.collections
  := by
  simp only [replace]
  split
  · next hfound =>
      obtain ⟨i, hi, -⟩ := Option.bind_eq_some_iff.mp hfound
      exact .set _ rfl (Or.inr (mem_keys_of_position? hi))
  · split
    · by_cases htaken : (s.collection name).hasId d.id = true
      · simp only [insert, htaken, if_true]
        exact .set _ rfl (Or.inr (mem_keys_of_hasId htaken))
      · simp only [insert, htaken, Bool.false_eq_true, if_false]
        exact .set _ rfl (Or.inl (Or.inl ⟨rfl, rfl⟩))
    · exact .set _ rfl (Or.inl (Or.inr ⟨rfl, rfl⟩))

theorem effect_update (s : MemoryStore) (name : String) (p : Predicate) (u : Update) :
  (Command.update name p u).Effect (s.update name p u).1 s.collections
    (s.update name p u).2.collections
  := by
  simp only [update]
  split
  · next hfound =>
      obtain ⟨i, hi, -⟩ := Option.bind_eq_some_iff.mp hfound
      have hthere := mem_keys_of_position? hi
      split
      · exact .set _ rfl (Or.inr hthere)
      · exact .set _ rfl (Or.inr hthere)
  · exact .none (fun _ => Command.ReadsOrUpdates.not_opens trivial) fun _ _ => id

theorem effect_exec (c : Command α) (s : MemoryStore) :
  c.Effect (DocumentStore.exec c s).1 s.collections (DocumentStore.exec c s).2.collections
  := by
  cases c with
  | insert name d => exact s.effect_insert name d
  | replace name p d upsert => exact s.effect_replace name p d upsert
  | update name p u => exact s.effect_update name p u
  | drop name => exact .drop name fun _ => eq_comm
  | createIndex i => exact .set _ rfl (Or.inl (Or.inl rfl))
  | _ => exact .none (fun _ => Command.ReadsOrUpdates.not_opens trivial) fun _ _ => id

end MemoryStore

/-! ### Sorted stores -/

namespace SortedStore

variable {s : SortedStore} {name : String}

theorem tree_of_notMem (h : name ∉ Assoc.keys s.trees) :
  s.tree name = []
  := by
  apply s.tree_of_hasTree_eq_false
  rw [Assoc.mem_keys_iff, not_not] at h
  simp [hasTree, Assoc.contains, h]

theorem mem_keys_of_contains {id : String} (h : Assoc.contains id (s.tree name) = true) :
  name ∈ Assoc.keys s.trees
  := by
  by_contra hmem
  rw [tree_of_notMem hmem] at h
  cases h

theorem mem_keys_of_firstMatch? {p : Predicate} {d : Document}
    (h : firstMatch? (s.tree name) p = some d) :
  name ∈ Assoc.keys s.trees
  := by
  by_contra hmem
  rw [tree_of_notMem hmem, firstMatch?, candidates] at h
  split at h
  · cases h
  · cases h

/-- Writing a collection has an effect on the collections, if the command that does it opens the
collection or finds something there. -/
theorem effect_writing (s : SortedStore) {c : Command α} (hwritten : c.written? = some name)
    (write : Assoc Document → Except Error α × Assoc Document)
    (hthere : c.Opens name (write (s.tree name)).1 ∨ name ∈ Assoc.keys s.trees) :
  c.Effect (s.writing name write).1 s.trees (s.writing name write).2.trees
  := by
  cases hr : isReserved name with
  | true =>
      rw [s.writing_of_isReserved hr]
      apply Command.Effect.none fun _ => Command.not_opens_error _
      intro other _ hdrops
      rw [Command.written?_of_drops hdrops] at hwritten
      cases hwritten
  | false =>
      rw [writing_eq hr]
      exact .set _ hwritten hthere

theorem effect_insert (s : SortedStore) (name : String) (d : Document) :
  (Command.insert name d).Effect (s.writing name (insertNew name d)).1 s.trees
    (s.writing name (insertNew name d)).2.trees
  := by
  apply s.effect_writing rfl
  rw [insertNew]
  split
  · next htaken => exact Or.inr (mem_keys_of_contains htaken)
  · exact Or.inl (Or.inl rfl)

theorem effect_replace (s : SortedStore) (name : String) (p : Predicate) (d : Document)
    (upsert : Bool) :
  (Command.replace name p d upsert).Effect (s.writing name (replaceFirst name p d upsert)).1
    s.trees (s.writing name (replaceFirst name p d upsert)).2.trees
  := by
  apply s.effect_writing rfl
  rw [replaceFirst]
  split
  · next hfound => exact Or.inr (mem_keys_of_firstMatch? hfound)
  · split
    · by_cases htaken : Assoc.contains d.id (s.tree name) = true
      · exact Or.inr (mem_keys_of_contains htaken)
      · simp only [insertNew, htaken, Bool.false_eq_true, if_false]
        exact Or.inl (Or.inl ⟨rfl, rfl⟩)
    · exact Or.inl (Or.inr ⟨rfl, rfl⟩)

theorem effect_update (s : SortedStore) (name : String) (p : Predicate) (u : Update) :
  (Command.update name p u).Effect (s.update name p u).1 s.trees (s.update name p u).2.trees
  := by
  have hnone : ∀ answer, (Command.update name p u).Effect answer s.trees s.trees := fun _ =>
    .none (fun _ => Command.ReadsOrUpdates.not_opens trivial) fun _ _ => id
  simp only [update]
  split
  · next hfound =>
      split
      · exact .set _ rfl (Or.inr (mem_keys_of_firstMatch? hfound))
      · apply hnone
  · apply hnone

theorem effect_createIndex (s : SortedStore) (i : IndexDefinition) :
  (Command.createIndex i).Effect (s.createIndex i).1 s.trees (s.createIndex i).2.trees
  := by
  have heffect : (Command.createIndex i).Effect _ _ _ :=
    s.effect_writing rfl (fun t => (.ok i.name, t)) (Or.inl (Or.inl rfl))
  simp only [createIndex]
  split
  · next hok =>
      rw [hok] at heffect
      exact heffect
  · next herror =>
      rw [herror] at heffect
      exact heffect

theorem effect_drop (s : SortedStore) (name : String) :
  (Command.drop name).Effect (.ok ()) s.trees (s.drop name).trees
  := by
  have hopens : ∀ other, ¬ (Command.drop name).Opens other (.ok ()) := by
    rintro other (h | h)
    · exact h
    · exact h
  simp only [drop]
  split
  · exact .drop name fun _ => eq_comm
  · next htree =>
      cases hr : isReserved name with
      | true =>
          apply Command.Effect.none hopens
          rintro other hother rfl
          exact Bool.false_ne_true (hother.symm.trans hr)
      | false =>
          have hnone : Assoc.get? name s.trees = none := by
            simpa [hasTree, hr, Assoc.contains] using htree
          have hdrop : (Command.drop name).Effect (.ok ()) s.trees (Assoc.erase name s.trees) :=
            .drop name fun _ => eq_comm
          rwa [Assoc.erase_eq_self hnone] at hdrop

theorem effect_exec (c : Command α) (s : SortedStore) :
  c.Effect (DocumentStore.exec c s).1 s.trees (DocumentStore.exec c s).2.trees
  := by
  cases c with
  | insert name d => exact s.effect_insert name d
  | replace name p d upsert => exact s.effect_replace name p d upsert
  | update name p u => exact s.effect_update name p u
  | drop name => exact s.effect_drop name
  | createIndex i => exact s.effect_createIndex i
  | _ => exact .none (fun _ => Command.ReadsOrUpdates.not_opens trivial) fun _ _ => id

end SortedStore

/-- A command leaves the documents of the collections as they are that it neither writes nor
drops. -/
theorem EmbeddedStore.documents_exec_of_ne (s : EmbeddedStore) {c : Command α} {name : String}
    (hwritten : c.written? ≠ some name) (hdrops : ¬ c.Drops name) :
  (DocumentStore.exec c s).2.documents name = s.documents name
  := by
  cases s with
  | memory s =>
      rw [exec_memory, documents, documents, MemoryStore.documents, MemoryStore.documents,
        MemoryStore.collection, MemoryStore.collection, (s.effect_exec c).get?_eq hwritten hdrops]
  | sorted s =>
      rw [exec_sorted, documents, documents, SortedStore.documents, SortedStore.documents,
        SortedStore.tree, SortedStore.tree, (s.effect_exec c).get?_eq hwritten hdrops]

end AuditedStore
