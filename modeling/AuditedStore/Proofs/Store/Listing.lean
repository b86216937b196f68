import AuditedStore.Proofs.Store.Effect
import AuditedStore.Proofs.Store.Runs

/-!
# The collections that a store lists

A collection is there once a document is stored in it or an index is created on it, until it is
dropped.  Reading it does not make it, nor does updating, whether a document matches or not.  A
replacement does: both kinds of stores open the collection for writing before they look for a
document, so that one that matches nothing and inserts nothing leaves an empty collection.
-/

namespace AuditedStore

/-! ### The names of the collections -/

namespace EmbeddedStore

/-- The names of the collections. -/
def names : EmbeddedStore → List String
  | memory s => Assoc.keys s.collections
  | sorted s => (Assoc.keys s.trees).filter fun name => !SortedStore.isReserved name

/-- The names of the collections ascend. -/
def Ascending : EmbeddedStore → Prop
  | memory s => Assoc.Ascending s.collections
  | sorted s => Assoc.Ascending s.trees

variable {s : EmbeddedStore} {c : Command α} {name : String}

theorem exec_listCollections (wanted : Option String) (s : EmbeddedStore) :
  DocumentStore.exec (.listCollections wanted) s = (.ok (s.names.filter (isWanted wanted)), s)
  := by
  cases s with
  | memory s => rfl
  | sorted s =>
      rw [exec_sorted, names, List.filter_filter]
      simp only [Bool.and_comm (isWanted wanted _)]
      rfl

theorem Ascending.exec (h : s.Ascending) (c : Command α) :
  (DocumentStore.exec c s).2.Ascending
  := by
  cases s with
  | memory s => exact (s.effect_exec c).ascending h
  | sorted s => exact (s.effect_exec c).ascending h

theorem mem_names_exec_iff (s : EmbeddedStore) (c : Command α)
    (hr : SortedStore.isReserved name = false) :
  name ∈ (DocumentStore.exec c s).2.names
    ↔ c.Opens name (DocumentStore.exec c s).1 ∨ name ∈ s.names ∧ ¬ c.Drops name
  := by
  cases s with
  | memory s => exact (s.effect_exec c).mem_keys_iff hr
  | sorted s =>
      have hiff := (s.effect_exec c).mem_keys_iff hr
      simpa [names, exec_sorted, hr] using hiff

theorem names_exec_of_readsOrUpdates (h : s.Ascending) (hc : c.ReadsOrUpdates) :
  (DocumentStore.exec c s).2.names = s.names
  := by
  cases s with
  | memory s => exact (s.effect_exec c).keys_of_readsOrUpdates h hc
  | sorted s =>
      rw [exec_sorted, names, (s.effect_exec c).keys_of_readsOrUpdates h hc, names]

end EmbeddedStore

namespace Script

/-- A run stores something in a collection, and no later command drops it. -/
def Stored {σ : Type} [DocumentStore σ] (s : σ) (name : String) (cs : Script) : Prop :=
  Since (fun before c => c.2.Stores name (DocumentStore.exec c.2 (before.run s)).1)
    (fun c => c.2.Drops name) cs

/-- A run opens a collection, and no later command drops it. -/
def Opened {σ : Type} [DocumentStore σ] (s : σ) (name : String) (cs : Script) : Prop :=
  Since (fun before c => c.2.Opens name (DocumentStore.exec c.2 (before.run s)).1)
    (fun c => c.2.Drops name) cs

theorem stored_concat_iff {σ : Type} [DocumentStore σ] {s : σ} {name : String} {cs : Script}
    {c : Sigma Command} :
  Stored s name (cs ++ [c])
    ↔ c.2.Stores name (DocumentStore.exec c.2 (cs.run s)).1 ∨ cs.Stored s name ∧ ¬ c.2.Drops name
  := since_concat_iff

/-- The last command of a run opens a collection, or does not drop one that is open. -/
theorem opened_concat_iff {σ : Type} [DocumentStore σ] {s : σ} {name : String} {cs : Script}
    {c : Sigma Command} :
  Opened s name (cs ++ [c])
    ↔ c.2.Opens name (DocumentStore.exec c.2 (cs.run s)).1 ∨ cs.Opened s name ∧ ¬ c.2.Drops name
  := since_concat_iff

end Script

namespace Location

variable {name : String}

theorem ascending_run (l : Location) (cs : Script) :
  (cs.run l.emptyStore).Ascending
  := by
  induction cs using List.reverseRecOn with
  | nil =>
      cases l with
      | memory key => exact List.Pairwise.nil
      | directory absolute parts => exact List.Pairwise.nil
  | append_singleton cs c ih =>
      rw [Script.run_concat]
      exact ih.exec c.2

/-- After a run the collections are there that it has opened and not dropped since. -/
theorem mem_names_run_iff (l : Location) (cs : Script) (hr : SortedStore.isReserved name = false) :
  name ∈ (cs.run l.emptyStore).names ↔ cs.Opened l.emptyStore name
  := by
  induction cs using List.reverseRecOn with
  | nil =>
      apply iff_of_false _ Script.not_since_nil
      cases l with
      | memory key => exact List.not_mem_nil
      | directory absolute parts => exact List.not_mem_nil
  | append_singleton cs c ih =>
      rw [Script.run_concat, EmbeddedStore.mem_names_exec_iff _ _ hr, ih,
        Script.opened_concat_iff]

/-- After every run a store lists, of the collections that are not reserved, those in which a
document was stored, on which an index was created or in which a replacement found nothing since
they were last dropped.  What reads the store or updates a document of it leaves the list as it
is. -/
theorem listCollections_run (l : Location) (cs : Script) (wanted : Option String) :
  ∃ names, (DocumentStore.exec (.listCollections wanted) (cs.run l.emptyStore)).1 = .ok names
    ∧ (∀ name, SortedStore.isReserved name = false →
        (name ∈ names ↔ isWanted wanted name = true ∧ cs.Opened l.emptyStore name))
    ∧ ∀ {α : Type} (c : Command α), c.ReadsOrUpdates →
        (DocumentStore.exec (.listCollections wanted)
          (DocumentStore.exec c (cs.run l.emptyStore)).2).1 = .ok names
  := by
  refine ⟨(cs.run l.emptyStore).names.filter (isWanted wanted), ?_, ?listed, ?unchanged⟩
  · rw [EmbeddedStore.exec_listCollections]
  case listed =>
    intro name hr
    rw [List.mem_filter, mem_names_run_iff l cs hr, and_comm]
  case unchanged =>
    intro α c hc
    rw [EmbeddedStore.exec_listCollections,
      EmbeddedStore.names_exec_of_readsOrUpdates (l.ascending_run cs) hc]

/-- An index on a collection that was dropped makes it a collection again. -/
theorem listCollections_run_createIndex :
  let cs : Script := [⟨_, .createIndex ⟨"by_name", "cards", [], true⟩⟩, ⟨_, .drop "cards"⟩,
    ⟨_, .createIndex ⟨"by_name", "cards", [], true⟩⟩]
  ∃ names, (DocumentStore.exec (.listCollections none) (cs.run (memory "m").emptyStore)).1
      = .ok names
    ∧ "cards" ∈ names
  := by
  intro cs
  have hopened : cs.Opened (memory "m").emptyStore "cards" := by
    refine ⟨[cs[0], cs[1]], cs[2], [], rfl, Or.inl ?_, fun _ hd => absurd hd List.not_mem_nil⟩
    change "cards" = "cards"
    rfl
  obtain ⟨names, hnames, hlisted, -⟩ := listCollections_run (memory "m") cs none
  exact ⟨names, hnames, (hlisted "cards" (by decide)).mpr ⟨rfl, hopened⟩⟩

/-- A replacement that finds nothing and inserts nothing. -/
def replaceNone : Command UpdateResult := .replace "cards" .all ⟨"a", []⟩ false

/-- After a replacement that reports that nothing matched, both kinds of stores list its
collection, in which nothing was stored. -/
theorem listCollections_replaceNone :
  let cs : Script := [⟨_, replaceNone⟩]
  ∀ l ∈ [memory "m", directory true ["data"]],
    (DocumentStore.exec replaceNone l.emptyStore).1 = .ok .unmatched
      ∧ (DocumentStore.exec (.listCollections none) (cs.run l.emptyStore)).1 = .ok ["cards"]
      ∧ ¬ cs.Stored l.emptyStore "cards"
  := by
  intro cs l hl
  have hanswer : (DocumentStore.exec replaceNone l.emptyStore).1 = .ok .unmatched := by
    rcases List.mem_pair.mp hl with rfl | rfl
    · rfl
    · rfl
  refine ⟨hanswer, ?_, ?_⟩
  · rcases List.mem_pair.mp hl with rfl | rfl
    · rfl
    · rfl
  · intro hstored
    rw [← List.nil_append cs, Script.stored_concat_iff] at hstored
    obtain hstores | ⟨hnil, -⟩ := hstored
    · change replaceNone.Stores "cards" (DocumentStore.exec replaceNone l.emptyStore).1 at hstores
      rw [hanswer] at hstores
      exact Bool.false_ne_true hstores.2
    · exact Script.not_since_nil hnil

end Location

end AuditedStore
