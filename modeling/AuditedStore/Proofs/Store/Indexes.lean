import AuditedStore.Proofs.Store.Runs
import AuditedStore.Proofs.Text

/-!
# The indexes of collections

A store lists the indexes of a collection.  Under each name that is the one created last, unless
the collection was dropped since, and neither creating nor dropping elsewhere changes the list.
A store in memory keeps that for all collections.  A sorted store keeps all indexes under keys
that join the collection and the name by a slash; it keeps that exactly for collections none of
which goes on with a slash where the name of another one ends.
-/

namespace AuditedStore

/-! ### Commands on indexes -/

namespace Command

/-- The collection whose indexes a command changes. -/
def indexed? : Command α → Option String
  | createIndex i => some i.collection
  | drop name => some name
  | _ => none

/-- A command creates an index. -/
def Creates : Command α → IndexDefinition → Prop
  | createIndex j, i => j = i
  | _, _ => False

/-- A command takes an index away: it drops the collection of the index, or creates one with its
name there. -/
def Removes : Command α → IndexDefinition → Prop
  | createIndex j, i => j.collection = i.collection ∧ j.name = i.name
  | drop name, i => name = i.collection
  | _, _ => False

/-- A command creates an index, drops a collection, or changes no indexes. -/
inductive IndexCases : {α : Type} → Command α → Prop where
  | create (i : IndexDefinition) : IndexCases (createIndex i)
  | drop (name : String) : IndexCases (drop name)
  | other {α : Type} {c : Command α} (h : c.indexed? = none) : IndexCases c

theorem indexCases (c : Command α) :
  c.IndexCases
  := by
  cases c with
  | createIndex i => exact .create i
  | drop name => exact .drop name
  | _ => exact .other rfl

variable {c : Command α} {i : IndexDefinition}

theorem indexed?_of_creates (h : c.Creates i) :
  c.indexed? = some i.collection
  := by
  cases c with
  | createIndex j => exact congrArg (fun j => some j.collection) h
  | _ => cases h

theorem indexed?_of_removes (h : c.Removes i) :
  c.indexed? = some i.collection
  := by
  cases c with
  | createIndex j => exact congrArg some h.1
  | drop name => exact congrArg some h
  | _ => cases h

end Command

namespace Script

/-- A run leaves an index: it creates the index, and no later command takes that away. -/
def Leaves (cs : Script) (i : IndexDefinition) : Prop :=
  ∃ before c after, cs = before ++ c :: after ∧ c.2.Creates i ∧ ∀ d ∈ after, ¬ d.2.Removes i

variable {cs : Script} {c : Sigma Command} {i : IndexDefinition}

/-- A run changes the indexes of these collections alone. -/
def IndexesOnly (cs : Script) (names : String → Prop) : Prop :=
  ∀ c ∈ cs, ∀ name ∈ c.2.indexed?, names name

/-- The last command of a run creates an index, or does not take away one that is there. -/
theorem leaves_concat_iff :
  Leaves (cs ++ [c]) i ↔ c.2.Creates i ∨ cs.Leaves i ∧ ¬ c.2.Removes i
  := since_concat_iff

end Script

/-! ### Stores with indexes -/

/-- A document store that keeps the indexes of some sets of collections apart. -/
class IndexingStore (σ : Type) [DocumentStore σ] where
  /-- The indexes of a collection. -/
  indexes : σ → String → List IndexDefinition
  /-- Whether the indexes of the collections with these names are kept apart. -/
  Separates : (String → Prop) → Prop
  /-- What the states have in common in which only these collections have indexes. -/
  Registers : (String → Prop) → σ → Prop
  exec_listIndexes (s : σ) (name : String) :
    DocumentStore.exec (.listIndexes name) s = (.ok (indexes s name), s)
  registers_exec {names : String → Prop} (hn : Separates names) {s : σ} (h : Registers names s)
    {α : Type} {c : Command α} (hc : ∀ name ∈ c.indexed?, names name) :
    Registers names (DocumentStore.exec c s).2
  collection_eq {names : String → Prop} (hn : Separates names) {s : σ} (h : Registers names s)
    {name : String} (hname : names name) {i : IndexDefinition} (hi : i ∈ indexes s name) :
    i.collection = name
  nodup_names {names : String → Prop} (hn : Separates names) {s : σ} (h : Registers names s)
    {name : String} (hname : names name) :
    ((indexes s name).map IndexDefinition.name).Nodup
  indexes_createIndex {names : String → Prop} (hn : Separates names) {s : σ}
    (h : Registers names s) {i : IndexDefinition} (hi : names i.collection)
    (j : IndexDefinition) :
    j ∈ indexes (DocumentStore.exec (.createIndex i) s).2 i.collection
      ↔ j = i ∨ j ∈ indexes s i.collection ∧ i.name ≠ j.name
  indexes_drop (s : σ) (name : String) :
    indexes (DocumentStore.exec (.drop name) s).2 name = []
  indexes_exec_of_ne {names : String → Prop} (hn : Separates names) {s : σ}
    {α : Type} {c : Command α} (hc : ∀ name ∈ c.indexed?, names name) {name : String}
    (hname : names name) (hne : c.indexed? ≠ some name) :
    indexes (DocumentStore.exec c s).2 name = indexes s name

namespace IndexingStore

variable {σ : Type} [DocumentStore σ] [IndexingStore σ] {names : String → Prop} {s : σ}
  {name : String} {i : IndexDefinition}

/-- After a command an index is there that the command has created, or that was there and is not
taken away. -/
theorem mem_indexes_exec_iff (hn : Separates σ names) (h : Registers names s) {c : Command α}
    (hc : ∀ name ∈ c.indexed?, names name) (hi : names i.collection) :
  i ∈ indexes (DocumentStore.exec c s).2 i.collection
    ↔ c.Creates i ∨ i ∈ indexes s i.collection ∧ ¬ c.Removes i
  := by
  by_cases hcollection : c.indexed? = some i.collection
  · cases c.indexCases with
    | create j =>
        have hj : j.collection = i.collection := Option.some.inj hcollection
        have hcreate := indexes_createIndex hn h (hj ▸ hi : names j.collection) i
        rw [hj] at hcreate
        rw [hcreate]
        simp [Command.Creates, Command.Removes, hj, eq_comm]
    | drop name =>
        obtain rfl : name = i.collection := Option.some.inj hcollection
        rw [indexes_drop]
        simp [Command.Creates, Command.Removes]
    | other hnone => exact absurd (hnone.symm.trans hcollection) nofun
  · have hcreates : ¬ c.Creates i := fun h => hcollection (Command.indexed?_of_creates h)
    have hremoves : ¬ c.Removes i := fun h => hcollection (Command.indexed?_of_removes h)
    rw [indexes_exec_of_ne hn hc hi hcollection]
    simp [hcreates, hremoves]

/-- After a run from a state without indexes, the indexes are those that the run leaves. -/
theorem mem_indexes_run_iff (hn : Separates σ names) (h : Registers names s)
    (hempty : ∀ name, indexes s name = []) {cs : Script} (hcs : cs.IndexesOnly names) :
  Registers names (cs.run s)
    ∧ ∀ i, names i.collection → (i ∈ indexes (cs.run s) i.collection ↔ cs.Leaves i)
  := by
  induction cs using List.reverseRecOn with
  | nil =>
      refine ⟨h, fun i _ => ?_⟩
      rw [Script.run, List.foldl_nil, hempty]
      exact iff_of_false List.not_mem_nil (Script.not_since_nil)
  | append_singleton cs c ih =>
      obtain ⟨hbefore, hmem⟩ := ih fun d hd => hcs d (List.mem_append_left _ hd)
      have hc := hcs c (List.mem_append_right _ List.mem_cons_self)
      rw [Script.run_concat]
      refine ⟨registers_exec hn hbefore hc, fun i hi => ?_⟩
      rw [mem_indexes_exec_iff hn hbefore hc hi, hmem i hi, Script.leaves_concat_iff]

end IndexingStore

/-- A store keeps the indexes of these collections apart.  After every run that changes no other
indexes, each collection lists those that the run leaves in it, one under each name; a command on
one collection then changes the list of no other. -/
structure IsolatesIndexes {σ : Type} [DocumentStore σ] (s : σ) (names : String → Prop) : Prop where
  listed {cs : Script} (hcs : cs.IndexesOnly names) {name : String} (hname : names name) :
    ∃ is, (DocumentStore.exec (.listIndexes name) (cs.run s)).1 = .ok is
      ∧ (is.map IndexDefinition.name).Nodup
      ∧ ∀ i, i ∈ is ↔ i.collection = name ∧ cs.Leaves i
  unchanged {cs : Script} (hcs : cs.IndexesOnly names) {α : Type} {c : Command α}
    (hc : ∀ other ∈ c.indexed?, names other) {name : String} (hname : names name)
    (hne : c.indexed? ≠ some name) :
    (DocumentStore.exec (.listIndexes name) (DocumentStore.exec c (cs.run s)).2).1
      = (DocumentStore.exec (.listIndexes name) (cs.run s)).1

theorem IndexingStore.isolatesIndexes {σ : Type} [DocumentStore σ] [IndexingStore σ] {s : σ}
    {names : String → Prop} (hn : Separates σ names) (h : Registers names s)
    (hempty : ∀ name, indexes s name = []) :
  IsolatesIndexes s names
  where
  listed {cs} hcs name hname := by
    obtain ⟨hafter, hmem⟩ := mem_indexes_run_iff hn h hempty hcs
    refine ⟨indexes (cs.run s) name, ?_, nodup_names hn hafter hname, fun i => ?_⟩
    · rw [exec_listIndexes]
    · constructor
      · intro hi
        obtain rfl := collection_eq hn hafter hname hi
        exact ⟨rfl, (hmem i hname).mp hi⟩
      · rintro ⟨rfl, hleaves⟩
        exact (hmem i hname).mpr hleaves
  unchanged hcs _ c hc name hname hne := by
    rw [exec_listIndexes, exec_listIndexes, indexes_exec_of_ne hn hc hname hne]

/-! ### Stores in memory -/

namespace MemoryStore

variable {s : MemoryStore} {name : String}

/-- The indexes of a collection. -/
def indexesOf (s : MemoryStore) (name : String) : List IndexDefinition :=
  (Assoc.get? name s.indexes).getD []

/-- Every collection has indexes of its own, under different names. -/
structure Registered (indexes : String → List IndexDefinition) : Prop where
  collection_eq : ∀ name, ∀ i ∈ indexes name, i.collection = name
  nodup_names : ∀ name, ((indexes name).map IndexDefinition.name).Nodup

theorem Registered.empty :
  Registered (indexesOf {})
  := ⟨fun _ _ hi => absurd hi List.not_mem_nil, fun _ => List.nodup_nil⟩

theorem indexes_insert (s : MemoryStore) (name : String) (d : Document) :
  (s.insert name d).2.indexes = s.indexes
  := by
  rw [insert]
  split
  · rfl
  · rfl

theorem indexes_replace (s : MemoryStore) (name : String) (p : Predicate) (d : Document)
    (upsert : Bool) :
  (s.replace name p d upsert).2.indexes = s.indexes
  := by
  have hinsert := s.indexes_insert name d
  simp only [replace]
  split
  · rfl
  · split
    · split
      · next heq => rwa [heq] at hinsert
      · next heq => rwa [heq] at hinsert
    · rfl

theorem indexes_update (s : MemoryStore) (name : String) (p : Predicate) (u : Update) :
  (s.update name p u).2.indexes = s.indexes
  := by
  simp only [update]
  split
  · split
    · rfl
    · rfl
  · rfl

/-- Only creating an index or dropping a collection changes the indexes. -/
theorem indexes_exec (s : MemoryStore) {c : Command α} (hc : c.indexed? = none) :
  (DocumentStore.exec c s).2.indexes = s.indexes
  := by
  cases c with
  | insert name d => exact s.indexes_insert name d
  | replace name p d upsert => exact s.indexes_replace name p d upsert
  | update name p u => exact s.indexes_update name p u
  | createIndex i => cases hc
  | drop name => cases hc
  | _ => rfl

theorem indexesOf_exec (s : MemoryStore) {c : Command α} (hc : c.indexed? = none) :
  (DocumentStore.exec c s).2.indexesOf = s.indexesOf
  := by
  funext name
  rw [indexesOf, s.indexes_exec hc, indexesOf]

theorem indexesOf_createIndex (s : MemoryStore) (i : IndexDefinition) (name : String) :
  (s.createIndex i).indexesOf name
    = if name = i.collection
        then (s.indexesOf name).filter (fun j => j.name != i.name) ++ [i]
        else s.indexesOf name
  := by
  rw [indexesOf, createIndex, Assoc.get?_insert]
  split
  · next h => rw [h, Option.getD_some, indexesOf]
  · rfl

theorem indexesOf_drop (s : MemoryStore) (dropped name : String) :
  (DocumentStore.exec (.drop dropped) s).2.indexesOf name
    = if name = dropped then [] else s.indexesOf name
  := by
  change (Assoc.get? name (Assoc.erase dropped s.indexes)).getD [] = _
  rw [Assoc.get?_erase]
  split
  · rfl
  · rfl

theorem Registered.createIndex (h : Registered s.indexesOf) (i : IndexDefinition) :
  Registered (s.createIndex i).indexesOf
  := by
  constructor
  · intro name j hj
    rw [indexesOf_createIndex] at hj
    split at hj
    · next hname =>
        rcases List.mem_append.mp hj with hj | hj
        · exact h.collection_eq name j (List.mem_of_mem_filter hj)
        · rw [List.mem_singleton.mp hj, hname]
    · exact h.collection_eq name j hj
  · intro name
    rw [indexesOf_createIndex]
    split
    · have hothers := (h.nodup_names name).sublist
        (List.filter_sublist (p := fun j => j.name != i.name) |>.map IndexDefinition.name)
      rw [List.map_append, List.map_singleton]
      apply hothers.append (List.nodup_singleton _)
      simp [List.disjoint_singleton]
    · exact h.nodup_names name

theorem Registered.drop (h : Registered s.indexesOf) (dropped : String) :
  Registered (DocumentStore.exec (.drop dropped) s).2.indexesOf
  := by
  constructor
  · intro name i hi
    rw [indexesOf_drop] at hi
    split at hi
    · cases hi
    · exact h.collection_eq name i hi
  · intro name
    rw [indexesOf_drop]
    split
    · exact List.nodup_nil
    · exact h.nodup_names name

theorem Registered.exec (h : Registered s.indexesOf) (c : Command α) :
  Registered (DocumentStore.exec c s).2.indexesOf
  := by
  cases c.indexCases with
  | create i => exact h.createIndex i
  | drop name => exact h.drop name
  | other hnone => rwa [s.indexesOf_exec hnone]

theorem mem_indexesOf_createIndex_iff (s : MemoryStore) (i j : IndexDefinition) :
  j ∈ (s.createIndex i).indexesOf i.collection
    ↔ j = i ∨ j ∈ s.indexesOf i.collection ∧ i.name ≠ j.name
  := by
  rw [indexesOf_createIndex, if_pos rfl, List.mem_append, List.mem_singleton, List.mem_filter,
    bne_iff_ne, ne_comm, or_comm]

/-- A command leaves the indexes of all collections but one as they are. -/
theorem indexesOf_exec_of_ne (s : MemoryStore) {c : Command α} (hne : c.indexed? ≠ some name) :
  (DocumentStore.exec c s).2.indexesOf name = s.indexesOf name
  := by
  cases c.indexCases with
  | create i =>
      change (s.createIndex i).indexesOf name = _
      rw [indexesOf_createIndex, if_neg fun h => hne (congrArg some h.symm)]
  | drop dropped => rw [indexesOf_drop, if_neg fun h => hne (congrArg some h.symm)]
  | other hnone => rw [s.indexesOf_exec hnone]

instance : IndexingStore MemoryStore where
  indexes := indexesOf
  Separates _ := True
  Registers _ s := Registered s.indexesOf
  exec_listIndexes _ _ := rfl
  registers_exec _ _ h _ c _ := h.exec c
  collection_eq _ _ h name _ i hi := h.collection_eq name i hi
  nodup_names _ _ h name _ := h.nodup_names name
  indexes_createIndex _ s _ i _ j := s.mem_indexesOf_createIndex_iff i j
  indexes_drop s name := by rw [indexesOf_drop, if_pos rfl]
  indexes_exec_of_ne _ s _ _ _ _ _ hne := s.indexesOf_exec_of_ne hne

end MemoryStore

/-! ### Sorted stores -/

namespace SortedStore

variable {s : SortedStore} {names : String → Prop} {name : String} {i j : IndexDefinition}

/-- The indexes of a collection. -/
def indexesOf (s : SortedStore) (name : String) : List IndexDefinition :=
  (s.indexes.filter fun e => Text.beginsWith e.1 (indexKeyFront name)).map Prod.snd

/-- None of these collections goes on with a slash where the name of another one ends. -/
def Apart (names : String → Prop) : Prop :=
  ∀ a b, names a → names b → Text.beginsWith b (indexKeyFront a) = false

/-- A key begins as those of one collection at most do. -/
theorem Apart.beginsWith_of_ne (h : Apart names) {a b key : String} (ha : names a) (hb : names b)
    (hne : a ≠ b) (hkey : Text.beginsWith key (indexKeyFront a) = true) :
  Text.beginsWith key (indexKeyFront b) = false
  := by
  rw [Bool.eq_false_iff]
  intro hkey'
  obtain ⟨t, rfl⟩ := Text.beginsWith_iff.mp hkey
  obtain ⟨t', heq⟩ := Text.beginsWith_iff.mp hkey'
  rcases (Text.joined_eq_iff '/').mp heq with ⟨hab, -⟩ | ⟨u, hu, -⟩ | ⟨u, hu, -⟩
  · exact hne hab
  · exact Bool.false_ne_true ((h a b ha hb).symm.trans (Text.beginsWith_iff.mpr ⟨u, hu⟩))
  · exact Bool.false_ne_true ((h b a hb ha).symm.trans (Text.beginsWith_iff.mpr ⟨u, hu⟩))

theorem beginsWith_indexKey_self (i : IndexDefinition) :
  Text.beginsWith (indexKey i) (indexKeyFront i.collection) = true
  := Text.beginsWith_iff.mpr ⟨i.name, rfl⟩

/-- Indexes of one collection have the same key if they have the same name. -/
theorem indexKey_eq_iff (h : i.collection = j.collection) :
  indexKey i = indexKey j ↔ i.name = j.name
  := by rw [indexKey, indexKey, h, String.append_right_inj]

/-- Every index stands under its key, and belongs to one of these collections. -/
structure Registered (names : String → Prop) (es : Assoc IndexDefinition) : Prop where
  ascending : Assoc.Ascending es
  of_mem : ∀ e ∈ es, e.1 = indexKey e.2 ∧ names e.2.collection

theorem mem_indexesOf_iff :
  i ∈ s.indexesOf name
    ↔ ∃ e ∈ s.indexes, Text.beginsWith e.1 (indexKeyFront name) = true ∧ e.2 = i
  := by simp only [indexesOf, List.mem_map, List.mem_filter, and_assoc]

namespace Registered

theorem empty (names : String → Prop) :
  Registered names []
  := ⟨List.Pairwise.nil, fun _ he => absurd he List.not_mem_nil⟩

theorem mem_indexesOf_iff (h : Registered names s.indexes) (hapart : Apart names)
    (hname : names name) :
  i ∈ s.indexesOf name ↔ Assoc.get? (indexKey i) s.indexes = some i ∧ i.collection = name
  := by
  rw [h.ascending.get?_eq_some_iff, SortedStore.mem_indexesOf_iff]
  constructor
  · rintro ⟨e, he, hbegins, rfl⟩
    obtain ⟨hkey, hcollection⟩ := h.of_mem e he
    rw [hkey] at hbegins
    refine ⟨hkey ▸ he, ?_⟩
    by_contra hne
    rw [hapart.beginsWith_of_ne hcollection hname hne (beginsWith_indexKey_self e.2)] at hbegins
    cases hbegins
  · rintro ⟨he, rfl⟩
    exact ⟨_, he, beginsWith_indexKey_self i, rfl⟩

end Registered

theorem indexes_writing (s : SortedStore) (name : String)
    (write : Assoc Document → Except Error α × Assoc Document) :
  (s.writing name write).2.indexes = s.indexes
  := by
  rw [writing]
  split
  · rfl
  · rfl

theorem indexes_update (s : SortedStore) (name : String) (p : Predicate) (u : Update) :
  (s.update name p u).2.indexes = s.indexes
  := by
  simp only [update]
  split
  · split
    · rfl
    · rfl
  · rfl

/-- Only creating an index or dropping a collection changes the indexes. -/
theorem indexes_exec (s : SortedStore) {c : Command α} (hc : c.indexed? = none) :
  (DocumentStore.exec c s).2.indexes = s.indexes
  := by
  cases c with
  | insert name d => exact s.indexes_writing name _
  | replace name p d upsert => exact s.indexes_writing name _
  | update name p u => exact s.indexes_update name p u
  | createIndex i => cases hc
  | drop name => cases hc
  | _ => rfl

theorem indexes_createIndex (s : SortedStore) (hr : isReserved i.collection = false) :
  (s.createIndex i).2.indexes = Assoc.insert (indexKey i) i s.indexes
  := by rw [s.createIndex_eq hr]

namespace Registered

theorem createIndex (h : Registered names s.indexes) (hr : isReserved i.collection = false)
    (hi : names i.collection) :
  Registered names (s.createIndex i).2.indexes
  := by
  rw [s.indexes_createIndex hr]
  constructor
  · exact h.ascending.insert _ i
  · intro e he
    rcases Assoc.mem_insert he with rfl | he
    · exact ⟨rfl, hi⟩
    · exact h.of_mem e he

theorem drop (h : Registered names s.indexes) (name : String) :
  Registered names (s.drop name).indexes
  where
  ascending := h.ascending.filter _
  of_mem e he := h.of_mem e (List.mem_of_mem_filter he)

theorem exec (h : Registered names s.indexes) (hr : ∀ name, names name → isReserved name = false)
    {c : Command α} (hc : ∀ name ∈ c.indexed?, names name) :
  Registered names (DocumentStore.exec c s).2.indexes
  := by
  cases c.indexCases with
  | create i => exact h.createIndex (hr _ (hc _ rfl)) (hc _ rfl)
  | drop name => exact h.drop name
  | other hnone => rwa [s.indexes_exec hnone]

/-- An index that is created takes the place of the one with its name in its collection. -/
theorem mem_indexesOf_createIndex_iff (h : Registered names s.indexes)
    (hr : isReserved i.collection = false) (hapart : Apart names) (hi : names i.collection) :
  j ∈ (s.createIndex i).2.indexesOf i.collection
    ↔ j = i ∨ j ∈ s.indexesOf i.collection ∧ i.name ≠ j.name
  := by
  rw [(h.createIndex hr hi).mem_indexesOf_iff hapart hi, h.mem_indexesOf_iff hapart hi,
    s.indexes_createIndex hr, Assoc.get?_insert]
  split
  · next hkey =>
      constructor
      · rintro ⟨hij, -⟩
        exact Or.inl (Option.some.inj hij).symm
      · rintro (rfl | ⟨⟨-, hcollection⟩, hname⟩)
        · exact ⟨rfl, rfl⟩
        · exact absurd ((indexKey_eq_iff hcollection).mp hkey).symm hname
  · next hkey =>
      constructor
      · rintro ⟨hj, hcollection⟩
        refine Or.inr ⟨⟨hj, hcollection⟩, fun hname => hkey ?_⟩
        exact (indexKey_eq_iff hcollection).mpr hname.symm
      · rintro (rfl | ⟨hj, -⟩)
        · exact absurd rfl hkey
        · exact hj

/-- Indexes of one collection have different names, since they have different keys. -/
theorem nodup_names (h : Registered names s.indexes) (hapart : Apart names) (hname : names name) :
  ((s.indexesOf name).map IndexDefinition.name).Nodup
  := by
  rw [indexesOf, List.map_map, List.Nodup, List.pairwise_map]
  apply (h.ascending.filter _).imp_of_mem
  intro e f he hf hlt heq
  have hcollection : ∀ g ∈ s.indexes.filter fun e => Text.beginsWith e.1 (indexKeyFront name),
      g.2.collection = name := by
    intro g hg
    obtain ⟨hg, hbegins⟩ := List.mem_filter.mp hg
    exact ((h.mem_indexesOf_iff hapart hname).mp
      (SortedStore.mem_indexesOf_iff.mpr ⟨g, hg, hbegins, rfl⟩)).2
  rw [(h.of_mem e (List.mem_of_mem_filter he)).1, (h.of_mem f (List.mem_of_mem_filter hf)).1,
    (indexKey_eq_iff ((hcollection e he).trans (hcollection f hf).symm)).mpr heq] at hlt
  exact lt_irrefl _ hlt

end Registered

/-- Creating an index leaves those of a collection as they are that its key does not begin with. -/
theorem indexesOf_createIndex_of_not (s : SortedStore) (hr : isReserved i.collection = false)
    (h : Text.beginsWith (indexKey i) (indexKeyFront name) = false) :
  (s.createIndex i).2.indexesOf name = s.indexesOf name
  := by
  rw [indexesOf, s.indexes_createIndex hr,
    Assoc.filter_insert_of_neg (q := fun k => Text.beginsWith k (indexKeyFront name)) h, indexesOf]

theorem indexesOf_drop_self (s : SortedStore) (name : String) :
  (s.drop name).indexesOf name = []
  := by
  rw [indexesOf, drop, List.filter_filter, List.map_eq_nil_iff, List.filter_eq_nil_iff]
  simp

/-- Dropping a collection leaves the indexes of another one as they are. -/
theorem indexesOf_drop_of_apart (s : SortedStore) (h : Apart names) {dropped : String}
    (hdropped : names dropped) (hname : names name) (hne : dropped ≠ name) :
  (s.drop dropped).indexesOf name = s.indexesOf name
  := by
  rw [indexesOf, drop, List.filter_filter, indexesOf]
  congr 1
  apply List.filter_congr
  intro e _
  cases hbegins : Text.beginsWith e.1 (indexKeyFront name) with
  | false => rfl
  | true => rw [h.beginsWith_of_ne hname hdropped hne.symm hbegins, Bool.not_false, Bool.and_true]

/-- A command on other collections that are apart from a collection leaves its indexes as they
are. -/
theorem indexesOf_exec_of_ne (s : SortedStore) (hapart : Apart names)
    (hr : ∀ name, names name → isReserved name = false) {c : Command α}
    (hc : ∀ name ∈ c.indexed?, names name) (hname : names name) (hne : c.indexed? ≠ some name) :
  (DocumentStore.exec c s).2.indexesOf name = s.indexesOf name
  := by
  cases c.indexCases with
  | create i =>
      have hi := hc _ rfl
      apply s.indexesOf_createIndex_of_not (hr _ hi)
      apply hapart.beginsWith_of_ne hi hname (fun h => hne (congrArg some h))
      exact beginsWith_indexKey_self i
  | drop dropped =>
      exact s.indexesOf_drop_of_apart hapart (hc _ rfl) hname fun h => hne (congrArg some h)
  | other hnone => rw [indexesOf, s.indexes_exec hnone, indexesOf]

instance : IndexingStore SortedStore where
  indexes := indexesOf
  Separates names := (∀ name, names name → isReserved name = false) ∧ Apart names
  Registers names s := Registered names s.indexes
  exec_listIndexes _ _ := rfl
  registers_exec hn _ h _ _ hc := h.exec hn.1 hc
  collection_eq hn _ h _ hname _ hi := ((h.mem_indexesOf_iff hn.2 hname).mp hi).2
  nodup_names hn _ h _ hname := h.nodup_names hn.2 hname
  indexes_createIndex hn _ h _ hi _ := h.mem_indexesOf_createIndex_iff (hn.1 _ hi) hn.2 hi
  indexes_drop s name := s.indexesOf_drop_self name
  indexes_exec_of_ne hn s _ _ hc _ hname hne := s.indexesOf_exec_of_ne hn.2 hn.1 hc hname hne

end SortedStore

/-! ### Stores of locations -/

section Embedded

variable {names : String → Prop}

theorem IsolatesIndexes.memory {s : MemoryStore} (h : IsolatesIndexes s names) :
  IsolatesIndexes (EmbeddedStore.memory s) names
  where
  listed hcs name hname := by
    rw [Script.run_memory, EmbeddedStore.exec_memory]
    exact h.listed hcs hname
  unchanged hcs _ c hc name hname hne := by
    simp only [Script.run_memory, EmbeddedStore.exec_memory]
    exact h.unchanged hcs hc hname hne

theorem IsolatesIndexes.sorted {s : SortedStore} (h : IsolatesIndexes s names) :
  IsolatesIndexes (EmbeddedStore.sorted s) names
  where
  listed hcs name hname := by
    rw [Script.run_sorted, EmbeddedStore.exec_sorted]
    exact h.listed hcs hname
  unchanged hcs _ c hc name hname hne := by
    simp only [Script.run_sorted, EmbeddedStore.exec_sorted]
    exact h.unchanged hcs hc hname hne

/-- A sorted store lists an index in the wrong collection too, if the name of its own one goes on
with a slash where the name of the other ends. -/
theorem SortedStore.exec_listIndexes_of_beginsWith {name : String} {i : IndexDefinition}
    (hr : isReserved i.collection = false)
    (h : Text.beginsWith i.collection (indexKeyFront name) = true) :
  (DocumentStore.exec (.listIndexes name)
      (Script.run [⟨_, .createIndex i⟩] (EmbeddedStore.sorted {}))).1
    = .ok [i]
  := by
  have hkey : Text.beginsWith (indexKey i) (indexKeyFront name) = true :=
    Text.beginsWith_append (Text.beginsWith_append h "/") i.name
  change Except.ok (SortedStore.indexesOf (SortedStore.createIndex {} i).2 name) = _
  rw [indexesOf, indexes_createIndex _ hr]
  simp [Assoc.insert, hkey]

namespace IsolatesIndexes

variable (h : IsolatesIndexes (EmbeddedStore.sorted {}) names)
  (hr : ∀ name, names name → SortedStore.isReserved name = false)

include h hr

theorem collection_eq_of_beginsWith {name : String} {i : IndexDefinition} (hname : names name)
    (hi : names i.collection)
    (hbegins : Text.beginsWith i.collection (SortedStore.indexKeyFront name) = true) :
  i.collection = name
  := by
  have hcs : Script.IndexesOnly [⟨_, .createIndex i⟩] names := by
    simpa [Script.IndexesOnly, Command.indexed?] using hi
  obtain ⟨is, his, -, hmem⟩ := h.listed hcs hname
  have hlist := SortedStore.exec_listIndexes_of_beginsWith (hr _ hi) hbegins
  obtain rfl := Except.ok.inj (hlist.symm.trans his)
  exact ((hmem i).mp List.mem_cons_self).1

/-- If a sorted store keeps the indexes of collections apart, then none of them goes on with a
slash where the name of another one ends. -/
theorem apart :
  SortedStore.Apart names
  := by
  intro a b ha hb
  rw [Bool.eq_false_iff]
  intro hbegins
  have heq : b = a := h.collection_eq_of_beginsWith hr (i := ⟨"", b, [], false⟩) ha hb hbegins
  obtain ⟨u, hu⟩ := Text.beginsWith_iff.mp hbegins
  have hlength := congrArg String.length hu
  rw [heq, SortedStore.indexKeyFront, String.length_append, String.length_append] at hlength
  have hslash : "/".length = 1 := rfl
  omega

end IsolatesIndexes

end Embedded

/-- The store of a location keeps the indexes of collections apart, none of which is reserved, if
it is in memory, and otherwise exactly if none of them goes on with a slash where the name of
another one ends. -/
theorem Location.isolatesIndexes_iff (l : Location) {names : String → Prop}
    (hr : ∀ name, names name → SortedStore.isReserved name = false) :
  IsolatesIndexes l.emptyStore names ↔ (∃ key, l = .memory key) ∨ SortedStore.Apart names
  := by
  cases l with
  | memory key =>
      have hmemory : IsolatesIndexes ({} : MemoryStore) names :=
        IndexingStore.isolatesIndexes trivial MemoryStore.Registered.empty fun _ => rfl
      exact iff_of_true hmemory.memory (Or.inl ⟨key, rfl⟩)
  | directory absolute parts =>
      constructor
      · intro h
        exact Or.inr (h.apart hr)
      · rintro (⟨key, hkey⟩ | hapart)
        · cases hkey
        · have hseparates : IndexingStore.Separates SortedStore names := ⟨hr, hapart⟩
          have hsorted : IsolatesIndexes ({} : SortedStore) names :=
            IndexingStore.isolatesIndexes hseparates (SortedStore.Registered.empty names)
              fun _ => rfl
          exact hsorted.sorted

/-- The collections `cards` and `users` of a directory keep their indexes apart. -/
theorem Location.isolatesIndexes_cards_users :
  IsolatesIndexes (Location.directory true ["data"]).emptyStore
    fun name => name = "cards" ∨ name = "users"
  := by
  have hr : ∀ name, name = "cards" ∨ name = "users" → SortedStore.isReserved name = false := by
    rintro name (rfl | rfl)
    · decide
    · decide
  apply (Location.isolatesIndexes_iff _ hr).mpr (Or.inr _)
  rintro a b (rfl | rfl) (rfl | rfl)
  all_goals decide

/-- The collections `cards` and `cards/old` of a directory do not: an index that is created in the
second is listed in the first. -/
theorem Location.not_isolatesIndexes_slash :
  ¬ IsolatesIndexes (Location.directory true ["data"]).emptyStore
    fun name => SortedStore.isReserved name = false
  := by
  intro h
  have hcards : SortedStore.isReserved "cards" = false := by decide
  have hold : SortedStore.isReserved "cards/old" = false := by decide
  have hbegins : Text.beginsWith "cards/old" (SortedStore.indexKeyFront "cards") = true := by decide
  have heq : "cards/old" = "cards" :=
    IsolatesIndexes.collection_eq_of_beginsWith h (fun _ hname => hname)
      (i := ⟨"by_name", "cards/old", [⟨"Name", .ascending⟩], false⟩) hcards hold hbegins
  exact absurd heq (by decide)

end AuditedStore
