import AuditedStore.Proofs.Store.Runs
import AuditedStore.Proofs.Text

/-!
# Shared databases

A process opens repositories, performs commands through them and closes them again.  The store of
a location does what its commands do, through whichever repository they come, and nothing else.
Where a database in memory lives is told by the name of the connection and that of the database,
joined by a slash, so that two repositories share their data exactly if these give the same text.
-/

namespace AuditedStore

/-! ### Processes -/

/-- What a process does with repositories, which it has under names of its own. -/
inductive Action where
  | connect (handle : String) (settings : RepositorySettings)
  | disconnect (handle : String)
  | perform (handle : String) (c : Sigma Command)

/-- The stores that exist and the repositories that are open. -/
structure Process where
  registry : Registry := []
  opened : Assoc Repository := []

namespace Process

/-- The open repository with a name. -/
def repository? (p : Process) (handle : String) : Option Repository := Assoc.get? handle p.opened

/-- The answer to a command through an open repository. -/
def answer? (p : Process) (handle : String) (c : Command α) : Option (Except Error α) :=
  (p.repository? handle).map fun r => (p.registry.run r.location (AuditedStore.perform c)).1

/-- What an action does; a database that cannot be opened is none. -/
def step (p : Process) : Action → Process
  | .connect handle settings =>
    match Repository.ofSettings settings with
    | .ok r => { p with opened := Assoc.insert handle r p.opened }
    | .error _ => p
  | .disconnect handle => { p with opened := Assoc.erase handle p.opened }
  | .perform handle c =>
    match p.repository? handle with
    | some r => { p with registry := (p.registry.run r.location (AuditedStore.perform c.2)).2 }
    | none => p

/-- The state after actions in a row. -/
def run (p : Process) (acts : List Action) : Process := acts.foldl step p

/-- The command that an action performs on the store of a location. -/
def commandAt? (p : Process) (l : Location) : Action → Option (Sigma Command)
  | .perform handle c =>
    if (p.repository? handle).map Repository.location = some l then some c else none
  | _ => none

/-- The commands that actions perform on the store of a location, in turn. -/
def commandsAt (p : Process) (l : Location) : List Action → Script
  | [] => []
  | a :: acts => (p.commandAt? l a).toList ++ (p.step a).commandsAt l acts

end Process

/-! ### The store of a location -/

namespace Registry

theorem store_setStore (r : Registry) (l m : Location) (s : EmbeddedStore) :
  (r.setStore l s).store m = if m = l then s else r.store m
  := by
  rw [store, setStore, List.find?_cons]
  by_cases h : m = l
  · simp [h]
  · have hne : ¬ l = m := fun heq => h heq.symm
    rw [if_neg h, store, List.find?_filter]
    simp only [hne, decide_false]
    congr 3
    funext e
    by_cases he : e.1 = m
    · simp [he, h]
    · simp [he]

/-- A command is run in the store of its location, and no other store changes. -/
theorem store_run_perform (r : Registry) (l m : Location) (c : Command α) :
  (r.run l (perform c)).2.store m
    = if m = l then (DocumentStore.exec c (r.store l)).2 else r.store m
  := r.store_setStore l m _

end Registry

namespace Process

variable {p : Process} {handle : String} {l : Location} {acts : List Action}

theorem run_append (p : Process) (acts acts' : List Action) :
  p.run (acts ++ acts') = (p.run acts).run acts'
  := List.foldl_append

/-- The store of a location does the command that an action performs on it. -/
theorem store_step (p : Process) (a : Action) (l : Location) :
  (p.step a).registry.store l = Script.run (p.commandAt? l a).toList (p.registry.store l)
  := by
  cases a with
  | connect handle settings =>
      rw [step]
      split
      · rfl
      · rfl
  | disconnect handle => rfl
  | perform handle c =>
      rw [step, commandAt?]
      split
      · next r hr =>
          rw [hr, Option.map_some, Registry.store_run_perform]
          by_cases h : r.location = l
          · rw [if_pos h.symm, if_pos (congrArg some h), h]
            rfl
          · rw [if_neg (Ne.symm h), if_neg fun heq => h (Option.some.inj heq)]
            rfl
      · next hr =>
          rw [hr]
          rfl

/-- The store of a location does the commands that are performed on it. -/
theorem store_run (p : Process) (acts : List Action) (l : Location) :
  (p.run acts).registry.store l = (p.commandsAt l acts).run (p.registry.store l)
  := by
  induction acts generalizing p with
  | nil => rfl
  | cons a acts ih =>
      change ((p.step a).run acts).registry.store l = _
      rw [ih, store_step, commandsAt, Script.run_append]

theorem answer?_eq {r : Repository} (hr : p.repository? handle = some r) (c : Command α) :
  p.answer? handle c = some (DocumentStore.exec c (p.registry.store r.location)).1
  := by
  rw [answer?, hr]
  rfl

theorem step_perform {r : Repository} (hr : p.repository? handle = some r) (c : Sigma Command) :
  p.step (.perform handle c)
    = { p with registry := (p.registry.run r.location (AuditedStore.perform c.2)).2 }
  := by rw [step, hr]

end Process

/-! ### Open repositories -/

/-- A repository is what its settings open. -/
def Repository.IsOpened (r : Repository) : Prop :=
  ∃ connection, Connection.read r.settings.connectionString = .ok connection
    ∧ r.location = connection.location r.settings.databaseName

theorem Repository.isOpened_of_ofSettings {settings : RepositorySettings} {r : Repository}
    (h : Repository.ofSettings settings = .ok r) :
  r.IsOpened
  := by
  rw [Repository.ofSettings] at h
  cases hread : Connection.read settings.connectionString with
  | error e =>
      rw [hread] at h
      cases h
  | ok connection =>
      rw [hread] at h
      obtain rfl := Except.ok.inj h
      exact ⟨connection, hread, rfl⟩

namespace Process

variable {p : Process} {handle handle' name database name' database' : String}

/-- Every open repository is what its settings open. -/
def Opened (p : Process) : Prop :=
  ∀ handle r, p.repository? handle = some r → r.IsOpened

theorem Opened.empty :
  Opened {}
  := fun _ _ hr => nomatch hr

theorem Opened.step (h : p.Opened) (a : Action) :
  (p.step a).Opened
  := by
  cases a with
  | connect other settings =>
      rw [Process.step]
      split
      · next new hnew =>
          intro handle r hr
          change Assoc.get? handle (Assoc.insert other new p.opened) = some r at hr
          rw [Assoc.get?_insert] at hr
          split at hr
          · obtain rfl := Option.some.inj hr
            exact Repository.isOpened_of_ofSettings hnew
          · exact h handle r hr
      · exact h
  | disconnect other =>
      intro handle r hr
      change Assoc.get? handle (Assoc.erase other p.opened) = some r at hr
      rw [Assoc.get?_erase] at hr
      split at hr
      · cases hr
      · exact h handle r hr
  | perform other c =>
      rw [Process.step]
      split
      · exact h
      · exact h

theorem Opened.run (h : p.Opened) (acts : List Action) :
  (p.run acts).Opened
  := by
  induction acts generalizing p with
  | nil => exact h
  | cons a acts ih => exact ih (h.step a)

/-- A database in memory is open under a handle: the connection has the first name, and the
database the second. -/
def HasOpen (p : Process) (handle name database : String) : Prop :=
  ∃ r, p.repository? handle = some r
    ∧ Connection.read r.settings.connectionString = .ok (.memory name)
    ∧ r.settings.databaseName = database

/-- Where a database in memory lives. -/
theorem Opened.exists_location_eq (h : p.Opened) (hopen : p.HasOpen handle name database) :
  ∃ r, p.repository? handle = some r ∧ r.location = .memory (name ++ "/" ++ database)
  := by
  obtain ⟨r, hr, hread, rfl⟩ := hopen
  obtain ⟨connection, hread', hlocation⟩ := h handle r hr
  obtain rfl := Except.ok.inj (hread.symm.trans hread')
  exact ⟨r, hr, hlocation⟩

end Process

/-! ### Sharing -/

/-- Two pairs of names give the same text when they are joined by a slash: the pairs are equal, or
what is between two slashes belongs to the first name in one and to the second name in the other. -/
def Merged (name database name' database' : String) : Prop :=
  name = name' ∧ database = database'
  ∨ (∃ x, name' = name ++ "/" ++ x ∧ database = x ++ "/" ++ database')
  ∨ ∃ x, name = name' ++ "/" ++ x ∧ database' = x ++ "/" ++ database

theorem merged_iff {name database name' database' : String} :
  Merged name database name' database' ↔ name ++ "/" ++ database = name' ++ "/" ++ database'
  := (Text.joined_eq_iff '/').symm

/-- Names of databases without a slash merge only if both pairs are equal. -/
theorem merged_iff_of_notMem {name database name' database' : String}
    (h : '/' ∉ database.toList) (h' : '/' ∉ database'.toList) :
  Merged name database name' database' ↔ name = name' ∧ database = database'
  := by
  have hslash : ∀ {s t u : String}, '/' ∉ s.toList → s ≠ t ++ "/" ++ u := by
    rintro _ t u hs rfl
    simp at hs
  constructor
  · rintro (heq | ⟨x, -, hx⟩ | ⟨x, -, hx⟩)
    · exact heq
    · exact absurd hx (hslash h)
    · exact absurd hx (hslash h')
  · exact Or.inl

/-- Something that a command does to a store in memory can be seen. -/
theorem MemoryStore.exists_answer_ne (s : MemoryStore) :
  ∃ c q : Sigma Command,
    (DocumentStore.exec q.2 (DocumentStore.exec c.2 s).2).1 ≠ (DocumentStore.exec q.2 s).1
  := by
  by_contra hsame
  push Not at hsame
  -- A collection is there after an index is created in it, and not after it is dropped.
  have hcreate := hsame ⟨_, .createIndex ⟨"by_name", "cards", [], false⟩⟩
    ⟨_, .listCollections (some "cards")⟩
  have hdrop := hsame ⟨_, .drop "cards"⟩ ⟨_, .listCollections (some "cards")⟩
  have heq : (Assoc.keys (Assoc.insert "cards" (s.collection "cards") s.collections)).filter
        (isWanted (some "cards"))
      = (Assoc.keys (Assoc.erase "cards" s.collections)).filter (isWanted (some "cards")) :=
    Except.ok.inj (hcreate.trans hdrop.symm)
  have hkey : "cards" ∈ Assoc.keys (Assoc.insert "cards" (s.collection "cards") s.collections) :=
    List.mem_map_of_mem (Assoc.mem_of_get? (Assoc.get?_insert_self _ _ _))
  have hlisted := List.mem_filter.mpr ⟨hkey, (rfl : isWanted (some "cards") "cards" = true)⟩
  rw [heq, Assoc.keys_erase] at hlisted
  simp at hlisted

namespace Process

variable {p : Process} {handle handle' name database name' database' : String}

/-- Whatever is done through the first repository, it is as if done through the second one. -/
def Shares (p : Process) (handle handle' : String) : Prop :=
  ∀ c q : Sigma Command,
    (p.step (.perform handle c)).answer? handle' q.2
      = (p.step (.perform handle' c)).answer? handle' q.2

/-- Whatever is done through the first repository, the second one does not see it. -/
def Ignores (p : Process) (handle handle' : String) : Prop :=
  ∀ c q : Sigma Command,
    (p.step (.perform handle c)).answer? handle' q.2 = p.answer? handle' q.2

/-- What a repository answers after a command through another one. -/
theorem answer?_step_perform {r r' : Repository} (hr : p.repository? handle = some r)
    (hr' : p.repository? handle' = some r') (c q : Sigma Command) :
  (p.step (.perform handle c)).answer? handle' q.2
    = some (DocumentStore.exec q.2
        (if r'.location = r.location
          then (DocumentStore.exec c.2 (p.registry.store r'.location)).2
          else p.registry.store r'.location)).1
  := by
  have hsame : (p.step (.perform handle c)).repository? handle' = some r' := by
    rw [step_perform hr]
    exact hr'
  rw [answer?_eq hsame, step_perform hr, Registry.store_run_perform]
  split
  · next h => rw [h]
  · rfl

theorem shares_of_location_eq {r r' : Repository} (hr : p.repository? handle = some r)
    (hr' : p.repository? handle' = some r') (h : r.location = r'.location) :
  p.Shares handle handle'
  := by
  intro c q
  rw [answer?_step_perform hr hr', answer?_step_perform hr' hr', if_pos h.symm, if_pos rfl]

theorem ignores_of_location_ne {r r' : Repository} (hr : p.repository? handle = some r)
    (hr' : p.repository? handle' = some r') (h : r.location ≠ r'.location) :
  p.Ignores handle handle'
  := by
  intro c q
  rw [answer?_step_perform hr hr', if_neg h.symm, answer?_eq hr']

/-- A repository that shares a store in memory does not ignore it. -/
theorem not_ignores_of_shares {r' : Repository} {s : MemoryStore}
    (hr' : p.repository? handle' = some r') (hs : p.registry.store r'.location = .memory s)
    (hshares : p.Shares handle handle') :
  ¬ p.Ignores handle handle'
  := by
  intro hignores
  obtain ⟨c, q, hne⟩ := s.exists_answer_ne
  have hanswer := (hshares c q).symm.trans (hignores c q)
  rw [answer?_step_perform hr' hr', if_pos rfl, answer?_eq hr', hs, EmbeddedStore.exec_memory,
    EmbeddedStore.exec_memory, EmbeddedStore.exec_memory] at hanswer
  exact hne (Option.some.inj hanswer)

/-- Two databases in memory share everything if their names merge, and otherwise ignore each
other. -/
theorem shares_iff_and_ignores_iff (h : p.Opened) {s : MemoryStore}
    (hopen : p.HasOpen handle name database) (hopen' : p.HasOpen handle' name' database')
    (hs : p.registry.store (.memory (name' ++ "/" ++ database')) = .memory s) :
  (p.Shares handle handle' ↔ Merged name database name' database')
    ∧ (p.Ignores handle handle' ↔ ¬ Merged name database name' database')
  := by
  obtain ⟨r, hr, hlocation⟩ := h.exists_location_eq hopen
  obtain ⟨r', hr', hlocation'⟩ := h.exists_location_eq hopen'
  rw [← hlocation'] at hs
  have hiff : Merged name database name' database' ↔ r.location = r'.location := by
    rw [merged_iff, hlocation, hlocation', Location.memory.injEq]
  have hshares := shares_of_location_eq hr hr'
  have hignores := ignores_of_location_ne hr hr'
  have hnot : p.Shares handle handle' → ¬ p.Ignores handle handle' := not_ignores_of_shares hr' hs
  rw [hiff]
  constructor
  · constructor
    · intro hsharing
      by_contra hne
      exact hnot hsharing (hignores hne)
    · exact hshares
  · constructor
    · intro hignoring heq
      exact hnot (hshares heq) hignoring
    · exact hignores

/-- A database in memory answers as a store of its own does that has run the commands of all
repositories whose names merge with its names, open or closed since.  Another such database shares
it exactly if the names merge, and otherwise ignores it. -/
theorem answers_of_hasOpen (acts : List Action)
    (hopen : (run {} acts).HasOpen handle name database)
    (hopen' : (run {} acts).HasOpen handle' name' database') :
  (∀ q : Sigma Command, (run {} acts).answer? handle' q.2
      = some (DocumentStore.exec q.2
          (Script.run (commandsAt {} (.memory (name' ++ "/" ++ database')) acts)
            ({} : MemoryStore))).1)
    ∧ ((run {} acts).Shares handle handle' ↔ Merged name database name' database')
    ∧ ((run {} acts).Ignores handle handle' ↔ ¬ Merged name database name' database')
  := by
  have hopened := Opened.empty.run acts
  have hs := store_run {} acts (.memory (name' ++ "/" ++ database'))
  change _ = Script.run _ (EmbeddedStore.memory {}) at hs
  rw [Script.run_memory] at hs
  refine ⟨fun q => ?_, shares_iff_and_ignores_iff hopened hopen hopen' hs⟩
  obtain ⟨r', hr', hlocation'⟩ := hopened.exists_location_eq hopen'
  rw [answer?_eq hr', hlocation', hs, EmbeddedStore.exec_memory]

/-- What is inserted through a repository is there after it is closed and its database is opened
again, and is not seen in a database of another connection. -/
theorem answers_reopened :
  let acts : List Action := [
    .connect "first" { connectionString := "memory://main", databaseName := "bank" },
    .perform "first" ⟨_, .insert "cards" ⟨"a", []⟩⟩,
    .disconnect "first",
    .connect "again" { connectionString := "MEMORY://main", databaseName := "bank" },
    .connect "other" { connectionString := "memory://spare", databaseName := "bank" }]
  let p := run {} acts
  p.HasOpen "again" "main" "bank" ∧ p.HasOpen "other" "spare" "bank"
    ∧ p.answer? "again" (.count "cards" .all) = some (.ok 1)
    ∧ p.answer? "other" (.count "cards" .all) = some (.ok 0)
    ∧ p.Ignores "other" "again"
  := by
  intro acts p
  have hagain : p.HasOpen "again" "main" "bank" := ⟨_, rfl, rfl, rfl⟩
  have hother : p.HasOpen "other" "spare" "bank" := ⟨_, rfl, rfl, rfl⟩
  obtain ⟨hcount, -, hignores⟩ := answers_of_hasOpen acts hother hagain
  obtain ⟨hcount', -, -⟩ := answers_of_hasOpen acts hagain hother
  have hmerged : ¬ Merged "spare" "bank" "main" "bank" := by
    rw [merged_iff_of_notMem (by decide) (by decide)]
    decide
  refine ⟨hagain, hother, ?_, ?_, hignores.mpr hmerged⟩
  · apply (hcount ⟨_, .count "cards" .all⟩).trans
    change some (DocumentStore.exec (.count "cards" .all)
      (MemoryStore.insert {} "cards" ⟨"a", []⟩).2).1 = _
    simp [DocumentStore.exec, MemoryStore.insert, MemoryStore.collection, MemoryStore.setCollection,
      Collection.hasId, Collection.push, Collection.candidates, Predicate.pinnedId?,
      Predicate.holds, Assoc.get?]
  · apply (hcount' ⟨_, .count "cards" .all⟩).trans
    rfl

/-- The database `x/y` of the connection `db` is the database `y` of the connection `db/x`. -/
theorem not_ignores_slash :
  let p := run {} [
    .connect "first" { connectionString := "memory://db", databaseName := "x/y" },
    .connect "second" { connectionString := "memory://db/x", databaseName := "y" }]
  p.HasOpen "first" "db" "x/y" ∧ p.HasOpen "second" "db/x" "y" ∧ ¬ p.Ignores "first" "second"
  := by
  intro p
  have hfirst : p.HasOpen "first" "db" "x/y" := ⟨_, rfl, rfl, rfl⟩
  have hsecond : p.HasOpen "second" "db/x" "y" := ⟨_, rfl, rfl, rfl⟩
  have hmerged : Merged "db" "x/y" "db/x" "y" := Or.inr (Or.inl ⟨"x", by decide, by decide⟩)
  have hs : p.registry.store (.memory ("db/x" ++ "/" ++ "y")) = .memory {} := rfl
  have hignores := (shares_iff_and_ignores_iff (Opened.empty.run _) hfirst hsecond hs).2
  exact ⟨hfirst, hsecond, fun h => hignores.mp h hmerged⟩

end Process

end AuditedStore
