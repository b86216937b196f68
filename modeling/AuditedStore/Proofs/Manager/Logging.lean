import AuditedStore.Proofs.Manager.Simulation
import AuditedStore.Proofs.Store.Runs
import AuditedStore.Repository

/-!
# Logging

A logged store answers as the store inside does and leaves it in the same state, and its log has
one note for every call, with the collection of the call and its filter as a JSON document.  What
programs of managers do therefore does not depend on whether their repository is logged.
-/

namespace AuditedStore

variable {σ α γ : Type}

/-! ### Calls -/

/-- The collection that a command names. -/
def Command.collection? : Command α → Option String
  | find name _ _ => some name
  | count name _ => some name
  | insert name _ => some name
  | replace name _ _ _ => some name
  | update name _ _ => some name
  | drop name => some name
  | listCollections _ => none
  | createIndex i => some i.collection
  | listIndexes name => some name

/-- The filter of a command. -/
def Command.filter? : Command α → Option Predicate
  | find _ filter _ => some filter
  | count _ filter => some filter
  | replace _ filter _ _ => some filter
  | update _ filter _ => some filter
  | _ => none

/-- The calls that a store understands: its commands, and the lookup of one document. -/
inductive StoreCall : Type → Type 1 where
  | command {α : Type} (c : Command α) : StoreCall α
  | findOne (collection : String) (filter : Predicate) (options : FindOptions) :
      StoreCall (Option Document)

namespace StoreCall

/-- The program of a call. -/
def program [DocumentStore σ] : StoreCall α → StoreM σ α
  | command c => perform c
  | findOne collection filter options => AuditedStore.findOne collection filter options

@[inherit_doc Command.collection?]
def collection? : StoreCall α → Option String
  | command c => c.collection?
  | findOne collection _ _ => some collection

@[inherit_doc Command.filter?]
def filter? : StoreCall α → Option Predicate
  | command c => c.filter?
  | findOne _ filter _ => some filter

/-- The note of a call; the lookup of one document is a search that is limited to one. -/
def entry : StoreCall α → LogEntry
  | command c => .ofCommand c
  | findOne collection filter options =>
    .ofCommand (.find collection filter { options with limit := some 1 })

/-- The answers to calls in a row, and the state after them. -/
def runAll [DocumentStore σ] : List (Sigma StoreCall) → σ → List (Sigma (Except Error)) × σ
  | [], s => ([], s)
  | c :: cs, s =>
    let called := c.2.program.exec s
    let rest := runAll cs called.2
    (⟨c.1, called.1⟩ :: rest.1, rest.2)

end StoreCall

/-! ### The log -/

namespace LogEntry

/-- The collection in a note. -/
def collection? : LogEntry → Option String
  | find name _ _ _ _ => some name
  | count name _ => some name
  | insert name _ => some name
  | replace name _ _ => some name
  | update name _ _ => some name
  | drop name => some name
  | listCollections _ => none
  | createIndex name _ _ => some name
  | listIndexes name => some name

/-- The filter in a note. -/
def filter? : LogEntry → Option Json.Tree
  | find _ filter _ _ _ => some filter
  | count _ filter => some filter
  | replace _ filter _ => some filter
  | update _ filter _ => some filter
  | _ => none

/-- A note has the collection of its command, and its filter as a JSON document. -/
theorem ofCommand_faithful (c : Command α) :
  (ofCommand c).collection? = c.collection?
    ∧ (ofCommand c).filter? = c.filter?.map Predicate.toTree
  := by
  cases c with
  | find name filter options => exact ⟨rfl, rfl⟩
  | count name filter => exact ⟨rfl, rfl⟩
  | insert name d => exact ⟨rfl, rfl⟩
  | replace name filter d upsert => exact ⟨rfl, rfl⟩
  | update name filter u => exact ⟨rfl, rfl⟩
  | drop name => exact ⟨rfl, rfl⟩
  | listCollections wanted => exact ⟨rfl, rfl⟩
  | createIndex i => exact ⟨rfl, rfl⟩
  | listIndexes name => exact ⟨rfl, rfl⟩

end LogEntry

variable [DocumentStore σ]

namespace Logged

/-- A command is passed on, and noted whether it fails or not. -/
theorem exec_eq (c : Command α) (s : σ) (log : List LogEntry) :
  DocumentStore.exec c (⟨s, log⟩ : Logged σ)
    = ((DocumentStore.exec c s).1, ⟨(DocumentStore.exec c s).2, log ++ [.ofCommand c]⟩)
  := rfl

/-- A call does on the store inside what it does without a log, and is noted once. -/
theorem exec_program (c : StoreCall α) (s : σ) (log : List LogEntry) :
  c.program.exec (⟨s, log⟩ : Logged σ)
    = ((c.program.exec s).1, ⟨(c.program.exec s).2, log ++ [c.entry]⟩)
  := by
  cases c with
  | command c => exact exec_eq c s log
  | findOne collection filter options =>
      rw [StoreCall.program, StoreCall.program, findOne, findOne, StoreM.exec_bind,
        StoreM.exec_bind, StoreM.exec_perform, StoreM.exec_perform, exec_eq]
      cases (DocumentStore.exec (.find collection filter { options with limit := some 1 }) s).1 with
      | error e => rfl
      | ok docs => rfl

/-- Calls in a row do on the store inside what they do without a log, and each is noted once. -/
theorem runAll_eq (calls : List (Sigma StoreCall)) (s : σ) (log : List LogEntry) :
  StoreCall.runAll calls (⟨s, log⟩ : Logged σ)
    = ((StoreCall.runAll calls s).1,
        ⟨(StoreCall.runAll calls s).2, log ++ calls.map fun c => c.2.entry⟩)
  := by
  induction calls generalizing s log with
  | nil => rw [List.map_nil, List.append_nil]; rfl
  | cons c calls ih =>
      rw [StoreCall.runAll, exec_program, StoreCall.runAll]
      dsimp only
      rw [ih, List.map_cons, List.append_assoc, List.singleton_append]

end Logged

/-! ### Logged repositories -/

namespace Repository

/-- After some commands a store is what they leave, and another one is that with their notes. -/
def Notes (s : σ) (x y : LoggableStore σ) : Prop :=
  ∃ cs : Script, x = .plain (cs.run s)
    ∧ y = .logged ⟨cs.run s, cs.map fun c => .ofCommand c.2⟩

/-- Whether they are noted or not, commands are answered alike. -/
theorem simulates_notes (s : σ) :
  Simulates (Notes s)
  := by
  rintro α c _ _ ⟨cs, rfl, rfl⟩
  refine ⟨rfl, cs ++ [⟨α, c⟩], ?_, ?_⟩
  · rw [Script.run_concat]
    rfl
  · rw [Script.run_concat, List.map_append]
    rfl

/-- Runs a program with the managers of a repository over a store that exists. -/
def runProgram (settings : RepositorySettings) (p : ManagerProgram γ) (s : σ)
    (g : ObjectId.Generator) (now : Instant) : γ × Context (LoggableStore σ) :=
  p.run settings ⟨withStore settings s, g, now⟩

/-- A program runs alike with a log and without one. -/
theorem runProgram_alike (settings : RepositorySettings) (p : ManagerProgram γ) (s : σ)
    (g : ObjectId.Generator) (now : Instant) :
  (runProgram { settings with log := false } p s g now).1
      = (runProgram { settings with log := true } p s g now).1
    ∧ Context.Alike (Notes s) (runProgram { settings with log := false } p s g now).2
        (runProgram { settings with log := true } p s g now).2
  := by
  have hstart : Context.Alike (Notes s)
      ⟨withStore { settings with log := false } s, g, now⟩
      ⟨withStore { settings with log := true } s, g, now⟩ :=
    ⟨⟨[], rfl, rfl⟩, rfl, rfl⟩
  have hmake : ∀ (α : Type) [Record α] (m : ManagerSettings),
      Manager.make α { settings with log := false } m
        = Manager.make α { settings with log := true } m :=
    fun _ _ _ => rfl
  exact p.run_alike (simulates_notes s) hmake hstart

/-- A logged store answers to calls in a row as the store inside does, leaves it in the same state,
and notes each call once, with its collection and its filter.  And a program of managers has the
same result with a log and without one, with the same commands to the store, which the log notes. -/
theorem runAll_logged_and_runProgram_log (s : σ) :
  (∀ (calls : List (Sigma StoreCall)) (log : List LogEntry),
      StoreCall.runAll calls (⟨s, log⟩ : Logged σ)
        = ((StoreCall.runAll calls s).1,
            ⟨(StoreCall.runAll calls s).2, log ++ calls.map fun c => c.2.entry⟩))
    ∧ (∀ {α : Type} (c : StoreCall α), c.entry.collection? = c.collection?
        ∧ c.entry.filter? = c.filter?.map Predicate.toTree)
    ∧ ∀ {γ : Type} (p : ManagerProgram γ) (settings : RepositorySettings)
        (g : ObjectId.Generator) (now : Instant),
      ∃ (result : γ) (cs : Script) (g' : ObjectId.Generator) (now' : Instant),
        runProgram { settings with log := false } p s g now
            = (result, ⟨.plain (cs.run s), g', now'⟩)
          ∧ runProgram { settings with log := true } p s g now
            = (result, ⟨.logged ⟨cs.run s, cs.map fun c => .ofCommand c.2⟩, g', now'⟩)
  := by
  refine ⟨fun calls log => Logged.runAll_eq calls s log, ?_, ?_⟩
  · intro α c
    cases c with
    | command c => exact LogEntry.ofCommand_faithful c
    | findOne collection filter options => exact ⟨rfl, rfl⟩
  · intro γ p settings g now
    have halike := runProgram_alike settings p s g now
    rcases hplain : runProgram { settings with log := false } p s g now with ⟨result, x, g', now'⟩
    rcases hlogged : runProgram { settings with log := true } p s g now with ⟨_, y, _, _⟩
    rw [hplain, hlogged] at halike
    obtain ⟨rfl, ⟨cs, rfl, rfl⟩, rfl, rfl⟩ := halike
    exact ⟨result, cs, g', now', rfl, rfl⟩

end Repository

end AuditedStore
