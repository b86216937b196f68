import AuditedStore.Manager
import AuditedStore.Proofs.Store.Simulation

/-!
# Managers over stores that answer alike

Managers know their store by its commands alone.  So if two stores answer every command alike,
then every method of a manager answers alike over them, with the same generator of ids and the
same clock, and so does every program that calls methods and goes on as they answer.
-/

namespace AuditedStore

variable {σ τ : Type} {R : σ → τ → Prop} {α β γ : Type}

/-! ### Contexts -/

/-- The stores are related, and all else is the same. -/
structure Context.Alike (R : σ → τ → Prop) (c : Context σ) (d : Context τ) : Prop where
  store : R c.store d.store
  generator : c.generator = d.generator
  now : c.now = d.now

namespace ManagerM

theorem alike_onStore {p : StoreM σ α} {q : StoreM τ α} (h : AnswerAlike R p q) :
  AnswerAlike (Context.Alike R) (onStore p) (onStore q)
  := by
  intro c d hcd
  obtain ⟨hanswer, hstores⟩ := h c.store d.store hcd.store
  exact ⟨hanswer, hstores, hcd.generator, hcd.now⟩

theorem alike_freshId (R : σ → τ → Prop) :
  AnswerAlike (Context.Alike R) freshId freshId
  := by
  rintro ⟨s, g, now⟩ ⟨t, _, _⟩ ⟨hst, rfl, rfl⟩
  exact ⟨rfl, hst, rfl, rfl⟩

/-- Programs that read their contexts answer alike if what follows does in alike contexts. -/
theorem alike_get_bind {f : Context σ → ManagerM σ α} {g : Context τ → ManagerM τ α}
    (h : ∀ c d, c.Alike R d → AnswerAlike (Context.Alike R) (f c) (g d)) :
  AnswerAlike (Context.Alike R) (get >>= f) (get >>= g)
  := fun c d hcd => h c d hcd c d hcd

end ManagerM

/-! ### Methods -/

namespace Manager

open ManagerM (alike_onStore)

theorem alike_stamp [Entity α] (R : σ → τ → Prop) (m : Manager) (item : α) :
  AnswerAlike (Context.Alike R) (m.stamp item) (m.stamp item)
  := by
  rintro ⟨s, g, now⟩ ⟨t, _, _⟩ ⟨hst, rfl, rfl⟩
  exact ⟨rfl, hst, rfl, rfl⟩

variable [DocumentStore σ] [DocumentStore τ] (h : Simulates R) (m : Manager)

include h

theorem alike_find (α : Type) [Record α] (id : String) :
  AnswerAlike (Context.Alike R) (m.find α id) (m.find α id)
  := alike_onStore (h.lookup α _ _ _ _)

theorem alike_record [Record α] (item : α) :
  AnswerAlike (Context.Alike R) (m.record item) (m.record item)
  := alike_onStore (h.record _ item _)

theorem alike_auditById (α : Type) [Record α] (id : String) (key : Option String) :
  AnswerAlike (Context.Alike R) (m.auditById α id key) (m.auditById α id key)
  := by
  rw [auditById, auditById]
  split
  · apply (alike_find h m α id).bind
    intro found
    cases found with
    | none => exact .pure _ false
    | some item => exact (alike_record h m item).bind fun _ => .pure _ true
  · exact .pure _ false

theorem alike_auditItemsById (ids : List String) (key : Option String) :
  AnswerAlike (Context.Alike R) (m.auditItemsById ids key) (m.auditItemsById ids key)
  := by
  rw [auditItemsById, auditItemsById]
  split
  · exact .pure _ 0
  · apply (alike_onStore (h _)).bind
    intro docs
    exact (AnswerAlike.forM (alike_record h m) docs).bind fun _ => .pure _ docs.length

theorem alike_auditItems [Record α] (items : List α) (key : Option String) :
  AnswerAlike (Context.Alike R) (m.auditItems items key) (m.auditItems items key)
  := by
  rw [auditItems, auditItems]
  split
  · exact (AnswerAlike.forM (alike_record h m) items).bind fun _ => .pure _ items.length
  · exact .pure _ 0

theorem alike_save [Entity α] (item : α) :
  AnswerAlike (Context.Alike R) (m.save item) (m.save item)
  := by
  apply (alike_stamp R m item).bind
  rintro ⟨stamped, isNew⟩
  apply (AnswerAlike.lift _ (Record.toDocument stamped)).bind
  intro d
  apply (alike_onStore (h (.replace m.collection (.hasId d.id) d true))).bind
  intro result
  dsimp only
  split
  · exact (alike_record h m stamped).bind fun _ => .pure _ stamped
  · exact .pure _ stamped

theorem alike_create [Entity α] (item : α) :
  AnswerAlike (Context.Alike R) (m.create item) (m.create item)
  := (ManagerM.alike_freshId R).bind fun _ => alike_save h m _

theorem alike_createFrom (α : Type) [Entity α] (properties : Json.Tree) :
  AnswerAlike (Context.Alike R) (m.createFrom α properties) (m.createFrom α properties)
  := by
  apply (ManagerM.alike_freshId R).bind
  intro id
  apply (AnswerAlike.lift _ (Document.ofTree id.toText properties)).bind
  intro d
  exact (AnswerAlike.lift _ _).bind fun item => alike_create h m item

theorem alike_simpleUpdate (α : Type) [Record α] (id : String) (u : Update) (key : Option String) :
  AnswerAlike (Context.Alike R) (m.simpleUpdate α id u key) (m.simpleUpdate α id u key)
  := by
  apply ManagerM.alike_get_bind
  intro c d hcd
  rw [hcd.now]
  apply (alike_onStore (h _)).bind
  intro result
  dsimp only
  split
  · exact (alike_auditById h m α id key).bind fun _ => .pure _ result
  · exact .pure _ result

theorem alike_update (α : Type) [Record α] (id : ObjectId) (u : Update) :
  AnswerAlike (Context.Alike R) (m.update α id u) (m.update α id u)
  := by
  apply (alike_simpleUpdate h m α id.toText u _).bind
  intro result
  dsimp only
  split
  · exact .throw _ _
  · apply (alike_find h m α id.toText).bind
    intro found
    cases found with
    | none => exact .throw _ _
    | some item => exact .pure _ item

theorem alike_ensureIndexes (fields : List IndexedField) :
  AnswerAlike (Context.Alike R) (m.ensureIndexes fields) (m.ensureIndexes fields)
  := by
  rw [ensureIndexes, ensureIndexes]
  split
  · exact .pure _ []
  · split
    · exact .throw _ _
    · exact .mapM (fun i => alike_onStore (h (.createIndex i))) _

end Manager

/-- The methods of the manager of an entity, by the type of their answers. -/
inductive ManagerCall (α : Type) : Type → Type 1 where
  | search (r : SearchRequest) : ManagerCall α (SearchResult α)
  | searchAs (β : Type) [Record β] (r : SearchRequest) : ManagerCall α (SearchResult β)
  | find (id : String) : ManagerCall α (Option α)
  | isPresent (id : String) : ManagerCall α Bool
  | isIncluded (id : String) (r : SearchRequest) : ManagerCall α Bool
  | create (item : α) : ManagerCall α α
  | createFrom (properties : Json.Tree) : ManagerCall α α
  | save (item : α) : ManagerCall α α
  | update (id : ObjectId) (u : Update) : ManagerCall α α
  | simpleUpdate (id : String) (u : Update) (key : Option String) : ManagerCall α UpdateResult
  | auditById (id : String) (key : Option String) : ManagerCall α Bool
  | auditItemsById (ids : List String) (key : Option String) : ManagerCall α Nat
  | auditItems (items : List α) (key : Option String) : ManagerCall α Nat
  | trail (id : String) (startAt pageSize : Nat) : ManagerCall α (SearchResult α)
  | trailSliced (id : String) (startAt pageSize : Nat) : ManagerCall α (SearchResult α)
  | dropCollection (name : String) : ManagerCall α Unit
  | collectionExists (name : String) : ManagerCall α Bool
  | ensureIndexes : ManagerCall α (List String)

namespace ManagerCall

/-- Calls a method. -/
def program [DocumentStore σ] [Entity α] (m : Manager) : ManagerCall α β → ManagerM σ β
  | search r => m.search α r
  | searchAs β r => m.searchAs β r
  | find id => m.find α id
  | isPresent id => m.isPresent id
  | isIncluded id r => m.isIncluded id r
  | create item => m.create item
  | createFrom properties => m.createFrom α properties
  | save item => m.save item
  | update id u => m.update α id u
  | simpleUpdate id u key => m.simpleUpdate α id u key
  | auditById id key => m.auditById α id key
  | auditItemsById ids key => m.auditItemsById ids key
  | auditItems items key => m.auditItems items key
  | trail id startAt pageSize => m.trail α id startAt pageSize
  | trailSliced id startAt pageSize => m.trailSliced α id startAt pageSize
  | dropCollection name => Manager.dropCollection name
  | collectionExists name => Manager.collectionExists name
  | ensureIndexes => m.ensureIndexes (Entity.indexedFields α)

/-- Every method answers alike. -/
theorem alike_program [DocumentStore σ] [DocumentStore τ] [Entity α] (h : Simulates R) (m : Manager)
    (call : ManagerCall α β) :
  AnswerAlike (Context.Alike R) (call.program m) (call.program m)
  := by
  cases call with
  | search r => exact ManagerM.alike_onStore (h.search α _ _ _)
  | searchAs β r => exact ManagerM.alike_onStore (h.search β _ _ _)
  | find id => exact m.alike_find h α id
  | isPresent id => exact ManagerM.alike_onStore (h.isPresent _ id)
  | isIncluded id r => exact ManagerM.alike_onStore (h.isIncluded _ id r _)
  | create item => exact m.alike_create h item
  | createFrom properties => exact m.alike_createFrom h α properties
  | save item => exact m.alike_save h item
  | update id u => exact m.alike_update h α id u
  | simpleUpdate id u key => exact m.alike_simpleUpdate h α id u key
  | auditById id key => exact m.alike_auditById h α id key
  | auditItemsById ids key => exact m.alike_auditItemsById h ids key
  | auditItems items key => exact m.alike_auditItems h items key
  | trail id startAt pageSize => exact ManagerM.alike_onStore (h.trail α _ id startAt pageSize)
  | trailSliced id startAt pageSize => exact ManagerM.alike_onStore (h.trailSliced α _ id startAt pageSize)
  | dropCollection name => exact ManagerM.alike_onStore (h (.drop name))
  | collectionExists name =>
      exact (ManagerM.alike_onStore (h (.listCollections (some name)))).bind fun _ => .pure _ _
  | ensureIndexes => exact m.alike_ensureIndexes h _

/-- What a method does in alike contexts. -/
theorem exec_alike [DocumentStore σ] [DocumentStore τ] [Entity α] (h : Simulates R) (m : Manager)
    (call : ManagerCall α β) {c : Context σ} {d : Context τ} (hcd : c.Alike R d) :
  ((call.program m).exec c).1 = ((call.program m).exec d).1
    ∧ ((call.program m).exec c).2.Alike R ((call.program m).exec d).2
  := call.alike_program h m c d hcd

end ManagerCall

/-! ### Programs -/

/-- A program calls methods of managers, which may be for any entities, with any settings and at
any instants, and goes on as they answer. -/
inductive ManagerProgram (γ : Type) : Type 1 where
  | done (result : γ)
  | call {α β : Type} [Entity α] (settings : ManagerSettings) (now : Instant)
      (method : ManagerCall α β) (next : Except Error β → ManagerProgram γ)

namespace ManagerProgram

/-- Runs a program with the managers of a repository. -/
def run [DocumentStore σ] (repository : RepositorySettings) :
    ManagerProgram γ → Context σ → γ × Context σ
  | done result, c => (result, c)
  | call (α := α) settings now method next, c =>
    let called := (method.program (.make α repository settings)).exec { c with now := now }
    (next called.1).run repository called.2

/-- Every program has the same result in alike contexts, in repositories that make the same
managers. -/
theorem run_alike [DocumentStore σ] [DocumentStore τ] (h : Simulates R)
    {repository repository' : RepositorySettings}
    (hmake : ∀ (α : Type) [Record α] (settings : ManagerSettings),
      Manager.make α repository settings = Manager.make α repository' settings)
    (p : ManagerProgram γ) {c : Context σ} {d : Context τ} (hcd : c.Alike R d) :
  (p.run repository c).1 = (p.run repository' d).1
    ∧ (p.run repository c).2.Alike R (p.run repository' d).2
  := by
  induction p generalizing c d with
  | done result => exact ⟨rfl, hcd⟩
  | @call α β _ settings now method next ih =>
      -- The clocks are set to the same instant, whatever they showed before.
      have hnow : Context.Alike R { c with now := now } { d with now := now } :=
        ⟨hcd.store, hcd.generator, rfl⟩
      obtain ⟨hanswer, hcontexts⟩ := method.exec_alike h (.make α repository' settings) hnow
      rw [run, run, hmake, hanswer]
      exact ih _ hcontexts

end ManagerProgram

end AuditedStore
