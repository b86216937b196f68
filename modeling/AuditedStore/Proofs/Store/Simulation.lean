import AuditedStore.Audit.Trail
import AuditedStore.Proofs.Store.Lookup

/-!
# Stores that answer alike

A relation of the states of two stores is a simulation if every command is answered alike in
related states, and leaves related states.  Whatever is built from commands is then answered alike:
searches, lookups, recordings and the readers of trails.
-/

namespace AuditedStore

variable {σ τ : Type} {R : σ → τ → Prop} {α β : Type}

/-- Two programs give the same answer in related states, and leave related states. -/
def AnswerAlike (R : σ → τ → Prop) (p : StoreM σ α) (q : StoreM τ α) : Prop :=
  ∀ s t, R s t → (p.exec s).1 = (q.exec t).1 ∧ R (p.exec s).2 (q.exec t).2

/-- Every command is answered alike by two stores. -/
def Simulates [DocumentStore σ] [DocumentStore τ] (R : σ → τ → Prop) : Prop :=
  ∀ {α : Type} (c : Command α), AnswerAlike R (perform c) (perform c)

namespace AnswerAlike

theorem pure (R : σ → τ → Prop) (a : α) :
  AnswerAlike R (pure a) (pure a)
  := fun _ _ h => ⟨rfl, h⟩

theorem lift (R : σ → τ → Prop) (x : Except Error α) :
  AnswerAlike R (liftM x) (liftM x)
  := fun _ _ h => ⟨rfl, h⟩

theorem throw (R : σ → τ → Prop) (e : Error) :
  AnswerAlike (α := α) R (throw e) (throw e)
  := fun _ _ h => ⟨rfl, h⟩

/-- Programs that answer alike go on alike. -/
theorem bind {p : StoreM σ α} {q : StoreM τ α} {f : α → StoreM σ β} {g : α → StoreM τ β}
    (h : AnswerAlike R p q) (hnext : ∀ a, AnswerAlike R (f a) (g a)) :
  AnswerAlike R (p >>= f) (q >>= g)
  := by
  intro s t hst
  obtain ⟨hanswer, hstates⟩ := h s t hst
  rcases hp : p.exec s with ⟨e | a, s'⟩
  · rcases hq : q.exec t with ⟨e' | b, t'⟩
    · rw [hp, hq] at hanswer hstates
      cases hanswer
      rw [StoreM.exec_bind_error hp, StoreM.exec_bind_error hq]
      exact ⟨rfl, hstates⟩
    · rw [hp, hq] at hanswer
      cases hanswer
  · rcases hq : q.exec t with ⟨e' | b, t'⟩
    · rw [hp, hq] at hanswer
      cases hanswer
    · rw [hp, hq] at hanswer hstates
      cases hanswer
      rw [StoreM.exec_bind_ok hp, StoreM.exec_bind_ok hq]
      exact hnext a s' t' hstates

theorem map (g : α → β) {p : StoreM σ α} {q : StoreM τ α} (h : AnswerAlike R p q) :
  AnswerAlike R (g <$> p) (g <$> q)
  := by
  rw [← bind_pure_comp, ← bind_pure_comp]
  exact h.bind fun a => .pure R (g a)

/-- Lists are gone through alike. -/
theorem forM {f : α → StoreM σ PUnit} {g : α → StoreM τ PUnit}
    (h : ∀ a, AnswerAlike R (f a) (g a)) (as : List α) :
  AnswerAlike R (as.forM f) (as.forM g)
  := by
  induction as with
  | nil => exact .pure R _
  | cons a as ih => exact (h a).bind fun _ => ih

@[inherit_doc forM]
theorem mapM {f : α → StoreM σ β} {g : α → StoreM τ β} (h : ∀ a, AnswerAlike R (f a) (g a))
    (as : List α) :
  AnswerAlike R (as.mapM f) (as.mapM g)
  := by
  induction as with
  | nil => exact .pure R _
  | cons a as ih =>
      rw [List.mapM_cons, List.mapM_cons]
      exact (h a).bind fun b => ih.bind fun bs => .pure R (b :: bs)

end AnswerAlike

namespace Simulates

variable [DocumentStore σ] [DocumentStore τ]

theorem findOne (h : Simulates R) (collection : String) (filter : Predicate)
    (options : FindOptions) :
  AnswerAlike R (findOne collection filter options) (findOne collection filter options)
  := (h _).bind fun docs => .pure R docs.head?

/-! ### Searches and lookups -/

theorem search (h : Simulates R) (α : Type) [Record α] (collection : String) (r : SearchRequest)
    (kind : SchemaKind) :
  AnswerAlike R (Search.run α collection r kind) (Search.run α collection r kind)
  := by
  apply (AnswerAlike.lift R (r.predicate kind)).bind
  intro p
  apply (h (.count collection p)).bind
  intro n
  apply (h (.find collection p (r.options kind))).bind
  intro docs
  exact (AnswerAlike.lift R (docs.mapM Record.ofDocument)).bind fun _ => .pure R _

theorem lookup (h : Simulates R) (α : Type) [Record α] (collection id : String)
    (client : Option String) (kind : SchemaKind) :
  AnswerAlike R (Search.lookup α collection id client kind)
    (Search.lookup α collection id client kind)
  := by
  apply (h.findOne collection (Search.lookupPredicate id client kind) {}).bind
  intro found
  cases found with
  | none => exact .pure R none
  | some d => exact (AnswerAlike.lift R (Record.ofDocument d)).map some

theorem isPresent (h : Simulates R) (collection id : String) :
  AnswerAlike R (Search.isPresent collection id) (Search.isPresent collection id)
  := (h _).bind fun _ => .pure R _

theorem isIncluded (h : Simulates R) (collection id : String) (r : SearchRequest)
    (kind : SchemaKind) :
  AnswerAlike R (Search.isIncluded collection id r kind) (Search.isIncluded collection id r kind)
  := (AnswerAlike.lift R _).bind fun _ => (h _).bind fun _ => .pure R _

/-! ### Trails -/

/-- A phase of a recording is done alike. -/
theorem recordingStep (h : Simulates R) (r : Recording) {phase phase' : Recording.Phase}
    (hphase : phase = phase') {s : σ} {t : τ} (hst : R s t) :
  (r.step phase s).1 = (r.step phase' t).1 ∧ R (r.step phase s).2 (r.step phase' t).2
  := by
  subst hphase
  cases phase with
  | append =>
      obtain ⟨hanswer, hstates⟩ := h r.push s t hst
      exact ⟨congrArg (Recording.afterPush .create) hanswer, hstates⟩
  | create =>
      obtain ⟨hanswer, hstates⟩ := h r.start s t hst
      exact ⟨congrArg Recording.afterStart hanswer, hstates⟩
  | retry =>
      obtain ⟨hanswer, hstates⟩ := h r.push s t hst
      exact ⟨congrArg (Recording.afterPush (.done (.error r.vanished))) hanswer, hstates⟩
  | done outcome => exact ⟨rfl, hst⟩

theorem recording (h : Simulates R) (r : Recording) :
  AnswerAlike R r.run r.run
  := by
  intro s t hst
  -- A recording takes at most three phases; a finished one stays as it is.
  obtain ⟨hfirst, hst⟩ := h.recordingStep r (rfl : Recording.Phase.append = .append) hst
  obtain ⟨hsecond, hst⟩ := h.recordingStep r hfirst hst
  obtain ⟨hthird, hst⟩ := h.recordingStep r hsecond hst
  exact ⟨congrArg (Recording.Phase.outcome r) hthird, hst⟩

theorem record (h : Simulates R) [Record α] (collection : String) (item : α) (cap : Nat) :
  AnswerAlike R (AuditTrail.record collection item cap) (AuditTrail.record collection item cap)
  := (AnswerAlike.lift R _).bind fun _ => h.recording _

theorem trail (h : Simulates R) (α : Type) [Record α] (collection id : String)
    (startAt pageSize : Nat) :
  AnswerAlike R (AuditTrail.full α collection id startAt pageSize)
    (AuditTrail.full α collection id startAt pageSize)
  := by
  apply (h.findOne collection (.hasId id) {}).bind
  intro found
  cases found with
  | none => exact .pure R _
  | some d => exact (AnswerAlike.lift R (AuditContainer.ofDocument α d)).bind fun _ => .pure R _

theorem trailSliced (h : Simulates R) (α : Type) [Record α] (collection id : String)
    (startAt pageSize : Nat) :
  AnswerAlike R (AuditTrail.sliced α collection id startAt pageSize)
    (AuditTrail.sliced α collection id startAt pageSize)
  := by
  apply (h.findOne collection (.hasId id) _).bind
  intro found
  cases found with
  | none => exact .pure R _
  | some d => exact (AnswerAlike.lift R (AuditContainer.ofDocument α d)).bind fun _ => .pure R _

end Simulates

end AuditedStore
