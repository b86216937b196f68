import AuditedStore.Proofs.Audit.Trail
import AuditedStore.Proofs.Manager.Programs
import AuditedStore.Proofs.Record.Card
import AuditedStore.Proofs.Store.Embedded
import Mathlib.Data.List.Forall2

/-!
# Audit trails of managed cards

A manager of cards writes records in any order, each write audited or not.  The trail of an
id always holds the newest of the states that the record had right after the audited writes
of it.
-/

namespace AuditedStore

open LawfulStore

/-! ### Writes -/

/-- A write of a manager of cards. -/
inductive CardWrite where
  | create (card : Card)
  | save (card : Card)
  | update (id : ObjectId) (u : Update)
  | simpleUpdate (id : String) (u : Update) (key : Option String)

namespace CardWrite

variable {σ : Type} [DocumentStore σ]

/-- Does a write; the answer is the id of the record that was written or matched, if there was
one. -/
def program (m : Manager) : CardWrite → ManagerM σ (Option String)
  | create card => do
    let saved ← m.create card
    pure (saved.base.id.map ObjectId.toText)
  | save card => do
    let saved ← m.save card
    pure (saved.base.id.map ObjectId.toText)
  | update id u => do
    let _ ← m.update Card id u
    pure (some id.toText)
  | simpleUpdate id u key => do
    let result ← m.simpleUpdate Card id u key
    pure (if 0 < result.matched then some id else none)

/-- Whether the settings of a manager ask for a snapshot of what is written. -/
def isAudited (m : Manager) : CardWrite → Bool
  | create _ => m.policy.shouldAudit (m.collection ++ ".Save") && m.settings.auditNewItems
  | save card =>
    m.policy.shouldAudit (m.collection ++ ".Save")
      && (!(card.base.id.isNone || card.base.createdDate.isNone) || m.settings.auditNewItems)
  | update _ _ => m.policy.shouldAudit (m.collection ++ ".Update")
  | simpleUpdate _ _ (some key) => m.policy.shouldAudit key
  | simpleUpdate _ _ none => m.settings.auditByDefault

/-- The dates of a card that is written can be written. -/
def HasValidDates : CardWrite → Prop
  | create card => card.base.HasValidDates
  | save card => card.base.HasValidDates
  | update _ _ => True
  | simpleUpdate _ _ _ => True

/-- The instant of a write and the dates of the card in it can be written. -/
def IsDated (w : Instant × CardWrite) : Prop := w.1.IsValid ∧ w.2.HasValidDates

/-- Does a write at an instant. -/
def execAt (m : Manager) (w : Instant × CardWrite) (c : Context σ) :
    Except Error (Option String) × Context σ :=
  (w.2.program m).exec { c with now := w.1 }

/-- What is found under an id right after a write of the record with it, if the write has
succeeded and is audited. -/
def audited (m : Manager) (id : String) (w : CardWrite)
    (result : Except Error (Option String) × Context σ) : List (Except Error (Option Card)) :=
  match result.1 with
  | .ok (some written) =>
    if written = id ∧ w.isAudited m then [((m.find Card id).exec result.2).1] else []
  | _ => []

/-- Does writes in turn, whether they succeed or not. -/
def execAll (m : Manager) : List (Instant × CardWrite) → Context σ → Context σ
  | [], c => c
  | w :: writes, c => execAll m writes (execAt m w c).2

/-- What is found under an id right after each audited write of the record with it. -/
def auditedStates (m : Manager) (id : String) :
    List (Instant × CardWrite) → Context σ → List (Except Error (Option Card))
  | [], _ => []
  | w :: writes, c =>
    audited m id w.2 (execAt m w c) ++ auditedStates m id writes (execAt m w c).2

end CardWrite

/-! ### The invariant -/

/-- Adds what was found under an id to what was found before. -/
def addState (states : String → List (Except Error (Option Card))) (id : String)
    (state : Except Error (Option Card)) (i : String) : List (Except Error (Option Card)) :=
  if i = id then states i ++ [state] else states i

/-- All records have object ids, and the container of each id has snapshots of the newest of
the states that were found under it. -/
structure HasTrails {σ : Type} [DocumentStore σ] [LawfulStore σ] (m : Manager)
    (states : String → List (Except Error (Option Card))) (s : σ) : Prop where
  valid : Valid s
  ids : ∀ i d, lookup? s m.collection i = some d → ∃ id : ObjectId, i = id.toText
  trails : ∀ i, ∃ (vs : List Value) (cards : List Card),
    lookup? s m.auditCollection i = AuditContainer.stored? i vs
    ∧ List.Forall₂ (fun v card => AuditContainer.restore Card v = .ok card) vs cards
    ∧ keepNewest m.cap (states i) = cards.map fun card => .ok (some card)

namespace HasTrails

variable {σ : Type} [DocumentStore σ] [LawfulStore σ] {m : Manager} {s t : σ}
  {states : String → List (Except Error (Option Card))} {d : Document} {id : ObjectId}

/-- Nothing has been written. -/
theorem empty (hs : Valid s) (hempty : ∀ name, documents s name = []) :
  HasTrails m (fun _ => []) s
  := by
  have hl : ∀ name i, lookup? s name i = none := by
    intro name i
    rw [lookup?, hempty]
    rfl
  constructor
  · apply hs
  · intro i d hd
    rw [hl] at hd
    cases hd
  · intro i
    use [], [], hl _ _, List.Forall₂.nil
    apply keepNewest_nil

/-- A record is written, and its trail stays as it is. -/
theorem put (h : HasTrails m states s) (hne : m.collection ≠ m.auditCollection) (hvalid : Valid t)
    (hid : d.id = id.toText) (hputs : Puts m.collection d s t) :
  HasTrails m states t
  := by
  constructor
  · apply hvalid
  · intro i e he
    by_cases hi : i = d.id
    · use id
      rw [hi, hid]
    · rw [hputs.lookup?_of_ne (fun hboth => hi hboth.2)] at he
      apply h.ids i e he
  · intro i
    rw [hputs.lookup?_of_ne (fun hboth => hne hboth.1.symm)]
    apply h.trails

/-- What counts is which documents there are. -/
theorem of_documents_eq (h : HasTrails m states s) (hvalid : Valid t)
    (hdocs : documents t = documents s) :
  HasTrails m states t
  := by
  have hl : ∀ name i, lookup? t name i = lookup? s name i := by
    intro name i
    rw [lookup?, hdocs, lookup?]
  constructor
  · apply hvalid
  · intro i d hd
    rw [hl] at hd
    apply h.ids i d hd
  · intro i
    rw [hl]
    apply h.trails

/-- A snapshot that restores a state is recorded, and the records stay as they are. -/
theorem record {c : Context σ} {item stored : Card} (h : HasTrails m states c.store)
    (hm : m.IsSeparate (Accepts σ)) (hdoc : Record.toDocument item = .ok d)
    (hrestore : AuditContainer.restore Card d.toValue = .ok stored) :
  ∃ t, (m.record item).exec c = (.ok (), { c with store := t })
    ∧ HasTrails m (addState states d.id (.ok (some stored))) t
    ∧ ∀ i, lookup? t m.collection i = lookup? c.store m.collection i
  := by
  -- The container may be missing; then the snapshots are none, and the first one makes it.
  obtain ⟨vs, cards, hl, hcards, hstates⟩ := h.trails d.id
  obtain ⟨t, ht, hvalid, hputs⟩ := Manager.exec_record h.valid hm.accepts_audit hdoc hl
  have hrecords : ∀ i, lookup? t m.collection i = lookup? c.store m.collection i := by
    intro i
    apply hputs.lookup?_of_ne
    exact fun hboth => hm.collection_ne hboth.1
  refine ⟨t, ht, ⟨hvalid, ?_, ?_⟩, hrecords⟩
  · intro i e he
    rw [hrecords] at he
    apply h.ids i e he
  · intro i
    by_cases hi : i = d.id
    · subst hi
      use keepNewest m.cap (vs ++ [d.toValue]), keepNewest m.cap (cards ++ [stored])
      refine ⟨?_, ?_, ?_⟩
      · rw [AuditContainer.stored?_of_ne_nil (keepNewest_append_singleton_ne_nil _ _ _)]
        apply hputs.lookup?_self
      · apply forall₂_keepNewest
        apply List.rel_append hcards
        exact List.Forall₂.cons hrestore List.Forall₂.nil
      · rw [addState, if_pos rfl, ← keepNewest_keepNewest_append, hstates, map_keepNewest,
          List.map_append]
        rfl
    · rw [hputs.lookup?_of_ne (fun hboth => hi hboth.2), addState, if_neg hi]
      apply h.trails

end HasTrails

/-! ### Writes keep the invariant -/

namespace CardWrite

variable {σ : Type} [DocumentStore σ] [LawfulStore σ] {m : Manager} {c c' : Context σ}
  {states : String → List (Except Error (Option Card))}

/-- A write has either recorded what is found afterwards, as its success and the settings ask
for, or recorded nothing, as they do not. -/
inductive Tracks (m : Manager) (states : String → List (Except Error (Option Card)))
    (audited : Bool) : Except Error (Option String) × Context σ → Prop where
  | unrecorded {answer : Except Error (Option String)} {c : Context σ}
      (h : HasTrails m states c.store)
      (hanswer : ∀ i, answer = .ok (some i) → audited = false) :
      Tracks m states audited (answer, c)
  | recorded {i : String} {c : Context σ} {stored : Card}
      (h : HasTrails m (addState states i (.ok (some stored))) c.store)
      (hfind : (m.find Card i).exec c = (.ok (some stored), c))
      (haudited : audited = true) :
      Tracks m states audited (.ok (some i), c)

/-- A write that fails and records nothing. -/
theorem Tracks.of_error {audited : Bool} {e : Error} (h : HasTrails m states c.store) :
  Tracks m states audited (.error e, c)
  := by
  apply Tracks.unrecorded h
  intro i hi
  cases hi

/-- What was found right after a write is counted exactly if it was recorded. -/
theorem Tracks.hasTrails {w : CardWrite} {result : Except Error (Option String) × Context σ}
    (h : Tracks m states (w.isAudited m) result) :
  HasTrails m (fun i => states i ++ audited m i w result) result.2.store
  := by
  cases h with
  | @unrecorded answer c h hanswer =>
      have hnil : ∀ i, audited m i w (answer, c) = [] := by
        intro i
        rw [audited]
        split
        · next written hwritten =>
            rw [hanswer written hwritten]
            simp
        · rfl
      simp only [hnil, List.append_nil]
      apply h
  | @recorded written c stored h hfind haudited =>
      have hstates : (fun i => states i ++ audited m i w (.ok (some written), c))
          = addState states written (.ok (some stored)) := by
        funext i
        rw [audited, addState, haudited]
        by_cases hi : i = written
        · subst hi
          simp [hfind]
        · simp [hi, Ne.symm hi]
      rw [hstates]
      apply h

/-- The snapshot of a card that is stored restores what is found, before and after. -/
theorem exec_record_stored {item : Card} {id : ObjectId} {d : Document}
    (h : HasTrails m states c.store) (hm : m.IsSeparate (Accepts σ))
    (hid : item.base.id = some id) (hdates : item.base.HasValidDates)
    (hlookup : lookup? c.store m.collection id.toText = some d)
    (hread : Record.ofDocument d = .ok item.settled) :
  ∃ t, (m.record item).exec c = (.ok (), { c with store := t })
    ∧ HasTrails m (addState states id.toText (.ok (some item.settled))) t
    ∧ (m.find Card id.toText).exec { c with store := t }
      = (.ok (some item.settled), { c with store := t })
  := by
  have hrestore : AuditContainer.restore Card (item.document id).toValue = .ok item.settled := by
    rw [Card.restore_document, Card.ofDocument_document hid hdates]
  obtain ⟨t, hexec, htrails, hrecords⟩ := h.record hm (Card.toDocument_eq hid) hrestore
  refine ⟨t, hexec, htrails, ?_⟩
  rw [Manager.exec_find hm.no_client htrails.valid, hrecords, hlookup]
  dsimp only
  rw [hread]
  rfl

/-! ### Saving -/

variable {card : Card}

/-- Saving a card stores it under its id, and records the stored state if that is audited. -/
theorem tracks_save (h : HasTrails m states c.store) (hm : m.IsSeparate (Accepts σ))
    (hdates : card.base.HasValidDates) (hnow : c.now.IsValid) :
  Tracks m states ((save card).isAudited m) (((save card).program m).exec c)
  := by
  let stamped := card.base.stamp m.settings.auditUser c.now c.generator
  let item : Card := { card with base := stamped.base }
  let stampedContext : Context σ := { c with generator := stamped.generator }
  obtain ⟨id, hid⟩ := card.base.exists_id_stamp m.settings.auditUser c.now c.generator
  have hitem : item.base.HasValidDates := hdates.stamp hnow
  have hread : Record.ofDocument (item.document id) = .ok item.settled :=
    Card.ofDocument_document hid hitem
  have hstamp : (m.stamp card).exec c = (.ok (item, stamped.isNew), stampedContext) := rfl
  obtain ⟨answer, t, hreplace, hvalid, hputs⟩ :=
    exec_upsert_hasId h.valid hm.accepts (item.document id)
  let c' : Context σ := { stampedContext with store := t }
  have htrails : HasTrails m states c'.store := h.put hm.collection_ne hvalid rfl hputs
  have hlookup : lookup? c'.store m.collection id.toText = some (item.document id) :=
    hputs.lookup?_self
  have haudited : (save card).isAudited m
      = (m.isAudited (some (m.auditKey .save)) && (!stamped.isNew || m.settings.auditNewItems)) := by
    rw [isAudited, Manager.isAudited, Manager.auditKey, String.append_assoc]
    rfl
  have hanswer : item.base.id.map ObjectId.toText = some id.toText := by rw [hid]; rfl
  have hsave := Manager.exec_save hstamp (Card.toDocument_eq hid) hreplace
  rw [← haudited] at hsave
  by_cases hsaved : (save card).isAudited m = true
  · obtain ⟨t', hrecord, hrecorded, hfind⟩ :=
      exec_record_stored htrails hm hid hitem hlookup hread
    rw [if_pos hsaved, ManagerM.exec_bind_ok hrecord, ManagerM.exec_pure] at hsave
    rw [program, ManagerM.exec_bind_ok hsave, ManagerM.exec_pure, hanswer]
    apply Tracks.recorded hrecorded hfind hsaved
  · rw [if_neg hsaved, ManagerM.exec_pure] at hsave
    rw [program, ManagerM.exec_bind_ok hsave, ManagerM.exec_pure]
    apply Tracks.unrecorded htrails
    intro i _
    apply Bool.eq_false_iff.mpr hsaved

/-- Creating a card saves it as a new one under a fresh id. -/
theorem tracks_create (h : HasTrails m states c.store) (hm : m.IsSeparate (Accepts σ))
    (hdates : card.base.HasValidDates) (hnow : c.now.IsValid) :
  Tracks m states ((create card).isAudited m) (((create card).program m).exec c)
  := by
  let fresh := c.generator.next c.now
  let item : Card := { card with base := { card.base with id := some fresh.1, createdDate := none } }
  have hfresh : ManagerM.freshId.exec c = (.ok fresh.1, { c with generator := fresh.2 }) := rfl
  have hitem : item.base.HasValidDates := by
    constructor
    · intro t ht
      cases ht
    · apply hdates.updated
  have haudited : (create card).isAudited m = (save item).isAudited m := by
    simp [isAudited, item]
  have hcreate : ((create card).program m).exec c
      = ((save item).program m).exec { c with generator := fresh.2 } :=
    ManagerM.exec_bind_congr (ManagerM.exec_bind_ok hfresh)
  rw [haudited, hcreate]
  apply tracks_save (c := { c with generator := fresh.2 }) h hm hitem hnow

/-! ### Updates -/

variable {id : ObjectId} {d : Document}

/-- The stored state of a record is recorded if that is audited, and can be read. -/
theorem tracks_auditById (h : HasTrails m states c.store) (hm : m.IsSeparate (Accepts σ))
    (hlookup : lookup? c.store m.collection id.toText = some d) (key : Option String) :
  ∃ answer c', (m.auditById Card id.toText key).exec c = (answer, c')
    ∧ Tracks m states (m.isAudited key) (answer.map fun _ => some id.toText, c')
  := by
  have hfind := Manager.exec_find (α := Card) hm.no_client h.valid id.toText
  rw [hlookup] at hfind
  dsimp only at hfind
  rw [Manager.auditById]
  by_cases haudited : m.isAudited key = true
  · rw [if_pos haudited, haudited]
    cases hread : (Record.ofDocument d : Except Error Card) with
    | error e =>
        rw [hread] at hfind
        use .error e, c, ManagerM.exec_bind_error hfind
        apply Tracks.of_error h
    | ok card =>
        rw [hread] at hfind
        -- What is recorded is the card that was read, not the document itself.
        obtain ⟨hdates, hsettled, hid⟩ := Card.settled_of_ofDocument (id_of_lookup? hlookup) hread
        rw [← hsettled] at hread
        obtain ⟨t, hrecord, hrecorded, hfound⟩ :=
          exec_record_stored h hm hid hdates hlookup hread
        use .ok true, { c with store := t }
        constructor
        · rw [ManagerM.exec_bind_ok hfind]
          apply ManagerM.exec_bind_ok hrecord
        · apply Tracks.recorded hrecorded hfound rfl
  · rw [if_neg haudited]
    use .ok false, c, rfl
    apply Tracks.unrecorded h
    intro i _
    apply Bool.eq_false_iff.mpr haudited

/-- Updating a record records its new state if that is audited, and can be read. -/
theorem tracks_simpleUpdate (h : HasTrails m states c.store) (hm : m.IsSeparate (Accepts σ))
    (id : String) (u : Update) (key : Option String) :
  ∃ answer c', (m.simpleUpdate Card id u key).exec c = (answer, c')
    ∧ Tracks m states (m.isAudited key)
        (answer.map fun result => if 0 < result.matched then some id else none, c')
  := by
  cases hlookup : lookup? c.store m.collection id with
  | none =>
      have hmissing := exec_update_missing h.valid hlookup (m.stampedUpdate u c.now)
      use .ok .unmatched, c, Manager.exec_simpleUpdate_unmatched hmissing
      apply Tracks.unrecorded h
      intro i hi
      cases hi
  | some d =>
      obtain ⟨objectId, rfl⟩ := h.ids id d hlookup
      rcases hrun : (m.stampedUpdate u c.now).run d with ⟨e, outcome⟩
      have hid : e.id = objectId.toText := id_of_run hlookup hrun
      cases outcome with
      | error refused =>
          -- In memory the record may now be partly changed; the answer is an error all the same.
          obtain ⟨t, hupdate, hvalid, hdocs⟩ := exec_update_found_refused h.valid hlookup hrun
          have htrails : HasTrails m states t := by
            rcases hdocs with hkept | hputs
            · apply h.of_documents_eq hvalid hkept
            · apply h.put hm.collection_ne hvalid hid hputs
          use .error (.refused refused), { c with store := t },
            Manager.exec_simpleUpdate_error hupdate
          apply Tracks.of_error htrails
      | ok changed =>
          obtain ⟨t, hupdate, hvalid, hputs⟩ := exec_update_found h.valid hlookup hrun
          have htrails : HasTrails m states t := h.put hm.collection_ne hvalid hid hputs
          have hfound : lookup? t m.collection objectId.toText = some e := by
            rw [← hid]
            apply hputs.lookup?_self
          obtain ⟨answer, c', haudit, htracks⟩ :=
            tracks_auditById (c := { c with store := t }) htrails hm hfound key
          use answer.map fun _ => .ofChange changed, c',
            Manager.exec_simpleUpdate_matched hupdate haudit
          cases answer with
          | error e => exact htracks
          | ok wrote => exact htracks

/-- Updating a record and reading its new state records it if that is audited. -/
theorem tracks_update (h : HasTrails m states c.store) (hm : m.IsSeparate (Accepts σ))
    (id : ObjectId) (u : Update) :
  Tracks m states ((update id u).isAudited m) (((update id u).program m).exec c)
  := by
  let key : Option String := some (m.auditKey .update)
  have haudited : (update id u).isAudited m = m.isAudited key := by
    rw [isAudited, Manager.isAudited, Manager.auditKey, String.append_assoc]
    rfl
  obtain ⟨answer, c', hexec, htracks⟩ := tracks_simpleUpdate h hm id.toText u key
  rw [haudited, program]
  cases answer with
  | error e =>
      have hupdate : (m.update Card id u).exec c = (.error e, c') := ManagerM.exec_bind_error hexec
      rw [ManagerM.exec_bind_error hupdate]
      apply htracks
  | ok result =>
      by_cases hmatched : result.matched = 0
      · simp only [Except.map, hmatched, lt_irrefl, if_false] at htracks
        rw [ManagerM.exec_bind_error (Manager.exec_update_unmatched hexec hmatched)]
        cases htracks with
        | unrecorded htrails => exact Tracks.of_error htrails
      · simp only [Except.map, Nat.pos_of_ne_zero hmatched, if_true] at htracks
        cases htracks with
        | unrecorded htrails hquiet =>
            rw [hquiet id.toText rfl]
            have hfind := Manager.exec_find (α := Card) hm.no_client htrails.valid id.toText
            have hupdate := Manager.exec_update_matched hexec hmatched hfind
            generalize (Except.bind _ _ : Except Error Card) = answer at hupdate
            cases answer with
            | error e =>
                rw [ManagerM.exec_bind_error hupdate]
                apply Tracks.of_error htrails
            | ok card =>
                rw [ManagerM.exec_bind_ok hupdate]
                apply Tracks.unrecorded htrails fun _ _ => rfl
        | recorded hrecorded hfind hkey =>
            rw [ManagerM.exec_bind_ok (Manager.exec_update_matched hexec hmatched hfind), hkey]
            apply Tracks.recorded hrecorded hfind rfl

/-! ### Runs -/

/-- Each write records what is found afterwards, as its success and the settings ask for. -/
theorem tracks_execAt (h : HasTrails m states c.store) (hm : m.IsSeparate (Accepts σ))
    {w : Instant × CardWrite} (hw : IsDated w) :
  Tracks m states (w.2.isAudited m) (execAt m w c)
  := by
  obtain ⟨now, w⟩ := w
  obtain ⟨hnow, hdates⟩ := hw
  let c' : Context σ := { c with now := now }
  cases w with
  | create card => exact tracks_create (c := c') h hm hdates hnow
  | save card => exact tracks_save (c := c') h hm hdates hnow
  | update id u => exact tracks_update (c := c') h hm id u
  | simpleUpdate id u key =>
      obtain ⟨answer, c'', hexec, htracks⟩ := tracks_simpleUpdate (c := c') h hm id u key
      have haudited : (simpleUpdate id u key).isAudited m = m.isAudited key := by
        cases key with
        | none => rfl
        | some key => rfl
      rw [haudited, execAt, program]
      cases answer with
      | error e =>
          rw [ManagerM.exec_bind_error hexec]
          apply htracks
      | ok result =>
          rw [ManagerM.exec_bind_ok hexec]
          apply htracks

/-- A run of writes adds the states after its audited writes to the trails. -/
theorem hasTrails_execAll (h : HasTrails m states c.store) (hm : m.IsSeparate (Accepts σ))
    {writes : List (Instant × CardWrite)} (hwrites : ∀ w ∈ writes, IsDated w) :
  HasTrails m (fun i => states i ++ auditedStates m i writes c) (execAll m writes c).store
  := by
  induction writes generalizing states c with
  | nil => simpa only [auditedStates, execAll, List.append_nil] using h
  | cons w writes ih =>
      obtain ⟨hw, hrest⟩ := List.forall_mem_cons.mp hwrites
      have hstep := (tracks_execAt h hm hw).hasTrails
      simpa only [auditedStates, execAll, List.append_assoc] using ih hstep hrest

/-- Every run of writes over an empty store leaves, for each id, the trail of the newest of
the states that were found under the id right after the audited writes of it: as many as are
kept, or all.  The trail is read newest first. -/
theorem trail_execAll (l : Location) (hm : m.IsSeparate (Accepts EmbeddedStore))
    (g : ObjectId.Generator) (now : Instant) (writes : List (Instant × CardWrite))
    (hwrites : ∀ w ∈ writes, IsDated w) (id : String) :
  ∃ cards : List Card,
    cards.map (fun card => .ok (some card))
        = (keepNewest m.cap (auditedStates m id writes ⟨l.emptyStore, g, now⟩)).reverse
    ∧ ∀ pageSize, cards.length ≤ pageSize →
        (m.trail Card id 0 pageSize).exec (execAll m writes ⟨l.emptyStore, g, now⟩)
          = (.ok { results := cards, totalCount := cards.length, pageSize, startAt := 0 },
            execAll m writes ⟨l.emptyStore, g, now⟩)
  := by
  have hempty : HasTrails m (fun _ => []) l.emptyStore :=
    HasTrails.empty l.valid_emptyStore l.documents_emptyStore
  have h := hasTrails_execAll (c := ⟨l.emptyStore, g, now⟩) hempty hm hwrites
  obtain ⟨vs, cards, hlookup, hcards, hstates⟩ := h.trails id
  use cards.reverse
  constructor
  · rw [List.nil_append] at hstates
    rw [hstates, List.map_reverse]
  · intro pageSize hpage
    rw [Manager.trail, ManagerM.exec_onStore (AuditTrail.exec_full h.valid hlookup hcards 0 pageSize),
      List.drop_zero, List.take_of_length_le hpage, List.length_reverse]

/-- A card is saved twice and updated, in a collection whose trails are kept beside it. -/
theorem trail_execAll_saves_update :
  let m : Manager := .make Card {} (.ofCollection "cards")
  let id : ObjectId := ⟨List.replicate 12 0, rfl⟩
  let c : Context EmbeddedStore :=
    ⟨(Location.memory "db").emptyStore, ⟨List.replicate 5 0, rfl, 0⟩, ⟨0, 0⟩⟩
  let writes : List (Instant × CardWrite) :=
    [ (⟨0, 0⟩, save ⟨{ id := some id }, "a", 1⟩),
      (⟨1, 0⟩, save ⟨{ id := some id, createdDate := some ⟨0, 0⟩ }, "b", 2⟩),
      (⟨2, 5⟩, update id [.set "Name" (.string "c")]) ]
  m.IsSeparate (Accepts EmbeddedStore) ∧ (∀ w ∈ writes, IsDated w)
    ∧ ∃ cards : List Card,
      cards.map (fun card => .ok (some card))
          = (keepNewest m.cap (auditedStates m id.toText writes c)).reverse
      ∧ ∀ pageSize, cards.length ≤ pageSize →
          (m.trail Card id.toText 0 pageSize).exec (execAll m writes c)
            = (.ok { results := cards, totalCount := cards.length, pageSize, startAt := 0 },
              execAll m writes c)
  := by
  intro m id c writes
  have hm : m.IsSeparate (Accepts EmbeddedStore) := by
    constructor
    · decide
    · exact (rfl : SortedStore.isReserved "cards" = false)
    · exact (rfl : SortedStore.isReserved ("cards" ++ "Audit") = false)
    · rfl
  have hwrites : ∀ w ∈ writes, IsDated w := by
    have hstart : (⟨0, 0⟩ : Instant).IsValid := ⟨by decide, by decide⟩
    simp only [writes, List.forall_mem_cons]
    refine ⟨?_, ?_, ?_, List.forall_mem_nil _⟩
    · exact ⟨hstart, nofun, nofun⟩
    · refine ⟨⟨by decide, by decide⟩, ?_, nofun⟩
      intro t ht
      cases ht
      apply hstart
    · exact ⟨⟨by decide, by decide⟩, trivial⟩
  exact ⟨hm, hwrites, trail_execAll (.memory "db") hm _ _ writes hwrites id.toText⟩

end CardWrite

end AuditedStore
