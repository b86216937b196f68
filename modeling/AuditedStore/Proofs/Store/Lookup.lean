import AuditedStore.Proofs.Store.Laws
import AuditedStore.Proofs.Update
import Mathlib.Data.List.Forall2

/-!
# Lookups by id

What commands do that select a document by its id, told through the lookups in a store: each
write puts one document under its id and changes no other lookup.
-/

namespace AuditedStore

/-! ### Lists of computations -/

section Computations

variable {ε α β : Type} {f : α → Except ε β} {as : List α} {bs : List β}

/-- A list of computations gives the answers of each of them, in turn. -/
theorem mapM_eq_ok_iff :
  as.mapM f = .ok bs ↔ List.Forall₂ (fun a b => f a = .ok b) as bs
  := by
  induction as generalizing bs with
  | nil =>
      rw [List.mapM_nil, List.forall₂_nil_left_iff]
      constructor
      · intro h
        exact (Except.ok.inj h).symm
      · rintro rfl
        rfl
  | cons a as ih =>
      rw [List.mapM_cons, List.forall₂_cons_left_iff]
      constructor
      · intro h
        cases ha : f a with
        | error e =>
            rw [ha] at h
            cases h
        | ok b =>
            cases has : as.mapM f with
            | error e =>
                rw [ha, has] at h
                cases h
            | ok rest =>
                rw [ha, has] at h
                cases h
                exact ⟨b, rest, rfl, ih.mp has, rfl⟩
      · rintro ⟨b, rest, hb, hrest, rfl⟩
        rw [hb, ih.mpr hrest]
        rfl

/-- The answers of a list of computations are the answers of each of them. -/
theorem mem_iff_of_mapM (h : as.mapM f = .ok bs) {b : β} :
  b ∈ bs ↔ ∃ a ∈ as, f a = .ok b
  := by
  rw [mapM_eq_ok_iff] at h
  induction h with
  | nil => simp
  | cons ha _ ih => simp [ih, ha, eq_comm]

/-- A list of computations that all give an answer gives all answers. -/
theorem exists_mapM (h : ∀ a ∈ as, ∃ b, f a = .ok b) :
  ∃ bs, as.mapM f = .ok bs
  := by
  induction as with
  | nil => exact ⟨[], rfl⟩
  | cons a as ih =>
      obtain ⟨⟨b, hb⟩, hrest⟩ := List.forall_mem_cons.mp h
      obtain ⟨bs, hbs⟩ := ih hrest
      refine ⟨b :: bs, ?_⟩
      rw [List.mapM_cons, hb, hbs]
      rfl

end Computations

/-! ### Running programs -/

namespace StoreM

variable {σ α β : Type} {s t : σ} {p q : StoreM σ α} {f : α → StoreM σ β} {a : α} {e : Error}

theorem exec_pure (a : α) (s : σ) :
  exec (pure a) s = (.ok a, s)
  := rfl

/-- The first part of a program is run, and what follows goes on with its answer and store. -/
theorem exec_bind (p : StoreM σ α) (f : α → StoreM σ β) (s : σ) :
  exec (p >>= f) s = ExceptT.bindCont f (p.exec s).1 (p.exec s).2
  := rfl

theorem exec_bind_ok (h : p.exec s = (.ok a, t)) :
  exec (p >>= f) s = (f a).exec t
  := by
  rw [exec_bind, h]
  rfl

theorem exec_bind_error (h : p.exec s = (.error e, t)) :
  exec (p >>= f) s = (.error e, t)
  := by
  rw [exec_bind, h]
  rfl

/-- A program that gives an answer has gone through both of its parts. -/
theorem exists_of_exec_bind_ok {b : β} (h : exec (p >>= f) s = (.ok b, t)) :
  ∃ a s', p.exec s = (.ok a, s') ∧ (f a).exec s' = (.ok b, t)
  := by
  rw [exec_bind] at h
  rcases hp : p.exec s with ⟨e | a, s'⟩
  · rw [hp] at h
    cases h
  · rw [hp] at h
    exact ⟨a, s', rfl, h⟩

/-- A program goes on in the same way after programs that do the same. -/
theorem exec_bind_congr (h : p.exec s = q.exec t) :
  exec (p >>= f) s = exec (q >>= f) t
  := by rw [exec_bind, exec_bind, h]

/-- A computation without commands leaves the store as it is. -/
theorem exec_lift (x : Except Error α) (s : σ) :
  exec (liftM x) s = (x, s)
  := rfl

theorem exec_map_lift (g : α → β) (x : Except Error α) (s : σ) :
  exec (g <$> liftM x) s = (g <$> x, s)
  := by
  cases x with
  | error e => rfl
  | ok a => rfl

theorem exec_perform [DocumentStore σ] (c : Command α) (s : σ) :
  exec (perform c) s = DocumentStore.exec c s
  := rfl

end StoreM

namespace LawfulStore

variable {σ : Type} [DocumentStore σ] [LawfulStore σ]

/-- The document of a collection with an id. -/
def lookup? (s : σ) (name id : String) : Option Document :=
  Document.withId? id (documents s name)

/-- A document is put under its id, and no other lookup changes. -/
def Puts (name : String) (d : Document) (s t : σ) : Prop :=
  ∀ m i, lookup? t m i = if m = name ∧ i = d.id then some d else lookup? s m i

variable {s t : σ} {name id : String} {d e : Document}

theorem id_of_lookup? (h : lookup? s name id = some d) :
  d.id = id
  := Document.id_of_withId? h

/-- An update keeps the id that a document was found under. -/
theorem id_of_run (h : lookup? s name id = some d) {u : Update} {answer : Except Refusal Bool}
    (hu : u.run d = (e, answer)) :
  e.id = id
  := by rw [← id_of_lookup? h, ← Update.id_run u d, hu]

/-- No other document has the id under which one is found. -/
theorem filter_id_of_lookup? (hs : Valid s) (h : lookup? s name id = some d) :
  (documents s name).filter (fun d => d.id == id) = [d]
  := by
  have hone := Document.filter_id_and (nodup_ids hs name) id fun _ => true
  simp only [Bool.and_true] at hone
  rw [hone, ← lookup?, h]
  rfl

theorem find?_hasId (docs : List Document) (id : String) :
  docs.find? (fun d => (Predicate.hasId id).holds d) = Document.withId? id docs
  := by simp only [Predicate.holds_hasId, Document.withId?]

theorem Puts.lookup?_self (h : Puts name d s t) :
  lookup? t name d.id = some d
  := by rw [h, if_pos ⟨rfl, rfl⟩]

theorem Puts.lookup?_of_ne (h : Puts name d s t) {m i : String} (hne : ¬ (m = name ∧ i = d.id)) :
  lookup? t m i = lookup? s m i
  := by rw [h, if_neg hne]

/-- A document that is added under a free id is put under it. -/
theorem puts_of_perm (hs : Valid s) (ht : d.id ∉ (documents s name).map Document.id)
    (hdocs : (documents t name).Perm (d :: documents s name))
    (hsame : SameExcept name (documents s) (documents t)) :
  Puts name d s t
  := by
  intro m i
  by_cases hm : m = name
  · have hnodup : ((d :: documents s name).map Document.id).Nodup :=
      List.nodup_cons.mpr ⟨ht, nodup_ids hs name⟩
    rw [hm, lookup?, Document.withId?_perm hnodup hdocs, Document.withId?_cons, lookup?]
    simp
  · rw [lookup?, hsame m hm, if_neg (fun h => hm h.1), lookup?]

/-- A document that replaces the one with its id is put under it. -/
theorem puts_of_replaceIn (hl : lookup? s name d.id = some e)
    (hdocs : documents t name = d.replaceIn (documents s name))
    (hsame : SameExcept name (documents s) (documents t)) :
  Puts name d s t
  := by
  intro m i
  by_cases hm : m = name
  · rw [hm, lookup?, hdocs, Document.withId?_replaceIn]
    by_cases hi : i = d.id
    · rw [lookup?] at hl
      simp [hi, hl]
    · simp [hi, lookup?]
  · rw [lookup?, hsame m hm, if_neg (fun h => hm h.1), lookup?]

/-! ### Commands -/

theorem exec_update_missing (hs : Valid s) (hl : lookup? s name id = none) (u : Update) :
  DocumentStore.exec (.update name (.hasId id) u) s = (.ok .unmatched, s)
  := by
  apply exec_update_unmatched hs
  rw [find?_hasId]
  apply hl

/-- An update that is done puts the changed document in place of the old one. -/
theorem exec_update_found (hs : Valid s) (hl : lookup? s name id = some d) {u : Update}
    {changed : Bool} (hu : u.run d = (e, .ok changed)) :
  ∃ t, DocumentStore.exec (.update name (.hasId id) u) s = (.ok (.ofChange changed), t)
    ∧ Valid t ∧ Puts name e s t
  := by
  have hfind := find?_hasId (documents s name) id
  obtain ⟨t, ht, hdocs, hsame⟩ := exec_update_done hs (hfind.trans hl) hu
  have hvalid := valid_exec hs (.update name (.hasId id) u)
  rw [ht] at hvalid
  rw [← id_of_run hl hu] at hl
  use t, ht, hvalid
  apply puts_of_replaceIn hl hdocs hsame

/-- A refused update changes no document, or puts the partly changed one in place of the old
one. -/
theorem exec_update_found_refused (hs : Valid s) (hl : lookup? s name id = some d) {u : Update}
    {why : Refusal} (hu : u.run d = (e, .error why)) :
  ∃ t, DocumentStore.exec (.update name (.hasId id) u) s = (.error (.refused why), t)
    ∧ Valid t ∧ (documents t = documents s ∨ Puts name e s t)
  := by
  have hfind := find?_hasId (documents s name) id
  obtain ⟨t, ht, hdocs, hsame⟩ := exec_update_refused hs (hfind.trans hl) hu
  have hvalid := valid_exec hs (.update name (.hasId id) u)
  rw [ht] at hvalid
  rw [← id_of_run hl hu] at hl
  refine ⟨t, ht, hvalid, hdocs.imp (fun hkept => ?_) fun hput => puts_of_replaceIn hl hput hsame⟩
  funext m
  by_cases hm : m = name
  · rw [hm, hkept]
  · apply hsame m hm

/-- A document is inserted where its id is free. -/
theorem exec_insert_missing (hs : Valid s) (ha : Accepts σ name)
    (hl : lookup? s name d.id = none) :
  ∃ t, DocumentStore.exec (.insert name d) s = (.ok (), t) ∧ Valid t ∧ Puts name d s t
  := by
  have hfree := Document.withId?_eq_none_iff.mp hl
  obtain ⟨t, ht, hdocs, hsame⟩ := exec_insert_free hs ha hfree
  have hvalid := valid_exec hs (.insert name d)
  rw [ht] at hvalid
  use t, ht, hvalid
  apply puts_of_perm hs hfree hdocs hsame

/-- An insertion under a taken id is refused, and no document changes. -/
theorem exec_insert_found (hs : Valid s) (ha : Accepts σ name)
    (hl : lookup? s name d.id = some e) :
  ∃ t, DocumentStore.exec (.insert name d) s = (.error (.duplicateKey name d.id), t)
    ∧ Valid t ∧ documents t = documents s
  := by
  have htaken : d.id ∈ (documents s name).map Document.id := by
    by_contra hfree
    rw [lookup?, Document.withId?_eq_none_iff.mpr hfree] at hl
    cases hl
  obtain ⟨t, ht, hdocs⟩ := exec_insert_taken hs ha htaken
  have hvalid := valid_exec hs (.insert name d)
  rw [ht] at hvalid
  use t, ht, hvalid, hdocs

/-- An upsert under the id of the document puts it there. -/
theorem exec_upsert_hasId (hs : Valid s) (ha : Accepts σ name) (d : Document) :
  ∃ answer t, DocumentStore.exec (.replace name (.hasId d.id) d true) s = (.ok answer, t)
    ∧ Valid t ∧ Puts name d s t
  := by
  have hvalid := valid_exec hs (.replace name (.hasId d.id) d true)
  have hfind := find?_hasId (documents s name) d.id
  cases hl : lookup? s name d.id with
  | none =>
      have hfree := Document.withId?_eq_none_iff.mp hl
      obtain ⟨t, ht, hdocs, hsame⟩ := exec_upsert hs ha (hfind.trans hl) hfree
      rw [ht] at hvalid
      use .ofInsert d.id, t, ht, hvalid
      apply puts_of_perm hs hfree hdocs hsame
  | some old =>
      obtain ⟨t, ht, hdocs, hsame⟩ := exec_replace_matched hs ha true (hfind.trans hl)
      rw [ht] at hvalid
      rw [id_of_lookup? hl] at hdocs
      use .ofChange true, t, ht, hvalid
      apply puts_of_replaceIn hl hdocs hsame

/-- The first document that an id selects is the one with the id, narrowed by a slice. -/
theorem exec_findOne_hasId (hs : Valid s) (name id : String) (slice : Option Slice) :
  StoreM.exec (findOne name (.hasId id) { slice := slice }) s
    = (.ok ((lookup? s name id).map fun d => slice.elim d fun x => x.apply d), s)
  := by
  rw [findOne, StoreM.exec_bind_ok ((StoreM.exec_perform _ s).trans (exec_find hs name _ _)),
    StoreM.exec_pure, FindOptions.select, sort_nil, lookup?, ← find?_hasId, ← List.head?_filter]
  cases slice with
  | none => simp [List.head?_take]
  | some x => simp [List.head?_take]

end LawfulStore

end AuditedStore
