import AuditedStore.Proofs.Query.Selection
import AuditedStore.Proofs.Store.Scanning

/-!
# Stores in memory and sorted stores agree

A store in memory keeps documents in the order of their insertion, a sorted one in the order
of their ids.  As long as every write has one document to go to and no update is refused, the
two keep the same documents under the same names, so that their answers differ at most in the
order of the documents that are found.  The proof follows both stores side by side: each
command keeps them together, first what they store and then the names of their collections.
-/

namespace AuditedStore

open LawfulStore (documents Accepts Valid)

/-! ### The same documents -/

section Documents

variable {σ τ : Type} [DocumentStore σ] [LawfulStore σ] [DocumentStore τ] [LawfulStore τ]

/-- Every collection has the same documents in both stores, in any order. -/
def SameDocuments (s : σ) (t : τ) : Prop := ∀ name, (documents s name).Perm (documents t name)

/-- Both stores give the same answer to a command, and have the same documents after it. -/
def InStep (c : Command α) (s : σ) (t : τ) : Prop :=
  (DocumentStore.exec c s).1 = (DocumentStore.exec c t).1
    ∧ SameDocuments (DocumentStore.exec c s).2 (DocumentStore.exec c t).2

variable {s s' : σ} {t t' : τ} {name : String} {p : Predicate}

theorem InStep.intro {c : Command α} {answer : Except Error α}
    (hs : DocumentStore.exec c s = (answer, s')) (ht : DocumentStore.exec c t = (answer, t'))
    (h : SameDocuments s' t') :
  InStep c s t
  := by
  rw [InStep, hs, ht]
  exact ⟨rfl, h⟩

namespace SameDocuments

/-- Both stores have changed no documents. -/
theorem of_eq (h : SameDocuments s t) (hs : documents s' = documents s)
    (ht : documents t' = documents t) :
  SameDocuments s' t'
  := by
  intro name
  rw [hs, ht]
  apply h name

/-- Both stores have changed one collection, to the same documents. -/
theorem write (h : SameDocuments s t) (hdocs : (documents s' name).Perm (documents t' name))
    (hs : SameExcept name (documents s) (documents s'))
    (ht : SameExcept name (documents t) (documents t')) :
  SameDocuments s' t'
  := by
  intro other
  by_cases hother : other = name
  · rw [hother]
    apply hdocs
  · rw [hs other hother, ht other hother]
    apply h other

/-- Both stores have added the same document to one collection. -/
theorem add (h : SameDocuments s t) {d : Document}
    (hdocs : (documents s' name).Perm (d :: documents s name))
    (hdocs' : (documents t' name).Perm (d :: documents t name))
    (hs : SameExcept name (documents s) (documents s'))
    (ht : SameExcept name (documents t) (documents t')) :
  SameDocuments s' t'
  := h.write (hdocs.trans (((h name).cons d).trans hdocs'.symm)) hs ht

/-- An id is taken in both stores or in none. -/
theorem mem_ids_iff (h : SameDocuments s t) (name id : String) :
  id ∈ (documents s name).map Document.id ↔ id ∈ (documents t name).map Document.id
  := ((h name).map Document.id).mem_iff

theorem inStep_count (hs : Valid s) (ht : Valid t) (h : SameDocuments s t) (name : String)
    (p : Predicate) :
  InStep (.count name p) s t
  := by
  have hcount := (h name).countP_eq fun d => p.holds d
  apply InStep.intro (LawfulStore.exec_count hs name p) _ h
  rw [hcount]
  apply LawfulStore.exec_count ht name p

theorem inStep_insert (hs : Valid s) (ht : Valid t) (h : SameDocuments s t)
    (has : Accepts σ name) (hat : Accepts τ name) (d : Document) :
  InStep (.insert name d) s t
  := by
  by_cases hd : d.id ∈ (documents s name).map Document.id
  · have hd' := (h.mem_ids_iff name d.id).mp hd
    obtain ⟨s', hexec, hdocs⟩ := LawfulStore.exec_insert_taken hs has hd
    obtain ⟨t', hexec', hdocs'⟩ := LawfulStore.exec_insert_taken ht hat hd'
    apply InStep.intro hexec hexec' (h.of_eq hdocs hdocs')
  · have hd' := fun hmem => hd ((h.mem_ids_iff name d.id).mpr hmem)
    obtain ⟨s', hexec, hdocs, hsame⟩ := LawfulStore.exec_insert_free hs has hd
    obtain ⟨t', hexec', hdocs', hsame'⟩ := LawfulStore.exec_insert_free ht hat hd'
    apply InStep.intro hexec hexec' (h.add hdocs hdocs' hsame hsame')

theorem inStep_replace [ScanningStore σ] [ScanningStore τ] (hs : Valid s) (ht : Valid t)
    (h : SameDocuments s t) (has : Accepts σ name) (hat : Accepts τ name)
    (hone : (documents s name).countP (fun d => p.holds d) ≤ 1) (d : Document) (upsert : Bool) :
  InStep (.replace name p d upsert) s t
  := by
  have hfind := Document.find?_eq_of_perm (h name) hone
  cases hf : (documents s name).find? (fun d => p.holds d) with
  | some old =>
      obtain ⟨s', hexec, hdocs, hsame⟩ := LawfulStore.exec_replace_matched hs has (d := d) upsert hf
      obtain ⟨t', hexec', hdocs', hsame'⟩ :=
        LawfulStore.exec_replace_matched ht hat (d := d) upsert (hfind.symm.trans hf)
      apply InStep.intro hexec hexec' (h.write _ hsame hsame')
      rw [hdocs, hdocs']
      apply (h name).map _
  | none =>
      have hf' := hfind.symm.trans hf
      cases upsert with
      | false =>
          obtain ⟨s', hexec, hdocs⟩ := ScanningStore.exec_replace_unmatched hs has d hf
          obtain ⟨t', hexec', hdocs'⟩ := ScanningStore.exec_replace_unmatched ht hat d hf'
          apply InStep.intro hexec hexec' (h.of_eq hdocs hdocs')
      | true =>
          by_cases hd : d.id ∈ (documents s name).map Document.id
          · have hd' := (h.mem_ids_iff name d.id).mp hd
            obtain ⟨s', hexec, hdocs⟩ := ScanningStore.exec_upsert_taken hs has hf hd
            obtain ⟨t', hexec', hdocs'⟩ := ScanningStore.exec_upsert_taken ht hat hf' hd'
            apply InStep.intro hexec hexec' (h.of_eq hdocs hdocs')
          · have hd' := fun hmem => hd ((h.mem_ids_iff name d.id).mpr hmem)
            obtain ⟨s', hexec, hdocs, hsame⟩ := LawfulStore.exec_upsert hs has hf hd
            obtain ⟨t', hexec', hdocs', hsame'⟩ := LawfulStore.exec_upsert ht hat hf' hd'
            apply InStep.intro hexec hexec' (h.add hdocs hdocs' hsame hsame')

/-- An update that is not refused and has at most one document to go to either goes to none in
both stores, or to the same document in both. -/
theorem update_cases (hs : Valid s) (h : SameDocuments s t) {u : Update}
    (hone : (documents s name).countP (fun d => p.holds d) ≤ 1)
    (hok : ∀ e, (DocumentStore.exec (.update name p u) s).1 ≠ .error e) :
  ((documents s name).find? (fun d => p.holds d) = none
      ∧ (documents t name).find? (fun d => p.holds d) = none)
    ∨ ∃ d e changed, (documents s name).find? (fun d => p.holds d) = some d
      ∧ (documents t name).find? (fun d => p.holds d) = some d
      ∧ u.run d = (e, .ok changed)
  := by
  rw [← Document.find?_eq_of_perm (h name) hone]
  cases hf : (documents s name).find? (fun d => p.holds d) with
  | none => exact Or.inl ⟨rfl, rfl⟩
  | some d =>
      rcases hu : u.run d with ⟨e, why | changed⟩
      · -- A refused update is the one case where the stores go apart, so it is ruled out.
        obtain ⟨s', hexec, -⟩ := LawfulStore.exec_update_refused hs hf hu
        rw [hexec] at hok
        exact absurd rfl (hok _)
      · apply Or.inr ⟨d, e, changed, rfl, rfl, hu⟩

theorem inStep_update (hs : Valid s) (ht : Valid t) (h : SameDocuments s t) {u : Update}
    (hone : (documents s name).countP (fun d => p.holds d) ≤ 1)
    (hok : ∀ e, (DocumentStore.exec (.update name p u) s).1 ≠ .error e) :
  InStep (.update name p u) s t
  := by
  obtain ⟨hf, hf'⟩ | ⟨d, e, changed, hf, hf', hu⟩ := h.update_cases hs hone hok
  · apply InStep.intro (LawfulStore.exec_update_unmatched hs u hf)
      (LawfulStore.exec_update_unmatched ht u hf') h
  · obtain ⟨s', hexec, hdocs, hsame⟩ := LawfulStore.exec_update_done hs hf hu
    obtain ⟨t', hexec', hdocs', hsame'⟩ := LawfulStore.exec_update_done ht hf' hu
    apply InStep.intro hexec hexec' (h.write _ hsame hsame')
    rw [hdocs, hdocs']
    apply (h name).map _

theorem inStep_drop [ScanningStore σ] [ScanningStore τ] (hs : Valid s) (ht : Valid t)
    (h : SameDocuments s t) (name : String) :
  InStep (.drop name) s t
  := by
  obtain ⟨s', hexec, hdocs, hsame⟩ := ScanningStore.exec_drop hs name
  obtain ⟨t', hexec', hdocs', hsame'⟩ := ScanningStore.exec_drop ht name
  apply InStep.intro hexec hexec' (h.write _ hsame hsame')
  rw [hdocs, hdocs']

theorem inStep_createIndex [ScanningStore σ] [ScanningStore τ] (hs : Valid s) (ht : Valid t)
    (h : SameDocuments s t) {i : IndexDefinition} (has : Accepts σ i.collection)
    (hat : Accepts τ i.collection) :
  InStep (.createIndex i) s t
  := by
  obtain ⟨s', hexec, hdocs⟩ := ScanningStore.exec_createIndex hs has
  obtain ⟨t', hexec', hdocs'⟩ := ScanningStore.exec_createIndex ht hat
  apply InStep.intro hexec hexec' (h.of_eq hdocs hdocs')

end SameDocuments

end Documents

/-! ### The same names -/

namespace MemoryStore

variable {s : MemoryStore} {name : String}

theorem exists_collections_insert (s : MemoryStore) (name : String) (d : Document) :
  ∃ c, (s.insert name d).2.collections = Assoc.insert name c s.collections
  := by
  rw [insert]
  split
  · exact ⟨_, rfl⟩
  · exact ⟨_, rfl⟩

theorem exists_collections_replace (s : MemoryStore) (name : String) (p : Predicate)
    (d : Document) (upsert : Bool) :
  ∃ c, (s.replace name p d upsert).2.collections = Assoc.insert name c s.collections
  := by
  have hinsert := s.exists_collections_insert name d
  simp only [replace]
  split
  · exact ⟨_, rfl⟩
  · split
    · split
      · next heq => rwa [heq] at hinsert
      · next heq => rwa [heq] at hinsert
    · exact ⟨_, rfl⟩

theorem Valid.exists_collections_update (h : s.Valid) {p : Predicate} (u : Update) {d : Document}
    (hf : (s.documents name).find? (fun d => p.holds d) = some d) :
  ∃ c, (s.update name p u).2.collections = Assoc.insert name c s.collections
  := by
  obtain ⟨i, hi, -⟩ := (h name).find?_eq_some hf
  simp only [MemoryStore.update, hi]
  split
  · exact ⟨_, rfl⟩
  · exact ⟨_, rfl⟩

end MemoryStore

namespace SortedStore

variable {s : SortedStore} {name : String}

theorem exists_trees_writing (s : SortedStore) (hr : isReserved name = false)
    (write : Assoc Document → Except Error α × Assoc Document) :
  ∃ docs, (s.writing name write).2.trees = Assoc.insert name docs s.trees
  := by
  rw [writing_eq hr]
  exact ⟨_, rfl⟩

theorem Valid.exists_trees_update (h : s.Valid) {p : Predicate} {u : Update} {d e : Document}
    {changed : Bool} (hf : (s.documents name).find? (fun d => p.holds d) = some d)
    (hu : u.run d = (e, .ok changed)) :
  ∃ docs, (s.update name p u).2.trees = Assoc.insert name docs s.trees
  := by
  rw [documents] at hf
  rw [SortedStore.update, (h name).firstMatch?_eq]
  simp only [hf, hu]
  exact ⟨_, rfl⟩

theorem exists_trees_createIndex (s : SortedStore) {i : IndexDefinition}
    (hr : isReserved i.collection = false) :
  ∃ docs, (s.createIndex i).2.trees = Assoc.insert i.collection docs s.trees
  := by
  rw [s.createIndex_eq hr]
  exact ⟨_, rfl⟩

/-- The names after dropping a collection are all others. -/
theorem keys_drop (s : SortedStore) (hr : isReserved name = false) :
  Assoc.keys (s.drop name).trees = (Assoc.keys s.trees).filter fun other => other ≠ name
  := by
  rw [drop]
  dsimp only
  split
  · apply Assoc.keys_erase name s.trees
  · next h =>
      have hnone : Assoc.contains name s.trees = false := by simpa [hasTree, hr] using h
      symm
      apply List.filter_eq_self.mpr
      intro other hother
      have hne : other ≠ name := fun heq => Assoc.notMem_keys_of_contains hnone (heq ▸ hother)
      simpa using hne

end SortedStore

/-- Both stores have collections under the same names, of which none is reserved. -/
structure SameNames (s : MemoryStore) (t : SortedStore) : Prop where
  keys_eq : Assoc.keys s.collections = Assoc.keys t.trees
  unreserved : ∀ name ∈ Assoc.keys t.trees, SortedStore.isReserved name = false

namespace SameNames

variable {s : MemoryStore} {t : SortedStore} {name : String}

theorem set (h : SameNames s t) (hr : SortedStore.isReserved name = false) {s' : MemoryStore}
    {t' : SortedStore} {c : Collection} {docs : Assoc Document}
    (hs : s'.collections = Assoc.insert name c s.collections)
    (ht : t'.trees = Assoc.insert name docs t.trees) :
  SameNames s' t'
  := by
  constructor
  · rw [hs, ht]
    apply Assoc.keys_insert_congr h.keys_eq name c docs
  · intro other hother
    rw [ht] at hother
    rcases Assoc.mem_keys_insert_iff.mp hother with rfl | hother
    · apply hr
    · apply h.unreserved other hother

theorem drop (h : SameNames s t) (hr : SortedStore.isReserved name = false) :
  SameNames (DocumentStore.exec (.drop name) s).2 (DocumentStore.exec (.drop name) t).2
  := by
  have hkeys := t.keys_drop hr
  constructor
  · change Assoc.keys (Assoc.erase name s.collections) = Assoc.keys (t.drop name).trees
    rw [Assoc.keys_erase, hkeys, h.keys_eq]
  · intro other hother
    change other ∈ Assoc.keys (t.drop name).trees at hother
    rw [hkeys] at hother
    apply h.unreserved other (List.mem_of_mem_filter hother)

/-- Both stores list the same names. -/
theorem exec_listCollections (h : SameNames s t) (wanted : Option String) :
  (DocumentStore.exec (.listCollections wanted) s).1
    = (DocumentStore.exec (.listCollections wanted) t).1
  := by
  change Except.ok ((Assoc.keys s.collections).filter _) = Except.ok ((Assoc.keys t.trees).filter _)
  rw [h.keys_eq]
  congr 1
  apply List.filter_congr
  intro name hname
  rw [h.unreserved name hname]
  rfl

end SameNames

/-! ### Side by side -/

namespace Command

/-- A command that leaves no choice to a store: it names no reserved collection, finds at most
one document to write to, and is no update that is refused. -/
def Definite (s : MemoryStore) : Command α → Prop
  | find name _ _ => SortedStore.isReserved name = false
  | count name _ => SortedStore.isReserved name = false
  | insert name _ => SortedStore.isReserved name = false
  | replace name p _ _ =>
      SortedStore.isReserved name = false ∧ (s.documents name).countP (fun d => p.holds d) ≤ 1
  | update name p u =>
      SortedStore.isReserved name = false ∧ (s.documents name).countP (fun d => p.holds d) ≤ 1
      ∧ ∀ e, (DocumentStore.exec (update name p u) s).1 ≠ .error e
  | drop name => SortedStore.isReserved name = false
  | listCollections _ => True
  | createIndex i => SortedStore.isReserved i.collection = false
  | listIndexes name => SortedStore.isReserved name = false

/-- The answers to a command agree.  The order in which documents are found counts only if it
is asked for by id; nothing is said about lists of indexes. -/
def AnswersAgree : Command α → Except Error α → Except Error α → Prop
  | find _ _ options, a, b => ∃ found found', a = .ok found ∧ b = .ok found'
      ∧ (options.skip = 0 → options.limit = none → found.Perm found')
      ∧ (options.sort.SortsById → found = found')
  | listIndexes _, _, _ => True
  | count .., a, b => a = b
  | insert .., a, b => a = b
  | replace .., a, b => a = b
  | update .., a, b => a = b
  | drop _, a, b => a = b
  | listCollections _, a, b => a = b
  | createIndex _, a, b => a = b

end Command

/-- Both stores are valid and store the same under the same names. -/
structure SideBySide (s : MemoryStore) (t : SortedStore) : Prop where
  valid_memory : s.Valid
  valid_sorted : t.Valid
  documents : SameDocuments s t
  names : SameNames s t

namespace SideBySide

variable {s : MemoryStore} {t : SortedStore}

theorem empty :
  SideBySide {} {}
  where
  valid_memory := MemoryStore.Valid.empty
  valid_sorted := SortedStore.Valid.empty
  documents name := by
    change List.Perm [] (SortedStore.docs (SortedStore.tree {} name))
    rw [SortedStore.tree]
    split
    · rfl
    · rfl
  names := ⟨rfl, by simp [Assoc.keys]⟩

/-- A definite command keeps the names the same. -/
theorem sameNames_exec (h : SideBySide s t) (c : Command α) (hc : c.Definite s) :
  SameNames (DocumentStore.exec c s).2 (DocumentStore.exec c t).2
  := by
  cases c with
  | find name p options => exact h.names
  | count name p => exact h.names
  | insert name d =>
      obtain ⟨_, hs⟩ := s.exists_collections_insert name d
      obtain ⟨_, ht⟩ := t.exists_trees_writing hc (SortedStore.insertNew name d)
      apply h.names.set hc hs ht
  | replace name p d upsert =>
      obtain ⟨_, hs⟩ := s.exists_collections_replace name p d upsert
      obtain ⟨_, ht⟩ := t.exists_trees_writing hc.1 (SortedStore.replaceFirst name p d upsert)
      apply h.names.set hc.1 hs ht
  | update name p u =>
      obtain ⟨hr, hone, hok⟩ := hc
      obtain ⟨hf, hf'⟩ | ⟨d, e, changed, hf, hf', hu⟩ :=
        h.documents.update_cases h.valid_memory hone hok
      · -- An update is the one write that makes no collection where it finds nothing.
        rw [LawfulStore.exec_update_unmatched (s := s) h.valid_memory u hf,
          LawfulStore.exec_update_unmatched (s := t) h.valid_sorted u hf']
        apply h.names
      · obtain ⟨_, hs⟩ := h.valid_memory.exists_collections_update u hf
        obtain ⟨_, ht⟩ := h.valid_sorted.exists_trees_update hf' hu
        apply h.names.set hr hs ht
  | drop name => exact h.names.drop hc
  | listCollections wanted => exact h.names
  | createIndex i =>
      obtain ⟨_, ht⟩ := t.exists_trees_createIndex hc
      apply h.names.set hc rfl ht
  | listIndexes name => exact h.names

/-- A definite command is answered alike, and keeps the documents the same. -/
theorem answersAgree_exec (h : SideBySide s t) (c : Command α) (hc : c.Definite s) :
  c.AnswersAgree (DocumentStore.exec c s).1 (DocumentStore.exec c t).1
    ∧ SameDocuments (DocumentStore.exec c s).2 (DocumentStore.exec c t).2
  := by
  obtain ⟨hs, ht, hdocs, hnames⟩ := h
  cases c with
  | find name p options =>
      constructor
      · use options.select p (s.documents name), options.select p (t.documents name)
        rw [LawfulStore.exec_find (s := s) hs, LawfulStore.exec_find (s := t) ht]
        refine ⟨rfl, rfl, ?_, ?_⟩
        · intro hskip hlimit
          apply FindOptions.select_perm hskip hlimit p (hdocs name)
        · intro hsort
          apply FindOptions.select_eq_of_perm hsort p (hdocs name) (hs name).nodup
      · apply hdocs
  | count name p => exact hdocs.inStep_count hs ht name p
  | insert name d => exact hdocs.inStep_insert hs ht trivial hc d
  | replace name p d upsert => exact hdocs.inStep_replace hs ht trivial hc.1 hc.2 d upsert
  | update name p u => exact hdocs.inStep_update hs ht hc.2.1 hc.2.2
  | drop name => exact hdocs.inStep_drop hs ht name
  | listCollections wanted => exact ⟨hnames.exec_listCollections wanted, hdocs⟩
  | createIndex i => exact hdocs.inStep_createIndex hs ht trivial hc
  | listIndexes name => exact ⟨trivial, hdocs⟩

/-- A definite command keeps the stores side by side. -/
theorem exec (h : SideBySide s t) (c : Command α) (hc : c.Definite s) :
  SideBySide (DocumentStore.exec c s).2 (DocumentStore.exec c t).2
  where
  valid_memory := h.valid_memory.exec c
  valid_sorted := h.valid_sorted.exec c
  documents := (h.answersAgree_exec c hc).2
  names := h.sameNames_exec c hc

end SideBySide

/-! ### Commands on a document with a given id -/

namespace Command

variable {s : MemoryStore} {name id : String} {p : Predicate}

/-- A replacement of the document with a given id is definite. -/
theorem definite_replace_of_pinnedId? (h : s.Valid) (hr : SortedStore.isReserved name = false)
    (hid : p.pinnedId? = some id) (d : Document) (upsert : Bool) :
  (replace name p d upsert).Definite s
  := ⟨hr, Predicate.countP_le_one_of_pinnedId? hid (h name).nodup⟩

/-- An update of the document with a given id is definite if it is never refused. -/
theorem definite_update_of_pinnedId? (h : s.Valid) (hr : SortedStore.isReserved name = false)
    (hid : p.pinnedId? = some id) {u : Update}
    (hu : ∀ d, ∃ e changed, u.run d = (e, .ok changed)) :
  (update name p u).Definite s
  := by
  refine ⟨hr, Predicate.countP_le_one_of_pinnedId? hid (h name).nodup, ?_⟩
  intro e he
  obtain ⟨d, d', why, -, hrun, -⟩ :=
    LawfulStore.exists_of_exec_update_error (s := s) h (Prod.ext he rfl)
  obtain ⟨_, _, hok⟩ := hu d
  rw [hok] at hrun
  cases hrun

end Command

/-! ### Runs -/

/-- Commands in a row. -/
abbrev Script := List (Sigma Command)

namespace Script

/-- Every command of a run is definite where it is run. -/
def Definite : Script → MemoryStore → Prop
  | [], _ => True
  | ⟨_, c⟩ :: cs, s => c.Definite s ∧ Definite cs (DocumentStore.exec c s).2

/-- The answers to every command of a run agree in both stores. -/
def AnswersAgree : Script → MemoryStore → SortedStore → Prop
  | [], _, _ => True
  | ⟨_, c⟩ :: cs, s, t =>
      c.AnswersAgree (DocumentStore.exec c s).1 (DocumentStore.exec c t).1
      ∧ AnswersAgree cs (DocumentStore.exec c s).2 (DocumentStore.exec c t).2

theorem answersAgree_of_sideBySide {cs : Script} {s : MemoryStore} {t : SortedStore}
    (h : SideBySide s t) (hcs : cs.Definite s) :
  cs.AnswersAgree s t
  := by
  induction cs generalizing s t with
  | nil => trivial
  | cons c cs ih =>
      obtain ⟨hc, hrest⟩ := hcs
      exact ⟨(h.answersAgree_exec c.2 hc).1, ih (h.exec c.2 hc) hrest⟩

/-- Run from empty stores, definite commands are answered alike by a store in memory and a
sorted one. -/
theorem answersAgree_of_definite {cs : Script} (h : cs.Definite {}) :
  cs.AnswersAgree {} {}
  := answersAgree_of_sideBySide SideBySide.empty h

/-- Two documents are inserted against the order of their ids, one is replaced and the other is
updated; then a window of them is found by descending ids, and the collection is dropped. -/
theorem answersAgree_of_definite_by_id :
  let cs : Script := [
    ⟨_, .insert "cards" ⟨"b", []⟩⟩,
    ⟨_, .insert "cards" ⟨"a", []⟩⟩,
    ⟨_, .replace "cards" (Predicate.hasId "a") ⟨"c", [("Name", .string "Visa")]⟩ true⟩,
    ⟨_, .update "cards" (Predicate.hasId "b") [.set "Name" (.string "Maestro")]⟩,
    ⟨_, .find "cards" .all { sort := [⟨idField, .descending⟩], skip := 1, limit := some 1 }⟩,
    ⟨_, .drop "cards"⟩,
    ⟨_, .listCollections none⟩]
  cs.Definite {} ∧ cs.AnswersAgree {} {}
  := by
  intro cs
  have hr : SortedStore.isReserved "cards" = false := by decide
  have hset : ∀ v d, ∃ e changed, Update.run [.set "Name" v] d = (e, .ok changed) :=
    Update.run_set_eq_ok (by decide) (by decide)
  have hdefinite : cs.Definite {} := by
    have hb := MemoryStore.Valid.empty.exec (.insert "cards" ⟨"b", []⟩)
    have ha := hb.exec (.insert "cards" ⟨"a", []⟩)
    have hreplace := Command.definite_replace_of_pinnedId? ha hr (Predicate.pinnedId?_hasId "a")
      ⟨"c", [("Name", .string "Visa")]⟩ true
    have hc := ha.exec (.replace "cards" (Predicate.hasId "a")
      ⟨"c", [("Name", .string "Visa")]⟩ true)
    have hupdate := Command.definite_update_of_pinnedId? hc hr (Predicate.pinnedId?_hasId "b")
      (hset (.string "Maestro"))
    exact ⟨hr, hr, hreplace, hupdate, hr, hr, trivial, trivial⟩
  exact ⟨hdefinite, answersAgree_of_definite hdefinite⟩

end Script

end AuditedStore
