import AuditedStore.Proofs.Audit.Recording
import AuditedStore.Proofs.Store.Memory
import Mathlib

/-!
# Interleaved recordings

Writers record snapshots of one record, each with its own program counter, and their store
commands are interleaved in any order.  Whichever writer is first makes the container; the
invariant relates the phase of every writer to the snapshots that have been committed.
-/

namespace AuditedStore

namespace Recording

variable {σ : Type} [DocumentStore σ]

/-- Whether the store takes the snapshot with the command of a phase. -/
def commits (r : Recording) (s : σ) : Phase → Bool
  | .append | .retry =>
    match (DocumentStore.exec r.push s).1 with
    | .ok result => 0 < result.matched
    | .error _ => false
  | .create =>
    match (DocumentStore.exec r.start s).1 with
    | .ok () => true
    | .error _ => false
  | .done _ => false

theorem afterPush_eq_done_iff {missing : Phase} {answer : Except Error UpdateResult}
    (h : missing ≠ .done (.ok ())) :
  afterPush missing answer = .done (.ok ())
    ↔ (match answer with
      | .ok result => decide (0 < result.matched)
      | .error _ => false) = true
  := by
  cases answer with
  | error e => simp [afterPush]
  | ok result =>
      rw [afterPush]
      split
      · next hpos => simp [hpos]
      · next hzero => simp [hzero, h]

theorem afterStart_eq_done_iff {answer : Except Error Unit} :
  afterStart answer = .done (.ok ())
    ↔ (match answer with
      | .ok () => true
      | .error _ => false) = true
  := by
  cases answer with
  | ok _ => simp [afterStart]
  | error e => cases e <;> simp [afterStart]

/-- An unfinished recording is finished with success by the command that commits it, and by no
other. -/
theorem commits_iff {r : Recording} {s : σ} {phase : Phase}
    (h : ∀ outcome, phase ≠ .done outcome) :
  r.commits s phase = true ↔ (r.step phase s).1 = .done (.ok ())
  := by
  cases phase with
  | append => exact (afterPush_eq_done_iff (by simp)).symm
  | create => exact afterStart_eq_done_iff.symm
  | retry => exact (afterPush_eq_done_iff (by simp)).symm
  | done outcome => exact absurd rfl (h outcome)

end Recording

/-- Writers that record snapshots of one record with a common cap. -/
structure Writers (ι : Type) where
  collection : String
  id : String
  /-- How many snapshots are kept; zero means all. -/
  cap : Nat
  snapshot : ι → Value

namespace Writers

variable {ι σ : Type}

/-- The recording of a writer. -/
def recording (w : Writers ι) (i : ι) : Recording := ⟨w.collection, w.id, w.snapshot i, w.cap⟩

/-- What the writers do next, and their common store. -/
structure State (ι σ : Type) where
  phase : ι → Recording.Phase
  store : σ

/-- No writer has begun. -/
def State.start (s : σ) : State ι σ := ⟨fun _ => .append, s⟩

/-- A writer goes on to another phase. -/
def State.put [DecidableEq ι] (st : State ι σ) (i : ι) (result : Recording.Phase × σ) :
    State ι σ :=
  ⟨fun j => if j = i then result.1 else st.phase j, result.2⟩

theorem State.phase_put_self [DecidableEq ι] (st : State ι σ) (i : ι) (result : Recording.Phase × σ) :
  (st.put i result).phase i = result.1
  := if_pos rfl

theorem State.phase_put_of_ne [DecidableEq ι] (st : State ι σ) {i j : ι} (result : Recording.Phase × σ)
    (h : j ≠ i) :
  (st.put i result).phase j = st.phase j
  := if_neg h

/-! ### Phases -/

/-- What the phase of a writer says about the writers that are committed. -/
def Fits (taken : List ι) (i : ι) : Recording.Phase → Prop
  | .append => i ∉ taken
  | .create => i ∉ taken
  | .retry => i ∉ taken ∧ taken ≠ []
  | .done outcome => outcome = .ok () ∧ i ∈ taken

/-- What one writer commits does not matter to the phases of the others. -/
theorem Fits.append_singleton {taken : List ι} {i j : ι} {phase : Recording.Phase}
    (h : Fits taken j phase) (hne : j ≠ i) :
  Fits (taken ++ [i]) j phase
  := by
  cases phase with
  | append => simpa [Fits, hne] using h
  | create => simpa [Fits, hne] using h
  | retry => simpa [Fits, hne] using h.1
  | done outcome => exact ⟨h.1, List.mem_append_left [i] h.2⟩

/-- If the phase of one writer fits, those of the others still do. -/
theorem forall_fits_put [DecidableEq ι] {taken : List ι} {st : State ι σ} {i : ι}
    {result : Recording.Phase × σ} (hi : Fits taken i result.1)
    (hothers : ∀ j, j ≠ i → Fits taken j (st.phase j)) (j : ι) :
  Fits taken j ((st.put i result).phase j)
  := by
  by_cases hj : j = i
  · rw [hj, State.phase_put_self]
    apply hi
  · rw [State.phase_put_of_ne st result hj]
    apply hothers j hj

/-! ### Steps -/

variable [DocumentStore σ]

/-- A writer does its next command. -/
def step [DecidableEq ι] (w : Writers ι) (st : State ι σ) (i : ι) : State ι σ :=
  st.put i ((w.recording i).step (st.phase i) st.store)

/-- The writers do their commands in the order of a schedule. -/
def run [DecidableEq ι] (w : Writers ι) (st : State ι σ) (schedule : List ι) : State ι σ :=
  schedule.foldl w.step st

/-- Whether the store takes the snapshot of a writer with its next command. -/
def commits (w : Writers ι) (st : State ι σ) (i : ι) : Bool :=
  (w.recording i).commits st.store (st.phase i)

/-- The committed writers after the next command of a writer. -/
def extend (w : Writers ι) (st : State ι σ) (taken : List ι) (i : ι) : List ι :=
  if w.commits st i then taken ++ [i] else taken

/-- The writers whose snapshots the store takes along a schedule, in that order. -/
def committed [DecidableEq ι] (w : Writers ι) : State ι σ → List ι → List ι
  | _, [] => []
  | st, i :: schedule =>
    if w.commits st i then i :: w.committed (w.step st i) schedule
    else w.committed (w.step st i) schedule

/-- A recording that is not finished commits with the step that finishes it. -/
theorem commits_iff {w : Writers ι} {st : State ι σ} {i : ι} {t : σ}
    {phase : Recording.Phase} (hne : ∀ outcome, st.phase i ≠ .done outcome)
    (hstep : (w.recording i).step (st.phase i) st.store = (phase, t)) :
  w.commits st i = true ↔ phase = .done (.ok ())
  := by
  rw [commits, Recording.commits_iff hne, hstep]

theorem extend_append [DecidableEq ι] (w : Writers ι) (st : State ι σ) (taken : List ι) (i : ι)
    (schedule : List ι) :
  w.extend st taken i ++ w.committed (w.step st i) schedule
    = taken ++ w.committed st (i :: schedule)
  := by
  rw [extend, committed]
  split
  · apply List.append_cons .. |>.symm
  · rfl

/-! ### The invariant -/

open LawfulStore

variable [LawfulStore σ]

/-- The container has the newest of the committed snapshots in the order of their commits, and
the phases of all writers fit to that. -/
structure Invariant (w : Writers ι) (taken : List ι) (st : State ι σ) : Prop where
  valid : Valid st.store
  container : lookup? st.store w.collection w.id
    = AuditContainer.stored? w.id (keepNewest w.cap (taken.map w.snapshot))
  nodup : taken.Nodup
  fits : ∀ i, Fits taken i (st.phase i)

variable {w : Writers ι} {taken : List ι} {st : State ι σ} {i : ι} {t : σ}

theorem Invariant.start {s : σ} (hs : Valid s) (hl : lookup? s w.collection w.id = none) :
  Invariant w [] (State.start s)
  := by
  constructor
  · apply hs
  · rw [State.start, hl, List.map_nil, keepNewest_nil]
    rfl
  · apply List.nodup_nil
  · intro i
    apply List.not_mem_nil

/-- As long as nothing is committed there is no container. -/
theorem Invariant.lookup?_eq_none (h : Invariant w [] st) :
  lookup? st.store w.collection w.id = none
  := by
  rw [h.container, List.map_nil, keepNewest_nil]
  rfl

/-- As soon as something is committed there is a container. -/
theorem Invariant.lookup?_eq_some (h : Invariant w taken st) (hne : taken ≠ []) :
  lookup? st.store w.collection w.id
    = some (AuditContainer.ofSnapshots w.id (keepNewest w.cap (taken.map w.snapshot)))
  := by
  rw [h.container]
  apply AuditContainer.stored?_of_ne_nil
  rw [← List.dropLast_append_getLast hne, List.map_append]
  apply keepNewest_append_singleton_ne_nil

/-! ### Runs -/

variable [DecidableEq ι]

/-- A writer that goes on without a commit keeps the invariant. -/
theorem Invariant.pass {phase : Recording.Phase} (h : Invariant w taken st)
    (hstep : (w.recording i).step (st.phase i) st.store = (phase, t))
    (hcommits : w.commits st i = false) (hvalid : Valid t)
    (hdocs : documents t = documents st.store) (hfits : Fits taken i phase) :
  Invariant w (w.extend st taken i) (w.step st i)
  := by
  rw [extend, hcommits, Writers.step, hstep]
  constructor
  · apply hvalid
  · change lookup? t w.collection w.id = _
    rw [lookup?, hdocs]
    apply h.container
  · apply h.nodup
  · apply forall_fits_put hfits
    intro j _
    apply h.fits

/-- A writer whose snapshot is added to the container keeps the invariant. -/
theorem Invariant.commit (h : Invariant w taken st)
    (hstep : (w.recording i).step (st.phase i) st.store = (.done (.ok ()), t))
    (hcommits : w.commits st i = true) (hi : i ∉ taken) (hvalid : Valid t)
    (hputs : Puts w.collection
      ((w.recording i).result (keepNewest w.cap (taken.map w.snapshot))) st.store t) :
  Invariant w (w.extend st taken i) (w.step st i)
  := by
  rw [extend, hcommits, Writers.step, hstep]
  constructor
  · apply hvalid
  · change lookup? t w.collection w.id = _
    have hself := hputs.lookup?_self
    rw [Recording.result, recording, keepNewest_keepNewest_append] at hself
    rw [if_pos rfl, List.map_append, AuditContainer.stored?_of_ne_nil]
    · apply hself
    · apply keepNewest_append_singleton_ne_nil
  · rw [if_pos rfl]
    apply h.nodup.append (List.nodup_singleton i)
    apply List.disjoint_singleton.mpr hi
  · apply forall_fits_put
    · exact ⟨rfl, List.mem_append_right taken (List.mem_singleton.mpr rfl)⟩
    · intro j hj
      apply (h.fits j).append_singleton hj

/-- Every command of a writer keeps the invariant: it either commits the snapshot of the
writer, after all that are committed already, or leaves the committed ones as they are. -/
theorem Invariant.step (h : Invariant w taken st) (ha : Accepts σ w.collection) (i : ι) :
  Invariant w (w.extend st taken i) (w.step st i)
  := by
  have hfits := h.fits i
  cases hphase : st.phase i with
  | append =>
      rw [hphase] at hfits
      by_cases hnil : taken = []
      · subst hnil
        have hstep := Recording.step_append_missing (r := w.recording i) h.valid h.lookup?_eq_none
        rw [← hphase] at hstep
        apply h.pass hstep _ h.valid rfl hfits
        rw [← Bool.not_eq_true, commits_iff (by simp [hphase]) hstep]
        simp
      · obtain ⟨t, hstep, hvalid, hputs⟩ :=
          Recording.step_append (r := w.recording i) h.valid (h.lookup?_eq_some hnil)
        rw [← hphase] at hstep
        apply h.commit hstep _ hfits hvalid hputs
        rw [commits_iff (by simp [hphase]) hstep]
  | create =>
      rw [hphase] at hfits
      by_cases hnil : taken = []
      · subst hnil
        obtain ⟨t, hstep, hvalid, hputs⟩ :=
          Recording.step_create (r := w.recording i) h.valid ha h.lookup?_eq_none
        rw [← hphase] at hstep
        apply h.commit hstep _ hfits hvalid
        · rw [List.map_nil, keepNewest_nil]
          apply hputs
        · rw [commits_iff (by simp [hphase]) hstep]
      · obtain ⟨t, hstep, hvalid, hdocs⟩ :=
          Recording.step_create_taken (r := w.recording i) h.valid ha (h.lookup?_eq_some hnil)
        rw [← hphase] at hstep
        apply h.pass hstep _ hvalid hdocs ⟨hfits, hnil⟩
        rw [← Bool.not_eq_true, commits_iff (by simp [hphase]) hstep]
        simp
  | retry =>
      rw [hphase] at hfits
      obtain ⟨hi, hne⟩ := hfits
      obtain ⟨t, hstep, hvalid, hputs⟩ :=
        Recording.step_retry (r := w.recording i) h.valid (h.lookup?_eq_some hne)
      rw [← hphase] at hstep
      apply h.commit hstep _ hi hvalid hputs
      rw [commits_iff (by simp [hphase]) hstep]
  | done outcome =>
      have hstep : (w.recording i).step (st.phase i) st.store = (.done outcome, st.store) := by
        rw [hphase]
        rfl
      rw [hphase] at hfits
      apply h.pass hstep _ h.valid rfl hfits
      rw [commits, hphase]
      rfl

/-- The invariant holds along every schedule. -/
theorem Invariant.run (h : Invariant w taken st) (ha : Accepts σ w.collection)
    (schedule : List ι) :
  Invariant w (taken ++ w.committed st schedule) (w.run st schedule)
  := by
  induction schedule generalizing taken st with
  | nil =>
      rw [committed, List.append_nil]
      apply h
  | cons i schedule ih =>
      have hrest := ih (h.step ha i)
      rw [extend_append] at hrest
      apply hrest

/-- Let any number of writers record snapshots under an id that has no container yet, with
their commands interleaved in any order.  There is never more than one container, no writer
ever fails, and the writers that are done are those that are committed, each once.  The
container has the newest of their snapshots, in the order in which they were committed. -/
theorem run_interleaved (w : Writers ι) {s : MemoryStore} (hs : Reaches {} s)
    (hfree : ∀ d ∈ s.documents w.collection, d.id ≠ w.id) (schedule : List ι) :
  let st := w.run (State.start s) schedule
  let taken := w.committed (State.start s) schedule
  (st.store.documents w.collection).countP (fun d => d.id == w.id) ≤ 1
    ∧ (∀ i e, st.phase i ≠ .done (.error e))
    ∧ taken.Nodup
    ∧ (∀ i, i ∈ taken ↔ st.phase i = .done (.ok ()))
    ∧ Document.withId? w.id (st.store.documents w.collection)
      = AuditContainer.stored? w.id
        (if w.cap = 0 then taken.map w.snapshot
          else (taken.map w.snapshot).drop (taken.length - w.cap))
  := by
  intro st taken
  have hvalid : s.Valid := hs.valid MemoryStore.Valid.empty
  have hl : lookup? s w.collection w.id = none := by
    apply Document.withId?_eq_none_iff.mpr
    intro hmem
    obtain ⟨d, hd, hid⟩ := List.mem_map.mp hmem
    exact hfree d hd hid
  have h : Invariant w taken st := (Invariant.start hvalid hl).run trivial schedule
  refine ⟨?_, ?_, h.nodup, ?_, ?_⟩
  · have hcount := List.nodup_iff_count_le_one.mp (nodup_ids h.valid w.collection) w.id
    rw [List.count, List.countP_map] at hcount
    apply hcount
  · intro i e hphase
    have hfits := h.fits i
    rw [hphase] at hfits
    cases hfits.1
  · intro i
    have hfits := h.fits i
    constructor
    · intro hi
      cases hphase : st.phase i with
      | append =>
          rw [hphase] at hfits
          exact absurd hi hfits
      | create =>
          rw [hphase] at hfits
          exact absurd hi hfits
      | retry =>
          rw [hphase] at hfits
          exact absurd hi hfits.1
      | done outcome =>
          rw [hphase] at hfits
          rw [hfits.1]
    · intro hphase
      rw [hphase] at hfits
      apply hfits.2
  · have hcontainer := h.container
    rw [keepNewest, List.length_map] at hcontainer
    apply hcontainer

/-- Two writers find no container, and both try to make it. -/
theorem run_interleaved_race :
  ∃ st : State Bool MemoryStore,
    st = run ⟨"t", "a", 0, fun first => .bool first⟩ (State.start {}) [true, false, true, false, false]
    ∧ (∀ i e, st.phase i ≠ .done (.error e))
    ∧ Document.withId? "a" (st.store.documents "t")
      = some ⟨"a", [(auditItemsField, .array [.bool true, .bool false])]⟩
  := by
  obtain ⟨-, herrors, -, -, hcontainer⟩ := run_interleaved ⟨"t", "a", 0, fun first => .bool first⟩
    (Reaches.start : Reaches ({} : MemoryStore) {}) (by decide) [true, false, true, false, false]
  refine ⟨_, rfl, herrors, ?_⟩
  have htaken : committed ⟨"t", "a", 0, fun first => .bool first⟩ (State.start ({} : MemoryStore))
      [true, false, true, false, false] = [true, false] := by
    cbv
  rw [htaken] at hcontainer
  apply hcontainer

end Writers

end AuditedStore
