import AuditedStore.Proofs.Store.Agreement
import AuditedStore.Proofs.Store.Embedded

/-!
# Runs of commands

The state of a store after commands in a row.  An embedded store runs them in the store inside,
so that it stays a store of its kind.  What a run has begun and not ended again is settled by its
last command and the run before.
-/

namespace AuditedStore.Script

/-- The state after a run. -/
def run {σ : Type} [DocumentStore σ] (cs : Script) (s : σ) : σ :=
  cs.foldl (fun s c => (DocumentStore.exec c.2 s).2) s

section Run

variable {σ : Type} [DocumentStore σ]

theorem run_append (cs ds : Script) (s : σ) :
  run (cs ++ ds) s = ds.run (cs.run s)
  := List.foldl_append

theorem run_concat (cs : Script) (c : Sigma Command) (s : σ) :
  run (cs ++ [c]) s = (DocumentStore.exec c.2 (cs.run s)).2
  := run_append cs [c] s

end Run

theorem run_memory (cs : Script) (s : MemoryStore) :
  cs.run (EmbeddedStore.memory s) = .memory (cs.run s)
  := by
  induction cs using List.reverseRecOn with
  | nil => rfl
  | append_singleton cs c ih => rw [run_concat, run_concat, ih, EmbeddedStore.exec_memory]

theorem run_sorted (cs : Script) (s : SortedStore) :
  cs.run (EmbeddedStore.sorted s) = .sorted (cs.run s)
  := by
  induction cs using List.reverseRecOn with
  | nil => rfl
  | append_singleton cs c ih => rw [run_concat, run_concat, ih, EmbeddedStore.exec_sorted]

/-! ### Since a command of a run -/

/-- A command of a run begins something, after the commands before it, and no later one ends it. -/
def Since (begins : Script → Sigma Command → Prop) (ends : Sigma Command → Prop) (cs : Script) :
    Prop :=
  ∃ before c after, cs = before ++ c :: after ∧ begins before c ∧ ∀ d ∈ after, ¬ ends d

variable {begins : Script → Sigma Command → Prop} {ends : Sigma Command → Prop}

theorem not_since_nil :
  ¬ Since begins ends []
  := by
  rintro ⟨before, c, after, h, -⟩
  exact List.append_ne_nil_of_right_ne_nil before (List.cons_ne_nil _ _) h.symm

/-- The last command of a run begins it, or the run before has begun it and the last command does
not end it. -/
theorem since_concat_iff {cs : Script} {c : Sigma Command} :
  Since begins ends (cs ++ [c]) ↔ begins cs c ∨ Since begins ends cs ∧ ¬ ends c
  := by
  constructor
  · rintro ⟨before, first, after, h, hbegins, hafter⟩
    rcases List.eq_nil_or_concat after with rfl | ⟨after, last, rfl⟩
    · obtain ⟨rfl, hlast⟩ := List.append_inj' h rfl
      obtain rfl := List.singleton_inj.mp hlast
      exact Or.inl hbegins
    · rw [List.concat_eq_append] at h hafter
      rw [← List.cons_append, ← List.append_assoc] at h
      obtain ⟨rfl, hlast⟩ := List.append_inj' h rfl
      obtain rfl := List.singleton_inj.mp hlast
      refine Or.inr ⟨⟨before, first, after, rfl, hbegins, fun d hd => ?_⟩, ?_⟩
      · exact hafter d (List.mem_append_left _ hd)
      · exact hafter c (List.mem_append_right _ List.mem_cons_self)
  · rintro (hbegins | ⟨⟨before, first, after, rfl, hbegins, hafter⟩, hc⟩)
    · exact ⟨cs, c, [], rfl, hbegins, fun _ hd => absurd hd List.not_mem_nil⟩
    · refine ⟨before, first, after ++ [c], by simp, hbegins, fun d hd => ?_⟩
      rcases List.mem_append.mp hd with hd | hd
      · exact hafter d hd
      · obtain rfl := List.mem_singleton.mp hd
        exact hc

end AuditedStore.Script
