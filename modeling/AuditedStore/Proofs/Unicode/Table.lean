import AuditedStore.Unicode.Table

/-!
# Sets of ranges

The operations on tables are those on the sets of their characters.  Both operations go
through the ranges in the order of their first code points: behind a code point that no range
reaches, the ranges that are left cannot reach it either.
-/

namespace AuditedStore.Unicode.RangeTable

/-- Some of the ranges has a code point. -/
def Covers (ranges : List (Nat × Nat)) (n : Nat) : Prop := ∃ r ∈ ranges, r.1 ≤ n ∧ n ≤ r.2

/-- The first code points of the ranges ascend. -/
def IsAscending (ranges : List (Nat × Nat)) : Prop := ranges.Pairwise fun r s => r.1 ≤ s.1

variable {ranges : List (Nat × Nat)} {r : Nat × Nat} {n : Nat}

theorem contains_iff {t : RangeTable} {c : Char} :
  t.contains c = true ↔ Covers t.ranges c.toNat
  := by
  simp only [contains, Covers, List.any_eq_true, Bool.and_eq_true, decide_eq_true_eq]

theorem covers_cons :
  Covers (r :: ranges) n ↔ (r.1 ≤ n ∧ n ≤ r.2) ∨ Covers ranges n
  := by
  simp only [Covers, List.mem_cons, exists_eq_or_imp]

/-! ### Ranges in order -/

theorem covers_ascending :
  Covers (ascending ranges) n ↔ Covers ranges n
  := by
  simp only [Covers, ascending, List.mem_mergeSort]

theorem isAscending_ascending (ranges : List (Nat × Nat)) :
  IsAscending (ascending ranges)
  := by
  have h : (ascending ranges).Pairwise fun r s => decide (r.1 ≤ s.1) = true := by
    apply List.pairwise_mergeSort
    · intro a b c hab hbc
      simp only [decide_eq_true_eq] at *
      omega
    · intro a b
      simp only [Bool.or_eq_true, decide_eq_true_eq]
      omega
  exact h.imp of_decide_eq_true

/-- A code point before the first range of ranges in order is in none of them. -/
theorem not_covers_of_lt (h : IsAscending (r :: ranges)) (hn : n < r.1) :
  ¬ Covers (r :: ranges) n
  := by
  rintro ⟨s, hs, hfirst, -⟩
  rcases List.mem_cons.mp hs with rfl | hs
  · omega
  · have := List.rel_of_pairwise_cons h hs
    omega

/-! ### Unions -/

/-- Joining ranges keeps their code points. -/
theorem covers_joinFrom {first last : Nat} (h : IsAscending ((first, last) :: ranges)) :
  Covers (joinFrom first last ranges) n ↔ Covers ((first, last) :: ranges) n
  := by
  induction ranges generalizing first last with
  | nil => rfl
  | cons r ranges ih =>
      obtain ⟨a, b⟩ := r
      obtain ⟨hfirst, htail⟩ := List.pairwise_cons.mp h
      have ha : first ≤ a := hfirst (a, b) List.mem_cons_self
      rw [joinFrom]
      split
      · next hle =>
          have hjoined : IsAscending ((first, max last b) :: ranges) :=
            List.pairwise_cons.mpr
              ⟨fun r hr => hfirst r (List.mem_cons_of_mem _ hr), htail.of_cons⟩
          rw [ih hjoined, covers_cons, covers_cons, covers_cons, ← or_assoc]
          apply or_congr_left
          dsimp only
          omega
      · rw [covers_cons, covers_cons, ih htail]

/-- A character is in a union if it is in one of the tables. -/
theorem contains_unionAll (ts : List RangeTable) (c : Char) :
  (unionAll ts).contains c = ts.any fun t => t.contains c
  := by
  have hcovers : Covers (unionAll ts).ranges c.toNat
      ↔ Covers (ts.flatMap (·.ranges)) c.toNat := by
    have hasc := isAscending_ascending (ts.flatMap (·.ranges))
    refine Iff.trans ?_ covers_ascending
    cases hr : ascending (ts.flatMap (·.ranges)) with
    | nil => simp only [unionAll, hr]
    | cons r ranges =>
        rw [hr] at hasc
        simp only [unionAll, hr]
        apply covers_joinFrom hasc
  rw [Bool.eq_iff_iff, contains_iff, hcovers, List.any_eq_true]
  simp only [contains_iff]
  constructor
  · rintro ⟨r, hr, hn⟩
    obtain ⟨t, ht, hrt⟩ := List.mem_flatMap.mp hr
    exact ⟨t, ht, r, hrt, hn⟩
  · rintro ⟨t, ht, r, hrt, hn⟩
    exact ⟨r, List.mem_flatMap.mpr ⟨t, ht, hrt⟩, hn⟩

/-! ### Complements -/

/-- The gaps from a code point on are what is left of the code points from there. -/
theorem covers_gapsFrom {next : Nat} (h : IsAscending ranges) (hn : n ≤ lastCodePoint) :
  Covers (gapsFrom next ranges) n ↔ next ≤ n ∧ ¬ Covers ranges n
  := by
  induction ranges generalizing next with
  | nil =>
      rw [gapsFrom]
      split
      · simp [Covers, hn]
      · next hnext =>
          have hlt : ¬ next ≤ n := by omega
          simp [Covers, hlt]
  | cons r ranges ih =>
      obtain ⟨first, last⟩ := r
      -- the code points of the first gap lie before all ranges that are left
      have hbefore := not_covers_of_lt (n := n) h
      rw [covers_cons] at hbefore ⊢
      rw [gapsFrom]
      dsimp only at hbefore ⊢
      split
      · rw [covers_cons, ih h.of_cons]
        grind
      · rw [ih h.of_cons]
        grind

/-- A character is in a complement if it is not in the table. -/
theorem contains_complement (t : RangeTable) (c : Char) :
  t.complement.contains c = !t.contains c
  := by
  have hn : c.toNat ≤ lastCodePoint := by
    have hvalid : c.toNat < 0xD800 ∨ (0xDFFF < c.toNat ∧ c.toNat < 0x110000) := c.valid
    rw [lastCodePoint]
    omega
  rw [Bool.eq_iff_iff, Bool.not_eq_true', Bool.eq_false_iff, Ne, contains_iff, contains_iff,
    complement, covers_gapsFrom (isAscending_ascending _) hn, covers_ascending]
  simp only [Nat.zero_le, true_and]

/-- A character is in a difference if it is in the first table and not in the second. -/
theorem contains_without (t u : RangeTable) (c : Char) :
  (t.without u).contains c = (t.contains c && !u.contains c)
  := by
  rw [without, contains_complement, contains_unionAll]
  simp only [List.any_cons, List.any_nil, contains_complement, Bool.or_false, Bool.not_or,
    Bool.not_not]

end AuditedStore.Unicode.RangeTable
