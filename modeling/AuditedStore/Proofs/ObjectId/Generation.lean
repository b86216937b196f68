import AuditedStore.ObjectId
import Mathlib.Data.List.Induction
import Mathlib.Data.List.Nodup
import Mathlib.Tactic.Ring
import Mathlib.Tactic.Use

/-!
# Ids that a generator makes

An id tells the second it was made in, modulo `2 ^ 32`, and the counter of its generator, modulo
`2 ^ 24`.  The counter goes up by one with each id and wraps around, so that ids of one second
differ as long as there are no more of them than there are counters; ids of different seconds differ
as long as the seconds are less than `2 ^ 32` apart.
-/

namespace AuditedStore

/-! ### Lists in ascending order -/

/-- Numbers that ascend along a list and are equal at two places are equal between them. -/
theorem length_le_countP {α : Type} {items : List α} {f : α → Int}
    (hmono : items.Pairwise fun a b => f a ≤ f b) {i j : Nat} (hij : i < j)
    (hj : j < items.length) (hf : f items[i] = f items[j]) :
  j - i + 1 ≤ items.countP fun a => f a = f items[i]
  := by
  have hle : ∀ a b (ha : a < items.length) (hb : b < items.length), a ≤ b →
      f items[a] ≤ f items[b] := by
    intro a b ha hb hab
    rcases Nat.eq_or_lt_of_le hab with rfl | hlt
    · apply le_refl
    · apply List.pairwise_iff_getElem.mp hmono a b ha hb hlt
  have hsublist : ((items.drop i).take (j - i + 1)).Sublist items :=
    (List.take_sublist _ _).trans (List.drop_sublist _ _)
  have hall : ((items.drop i).take (j - i + 1)).countP (fun a => f a = f items[i])
      = ((items.drop i).take (j - i + 1)).length := by
    apply List.countP_eq_length.mpr
    intro t ht
    obtain ⟨k, hk, rfl⟩ := List.mem_iff_getElem.mp ht
    simp only [List.length_take, List.length_drop] at hk
    simp only [List.getElem_take, List.getElem_drop, decide_eq_true_eq]
    apply le_antisymm
    · rw [hf]
      apply hle
      omega
    · apply hle
      omega
  have hlength : ((items.drop i).take (j - i + 1)).length = j - i + 1 := by
    rw [List.length_take, List.length_drop]
    omega
  rw [← hlength, ← hall]
  apply hsublist.countP_le

namespace ObjectId

/-! ### Numbers as bytes -/

/-- The lowest bytes of a number are read back as the number without its higher bytes. -/
theorem foldl_lowBytes (m n count : Nat) :
  (lowBytes n count).foldl (fun n b => 256 * n + b.toNat) m
    = m * 256 ^ count + n % 256 ^ count
  := by
  induction count generalizing m with
  | zero => simp [lowBytes, Nat.mod_one]
  | succ count ih =>
      have hbyte : (UInt8.ofNat (n / 256 ^ count)).toNat = n / 256 ^ count % 256 :=
        UInt8.toNat_ofNat'
      rw [lowBytes, List.foldl_cons, ih, Nat.mod_pow_succ, hbyte]
      ring

theorem bigEndian_lowBytes (n count : Nat) :
  bigEndian (lowBytes n count) = n % 256 ^ count
  := by rw [bigEndian, foldl_lowBytes, Nat.zero_mul, Nat.zero_add]

namespace Generator

variable {g : Generator} {instants : List Instant}

/-! ### What an id tells -/

/-- The instant of an id that is made is the second it is made in, modulo `2 ^ 32`. -/
theorem instant_next (g : Generator) (now : Instant) :
  (g.next now).1.instant = ⟨now.seconds % 2 ^ 32, 0⟩
  := by
  have htake : (g.next now).1.bytes.take 4 = lowBytes (now.seconds % 2 ^ 32).toNat 4 := by
    simp [next]
  rw [instant, htake, bigEndian_lowBytes]
  congr 1
  omega

/-- The last three bytes of an id that is made are the counter, modulo `2 ^ 24`. -/
theorem bigEndian_counter_next (g : Generator) (now : Instant) :
  bigEndian ((g.next now).1.bytes.drop 9) = g.counter.toNat % 2 ^ 24
  := by
  have hdrop : (g.next now).1.bytes.drop 9 = lowBytes g.counter.toNat 3 := by
    simp [next, List.drop_append, g.length_fixed]
  exact hdrop ▸ bigEndian_lowBytes g.counter.toNat 3

/-! ### Runs -/

/-- The ids that a generator makes at instants in turn. -/
def ids : Generator → List Instant → List ObjectId
  | _, [] => []
  | g, now :: instants => (g.next now).1 :: ids (g.next now).2 instants

/-- The generator after a number of ids. -/
def after (g : Generator) (count : Nat) : Generator :=
  { g with counter := g.counter + UInt32.ofNat count }

/-- The counter wraps around at a multiple of `2 ^ 24`. -/
theorem counter_after_mod (g : Generator) (count : Nat) :
  (g.after count).counter.toNat % 2 ^ 24 = (g.counter.toNat + count) % 2 ^ 24
  := by
  rw [after, UInt32.toNat_add, UInt32.toNat_ofNat']
  omega

theorem ids_eq_mapIdx (g : Generator) (instants : List Instant) :
  g.ids instants = instants.mapIdx fun i now => ((g.after i).next now).1
  := by
  induction instants generalizing g with
  | nil => rfl
  | cons now instants ih =>
      have hafter : ∀ i, (g.next now).2.after i = g.after (i + 1) := by
        intro i
        have hone : UInt32.ofNat (i + 1) = 1 + UInt32.ofNat i := by
          rw [Nat.add_comm, UInt32.ofNat_add]
          rfl
        rw [after, after, hone, ← UInt32.add_assoc]
        rfl
      have hzero : g.after 0 = g :=
        congrArg (fun counter => { g with counter := counter }) (UInt32.add_zero g.counter)
      simp only [ids, ih, List.mapIdx_cons, hafter, hzero]

/-- If the seconds that a generator is used in never decrease and are less than `2 ^ 32` apart, and
it makes at most `2 ^ 24` ids in each of them, then all ids that it makes are different, whatever
its counter is at first. -/
theorem nodup_ids (g : Generator) {instants : List Instant}
    (hmono : instants.Pairwise fun s t => s.seconds ≤ t.seconds)
    (hspan : ∀ s ∈ instants, ∀ t ∈ instants, t.seconds - s.seconds < 2 ^ 32)
    (hfew : ∀ second : Int, (instants.countP fun t => t.seconds = second) ≤ 2 ^ 24) :
  (g.ids instants).Nodup
  := by
  rw [ids_eq_mapIdx]
  apply List.pairwise_iff_getElem.mpr
  intro i j hi hj hij heq
  rw [List.length_mapIdx] at hi hj
  simp only [List.getElem_mapIdx] at heq
  have hseconds : instants[i].seconds = instants[j].seconds := by
    have hinstant := congrArg (fun id => (instant id).seconds) heq
    simp only [instant_next] at hinstant
    have hle := List.pairwise_iff_getElem.mp hmono i j hi hj hij
    have hlt := hspan _ (List.getElem_mem hi) _ (List.getElem_mem hj)
    omega
  have hcounter : (g.counter.toNat + i) % 2 ^ 24 = (g.counter.toNat + j) % 2 ^ 24 := by
    have hbytes := congrArg (fun id : ObjectId => bigEndian (id.bytes.drop 9)) heq
    simpa only [bigEndian_counter_next, counter_after_mod] using hbytes
  have hcount := length_le_countP hmono hij hj hseconds
  have hmost := hfew instants[i].seconds
  omega

/-- Two ids of one second, between which the counter wraps around, and one of the next second, in
which the seconds wrap around, are different. -/
theorem nodup_ids_wrapping :
  (ids ⟨[1, 2, 3, 4, 5], rfl, 0xFFFFFFFF⟩
    [⟨2 ^ 32 - 1, 0⟩, ⟨2 ^ 32 - 1, 500⟩, ⟨2 ^ 32, 0⟩]).Nodup
  := by
  apply nodup_ids
  · decide
  · decide
  · intro second
    exact List.countP_le_length.trans (by decide)

end Generator

end ObjectId

end AuditedStore
