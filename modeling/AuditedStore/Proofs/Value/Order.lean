import AuditedStore.Proofs.Binary64.Rounding
import AuditedStore.Value.Order
import Mathlib.Data.String.Basic

/-!
# The order of values

The order of values is total, and it agrees with their equality and with what they feed to a
hash function.  Integers and binary64 numbers are ordered by their places: first by the key of
the nearest binary64 number, and then by the integer part.  That is a lexicographic order of
pairs of integers, so it is transitive although the two kinds are compared by different rules.
From there, and from the order of the kinds, the laws are lifted through arrays and objects by
following what two comparisons in a row say about the third.
-/

namespace AuditedStore

/-! ### Comparisons in a row -/

/-- Three comparisons, of `a` with `b`, of `b` with `c` and of `a` with `c`, where the third
is what the other two say together unless one of these descends. -/
def Chain (ab bc ac : Ordering) : Prop := ab.isLE → bc.isLE → ac = ab.then bc

namespace Chain

theorem of_transCmp {α : Type} (cmp : α → α → Ordering) [Std.TransCmp cmp] (a b c : α) :
  Chain (cmp a b) (cmp b c) (cmp a c)
  := by
  intro hab hbc
  cases h : cmp a b with
  | lt =>
      cases h' : cmp b c with
      | lt => exact Std.TransCmp.lt_trans h h'
      | eq => exact Std.TransCmp.lt_of_lt_of_eq h h'
      | gt => simp [h'] at hbc
  | eq =>
      cases h' : cmp b c with
      | lt => exact Std.TransCmp.lt_of_eq_of_lt h h'
      | eq => exact Std.TransCmp.eq_trans h h'
      | gt => simp [h'] at hbc
  | gt => simp [h] at hab

/-- Comparing by a second rule where a first one finds no difference. -/
theorem andThen {ab bc ac ab' bc' ac' : Ordering} (h : Chain ab bc ac)
    (h' : ab = .eq → bc = .eq → Chain ab' bc' ac') :
  Chain (ab.then ab') (bc.then bc') (ac.then ac')
  := by
  intro hab hbc
  rcases Ordering.isLE_then_iff_or.mp hab with rfl | ⟨rfl, hab'⟩
  · rcases Ordering.isLE_then_iff_or.mp hbc with rfl | ⟨rfl, -⟩
    · rw [h rfl rfl]
      rfl
    · rw [h rfl rfl]
      rfl
  · rcases Ordering.isLE_then_iff_or.mp hbc with rfl | ⟨rfl, hbc'⟩
    · rw [h rfl rfl]
      cases ab' with
      | lt => rfl
      | eq => rfl
      | gt => cases hab'
    · rw [h rfl rfl]
      apply h' rfl rfl hab' hbc'

end Chain

/-! ### Keys -/

/-- Two binary64 numbers have the same key exactly if they have the same bits. -/
theorem Binary64.key_eq_key_iff {x y : Binary64} :
  x.key = y.key ↔ x.bits = y.bits
  := by
  constructor
  · intro h
    rw [Binary64.eq_of_key_eq h]
  · intro h
    rw [Binary64.key, Binary64.key, Binary64.isNegative, Binary64.isNegative, Binary64.magnitude,
      Binary64.magnitude, h]

namespace Value

/-! ### Kinds -/

/-- Two values of different kinds compare as their kinds do. -/
theorem compareTo_of_rank_ne {a b : Value} (h : a.rank ≠ b.rank) :
  a.compareTo b = compare a.rank b.rank
  := by
  cases a <;> cases b <;> first | rfl | exact absurd rfl h

/-- Comparing the kinds first makes no difference. -/
theorem rank_then_compareTo (a b : Value) :
  (compare a.rank b.rank).then (a.compareTo b) = a.compareTo b
  := by
  by_cases h : a.rank = b.rank
  · rw [Nat.compare_eq_eq.mpr h, Ordering.eq_then]
  · rw [compareTo_of_rank_ne h, Ordering.then_self]

/-! ### Numbers -/

/-- The place of a number: the key of the nearest binary64 number, and the integer part,
which for all numbers past the integers is the first one past them. -/
def place : Value → Int × Int
  | int i => ((Binary64.ofInt i.toInt).key, i.toInt)
  | float x => (x.key, if Binary64.pastInt64.key ≤ x.key then 2 ^ 63 else x.toInt64.toInt)
  | _ => (0, 0)

/-- Compares two places, the first numbers first. -/
def comparePlaces (p q : Int × Int) : Ordering := (compare p.1 q.1).then (compare p.2 q.2)

theorem comparePlaces_swap (p q : Int × Int) :
  comparePlaces q p = (comparePlaces p q).swap
  := by
  rw [comparePlaces, comparePlaces, Ordering.swap_then, Int.compare_swap, Int.compare_swap]

theorem chain_comparePlaces (p q r : Int × Int) :
  Chain (comparePlaces p q) (comparePlaces q r) (comparePlaces p r)
  := by
  have hkeys : Chain (compare p.1 q.1) (compare q.1 r.1) (compare p.1 r.1) :=
    Chain.of_transCmp compare p.1 q.1 r.1
  apply hkeys.andThen fun _ _ => Chain.of_transCmp compare p.2 q.2 r.2

/-- Integers are ordered by the numbers nearest to them as far as these differ. -/
theorem compare_eq_comparePlaces (i j : Int64) :
  compare i.toInt j.toInt = comparePlaces (int i).place (int j).place
  := by
  rw [comparePlaces, place, place]
  dsimp only
  rcases Int.lt_trichotomy i.toInt j.toInt with hlt | heq | hgt
  · have hkey := Binary64.key_ofInt_mono (Int.le_of_lt hlt)
    rw [Int.compare_eq_lt.mpr hlt]
    rcases Int.le_iff_lt_or_eq.mp hkey with hkey | hkey
    · rw [Int.compare_eq_lt.mpr hkey, Ordering.lt_then]
    · rw [Int.compare_eq_eq.mpr hkey, Ordering.eq_then]
  · rw [heq, Int.compare_eq_eq.mpr rfl, Int.compare_eq_eq.mpr rfl, Ordering.eq_then]
  · have hkey := Binary64.key_ofInt_mono (Int.le_of_lt hgt)
    rw [Int.compare_eq_gt.mpr hgt]
    rcases Int.le_iff_lt_or_eq.mp hkey with hkey | hkey
    · rw [Int.compare_eq_gt.mpr hkey, Ordering.gt_then]
    · rw [Int.compare_eq_eq.mpr hkey.symm, Ordering.eq_then]

/-- An integer is compared with a binary64 number by their places. -/
theorem compareIntFloat_eq_comparePlaces (i : Int64) (x : Binary64) :
  compareIntFloat i x = comparePlaces (int i).place (float x).place
  := by
  rw [compareIntFloat, comparePlaces, place, place, Binary64.totalCompare]
  dsimp only
  cases compare (Binary64.ofInt i.toInt).key x.key with
  | lt => rfl
  | gt => rfl
  | eq =>
      dsimp only
      rw [Ordering.eq_then]
      split
      · symm
        apply Int.compare_eq_lt.mpr i.toInt_lt
      · rfl

theorem totalCompare_eq_comparePlaces (x y : Binary64) :
  x.totalCompare y = comparePlaces (float x).place (float y).place
  := by
  rw [comparePlaces, place, place, Binary64.totalCompare]
  dsimp only
  cases h : compare x.key y.key with
  | lt => rfl
  | gt => rfl
  | eq =>
      obtain rfl := Binary64.eq_of_key_eq (Int.compare_eq_eq.mp h)
      rw [Int.compare_eq_eq.mpr rfl, Ordering.eq_then]

/-- Numbers of either kind are compared by their places. -/
theorem compareTo_of_numbers {a b : Value} (ha : a.rank = 2) (hb : b.rank = 2) :
  a.compareTo b = comparePlaces a.place b.place
  := by
  cases a with
  | int i =>
      cases b with
      | int j => exact compare_eq_comparePlaces i j
      | float y => exact compareIntFloat_eq_comparePlaces i y
      | _ => cases hb
  | float x =>
      cases b with
      | int j =>
          rw [comparePlaces_swap, ← compareIntFloat_eq_comparePlaces]
          rfl
      | float y => exact totalCompare_eq_comparePlaces x y
      | _ => cases hb
  | _ => cases ha

/-! ### Transitivity -/

/-- A chain of comparisons has to be shown for values of one kind only. -/
theorem chain_of_rank_eq {a b c : Value}
    (h : a.rank = b.rank → b.rank = c.rank →
      Chain (a.compareTo b) (b.compareTo c) (a.compareTo c)) :
  Chain (a.compareTo b) (b.compareTo c) (a.compareTo c)
  := by
  have hranks : Chain (compare a.rank b.rank) (compare b.rank c.rank) (compare a.rank c.rank) :=
    Chain.of_transCmp compare a.rank b.rank c.rank
  have hkinds := hranks.andThen fun hab hbc =>
    h (Nat.compare_eq_eq.mp hab) (Nat.compare_eq_eq.mp hbc)
  simpa only [rank_then_compareTo] using hkinds

theorem chain_compareTo_numbers {a b c : Value} (ha : a.rank = 2) (hab : a.rank = b.rank)
    (hbc : b.rank = c.rank) :
  Chain (a.compareTo b) (b.compareTo c) (a.compareTo c)
  := by
  have hb : b.rank = 2 := hab.symm.trans ha
  have hc : c.rank = 2 := hbc.symm.trans hb
  rw [compareTo_of_numbers ha hb, compareTo_of_numbers hb hc, compareTo_of_numbers ha hc]
  apply chain_comparePlaces

mutual

/-- Comparing two values with a third between them. -/
theorem chain_compareTo :
  ∀ a b c : Value, Chain (a.compareTo b) (b.compareTo c) (a.compareTo c)
  | null, b, c => by
      apply chain_of_rank_eq
      intro hab hbc
      cases b with
      | null =>
          cases c with
          | null => exact fun _ _ => rfl
          | _ => cases hbc
      | _ => cases hab
  | bool p, b, c => by
      apply chain_of_rank_eq
      intro hab hbc
      cases b with
      | bool q =>
          cases c with
          | bool r => exact Chain.of_transCmp compare p q r
          | _ => cases hbc
      | _ => cases hab
  | int i, b, c => chain_of_rank_eq fun hab hbc => chain_compareTo_numbers rfl hab hbc
  | float x, b, c => chain_of_rank_eq fun hab hbc => chain_compareTo_numbers rfl hab hbc
  | string s, b, c => by
      apply chain_of_rank_eq
      intro hab hbc
      cases b with
      | string t =>
          cases c with
          | string u => exact Chain.of_transCmp compare s t u
          | _ => cases hbc
      | _ => cases hab
  | array as, b, c => by
      apply chain_of_rank_eq
      intro hab hbc
      cases b with
      | array bs =>
          cases c with
          | array cs => exact chain_compareItems as bs cs
          | _ => cases hbc
      | _ => cases hab
  | object es, b, c => by
      apply chain_of_rank_eq
      intro hab hbc
      cases b with
      | object fs =>
          cases c with
          | object gs => exact chain_compareFields es fs gs
          | _ => cases hbc
      | _ => cases hab

theorem chain_compareItems :
  ∀ as bs cs : List Value,
    Chain (compareItems as bs) (compareItems bs cs) (compareItems as cs)
  | [], [], _ => fun _ _ => rfl
  | [], _ :: _, [] => fun _ hbc => by cases hbc
  | [], _ :: _, _ :: _ => fun _ _ => rfl
  | _ :: _, [], _ => fun hab _ => by cases hab
  | _ :: _, _ :: _, [] => fun _ hbc => by cases hbc
  | a :: as, b :: bs, c :: cs =>
      (chain_compareTo a b c).andThen fun _ _ => chain_compareItems as bs cs

theorem chain_compareFields :
  ∀ es fs gs : List (String × Value),
    Chain (compareFields es fs) (compareFields fs gs) (compareFields es gs)
  | [], [], _ => fun _ _ => rfl
  | [], _ :: _, [] => fun _ hbc => by cases hbc
  | [], _ :: _, _ :: _ => fun _ _ => rfl
  | _ :: _, [], _ => fun hab _ => by cases hab
  | _ :: _, _ :: _, [] => fun _ hbc => by cases hbc
  | (k, a) :: es, (l, b) :: fs, (m, c) :: gs => by
      have hnames : Chain (compare k l) (compare l m) (compare k m) := Chain.of_transCmp compare k l m
      apply hnames.andThen fun _ _ =>
        (chain_compareTo a b c).andThen fun _ _ => chain_compareFields es fs gs

end

/-! ### Orientation -/

mutual

/-- Comparing the other way round gives the opposite. -/
theorem compareTo_swap :
  ∀ a b : Value, b.compareTo a = (a.compareTo b).swap
  | null, b => by
      cases b <;> rfl
  | bool p, b => by
      cases b with
      | bool q =>
          change compare q p = (compare p q).swap
          apply Std.OrientedOrd.eq_swap
      | _ => rfl
  | int i, b => by
      cases b with
      | int j =>
          change compare j.toInt i.toInt = (compare i.toInt j.toInt).swap
          apply Std.OrientedOrd.eq_swap
      | _ => rfl
  | float x, b => by
      cases b with
      | int j => exact Ordering.swap_swap.symm
      | float y =>
          change compare y.key x.key = (compare x.key y.key).swap
          apply Std.OrientedOrd.eq_swap
      | _ => rfl
  | string s, b => by
      cases b with
      | string t =>
          change compare t s = (compare s t).swap
          apply Std.OrientedOrd.eq_swap
      | _ => rfl
  | array as, b => by
      cases b with
      | array bs => exact compareItems_swap as bs
      | _ => rfl
  | object es, b => by
      cases b with
      | object fs => exact compareFields_swap es fs
      | _ => rfl

theorem compareItems_swap :
  ∀ as bs : List Value, compareItems bs as = (compareItems as bs).swap
  | [], [] => rfl
  | [], _ :: _ => rfl
  | _ :: _, [] => rfl
  | a :: as, b :: bs => by
      rw [compareItems, compareItems, compareTo_swap a b, compareItems_swap as bs,
        Ordering.swap_then]

theorem compareFields_swap :
  ∀ es fs : List (String × Value), compareFields fs es = (compareFields es fs).swap
  | [], [] => rfl
  | [], _ :: _ => rfl
  | _ :: _, [] => rfl
  | (k, a) :: es, (l, b) :: fs => by
      have hnames : compare l k = (compare k l).swap := Std.OrientedOrd.eq_swap
      rw [compareFields, compareFields, hnames, compareTo_swap a b, compareFields_swap es fs,
        Ordering.swap_then, Ordering.swap_then]

end

instance : Std.TransCmp compareTo where
  eq_swap {a b} := compareTo_swap b a
  isLE_trans {a b c} hab hbc := by
    rw [chain_compareTo a b c hab hbc]
    apply Ordering.isLE_then_iff_and.mpr ⟨hab, Or.inr hbc⟩

/-! ### Equality -/

mutual

/-- Values compare equal exactly if they are equal. -/
theorem compareTo_eq_eq_iff :
  ∀ a b : Value, a.compareTo b = .eq ↔ a.equals b = true
  | null, b => by
      cases b <;> simp [compareTo, equals, rank]
  | bool p, b => by
      cases b <;> simp [compareTo, equals, rank]
  | int i, b => by
      cases b <;> simp [compareTo, equals, rank, Int64.toInt_inj]
  | float x, b => by
      cases b with
      | float y =>
          change compare x.key y.key = .eq ↔ (x.bits == y.bits) = true
          rw [Int.compare_eq_eq, Binary64.key_eq_key_iff, beq_iff_eq]
      | _ => simp [compareTo, equals, rank]
  | string s, b => by
      cases b <;> simp [compareTo, equals, rank]
  | array as, b => by
      cases b with
      | array bs => exact compareItems_eq_eq_iff as bs
      | _ => simp [compareTo, equals, rank]
  | object es, b => by
      cases b with
      | object fs => exact compareFields_eq_eq_iff es fs
      | _ => simp [compareTo, equals, rank]

theorem compareItems_eq_eq_iff :
  ∀ as bs : List Value, compareItems as bs = .eq ↔ equalItems as bs = true
  | [], [] => by simp [compareItems, equalItems]
  | [], _ :: _ => by simp [compareItems, equalItems]
  | _ :: _, [] => by simp [compareItems, equalItems]
  | a :: as, b :: bs => by
      rw [compareItems, equalItems, Ordering.then_eq_eq, Bool.and_eq_true, compareTo_eq_eq_iff a b,
        compareItems_eq_eq_iff as bs]

theorem compareFields_eq_eq_iff :
  ∀ es fs : List (String × Value), compareFields es fs = .eq ↔ equalFields es fs = true
  | [], [] => by simp [compareFields, equalFields]
  | [], _ :: _ => by simp [compareFields, equalFields]
  | _ :: _, [] => by simp [compareFields, equalFields]
  | (k, a) :: es, (l, b) :: fs => by
      rw [compareFields, equalFields, Ordering.then_eq_eq, Ordering.then_eq_eq, Bool.and_eq_true,
        Bool.and_eq_true, compareTo_eq_eq_iff a b, compareFields_eq_eq_iff es fs, beq_iff_eq,
        compare_eq_iff_eq, and_assoc]

end

/-- A value equals itself, also if it is no number or has such values in it. -/
instance : ReflBEq Value where
  rfl := (compareTo_eq_eq_iff _ _).mp Std.ReflCmp.compare_self

/-! ### Hashing -/

/-- An integer that equals a binary64 number is nearest to it. -/
theorem ofInt_eq_of_compareIntFloat {i : Int64} {x : Binary64} (h : compareIntFloat i x = .eq) :
  Binary64.ofInt i.toInt = x
  := by
  rw [compareIntFloat] at h
  split at h
  · next heq => exact Binary64.eq_of_key_eq (Int.compare_eq_eq.mp heq)
  · next hne => exact absurd h hne

mutual

/-- Equal values feed the same to a hash function. -/
theorem hashInputs_eq_of_equals :
  ∀ {a b : Value}, a.equals b = true → a.hashInputs = b.hashInputs
  | null, b, h => by
      cases b with
      | null => rfl
      | _ => cases h
  | bool p, b, h => by
      cases b with
      | bool q => rw [eq_of_beq h]
      | _ => cases h
  | int i, b, h => by
      cases b with
      | int j => rw [eq_of_beq h]
      | float y => rw [hashInputs, hashInputs, ofInt_eq_of_compareIntFloat (eq_of_beq h)]
      | _ => cases h
  | float x, b, h => by
      cases b with
      | int j => rw [hashInputs, hashInputs, ofInt_eq_of_compareIntFloat (eq_of_beq h)]
      | float y => rw [hashInputs, hashInputs, eq_of_beq h]
      | _ => cases h
  | string s, b, h => by
      cases b with
      | string t => rw [eq_of_beq h]
      | _ => cases h
  | array as, b, h => by
      cases b with
      | array bs =>
          obtain ⟨hlength, hitems⟩ := hashItems_eq_of_equalItems h
          rw [hashInputs, hashInputs, hlength, hitems]
      | _ => cases h
  | object es, b, h => by
      cases b with
      | object fs => exact hashFields_eq_of_equalFields h
      | _ => cases h

theorem hashItems_eq_of_equalItems :
  ∀ {as bs : List Value}, equalItems as bs = true →
    as.length = bs.length ∧ hashItems as = hashItems bs
  | [], [], _ => ⟨rfl, rfl⟩
  | a :: as, b :: bs, h => by
      obtain ⟨hhead, htail⟩ := Bool.and_eq_true_iff.mp h
      obtain ⟨hlength, hitems⟩ := hashItems_eq_of_equalItems htail
      rw [List.length_cons, List.length_cons, hashItems, hashItems, hlength, hitems,
        hashInputs_eq_of_equals hhead]
      exact ⟨rfl, rfl⟩

theorem hashFields_eq_of_equalFields :
  ∀ {es fs : List (String × Value)}, equalFields es fs = true → hashFields es = hashFields fs
  | [], [], _ => rfl
  | (k, a) :: es, (l, b) :: fs, h => by
      obtain ⟨hhead, htail⟩ := Bool.and_eq_true_iff.mp h
      obtain ⟨hname, hvalue⟩ := Bool.and_eq_true_iff.mp hhead
      rw [hashFields, hashFields, eq_of_beq hname, hashInputs_eq_of_equals hvalue,
        hashFields_eq_of_equalFields htail]

end

/-! ### The laws together -/

/-- Comparing values the other way round gives the opposite, and comparing them is transitive.
They compare equal exactly if they are equal, and then they feed the same to a hash function;
so being equal is an equivalence, although integers and binary64 numbers can be equal. -/
theorem compareTo_lawful (a b c : Value) :
  b.compareTo a = (a.compareTo b).swap
    ∧ ((a.compareTo b).isLE → (b.compareTo c).isLE → (a.compareTo c).isLE)
    ∧ (a.compareTo b = .eq ↔ a == b)
    ∧ (a == b → a.hashInputs = b.hashInputs)
    ∧ Equivalence fun v w : Value => v == w
  := by
  have hequal : ∀ v w : Value, v.compareTo w = .eq ↔ (v == w) = true := compareTo_eq_eq_iff
  refine ⟨compareTo_swap a b, Std.TransCmp.isLE_trans, hequal a b, hashInputs_eq_of_equals, ?_⟩
  constructor
  · intro v
    apply (hequal v v).mp Std.ReflCmp.compare_self
  · intro v w h
    apply (hequal w v).mp (Std.OrientedCmp.eq_symm ((hequal v w).mpr h))
  · intro u v w huv hvw
    apply (hequal u w).mp (Std.TransCmp.eq_trans ((hequal u v).mpr huv) ((hequal v w).mpr hvw))

/-- The integer `2 ^ 53` equals the binary64 number, and feeds the same to a hash function; its
successor is rounded to it and is still above. -/
theorem compareTo_lawful_past_precision :
  int 9007199254740992 == float ⟨0x4340000000000000⟩
    ∧ (float ⟨0x4340000000000000⟩).compareTo (int 9007199254740993) = .lt
    ∧ ((int 9007199254740992).compareTo (int 9007199254740993)).isLE
    ∧ (int 9007199254740992).hashInputs = (float ⟨0x4340000000000000⟩).hashInputs
  := by
  have hequal : int 9007199254740992 == float ⟨0x4340000000000000⟩ := by decide +kernel
  have hbelow : (float ⟨0x4340000000000000⟩).compareTo (int 9007199254740993) = .lt := by
    decide +kernel
  obtain ⟨-, htrans, hiff, hhash, -⟩ := compareTo_lawful (int 9007199254740992)
    (float ⟨0x4340000000000000⟩) (int 9007199254740993)
  use hequal, hbelow
  constructor
  · apply htrans
    · rw [hiff.mpr hequal]
      rfl
    · rw [hbelow]
      rfl
  · apply hhash hequal

end Value

end AuditedStore
