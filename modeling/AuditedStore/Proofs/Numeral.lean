import AuditedStore.Numeral
import Mathlib.Data.List.Induction
import Mathlib.Tactic.IntervalCases

/-!
# Decimal numerals

The digits of a number have it as their value, also with zeros in front of them, and a number
with a sign is read back from its numeral.
-/

namespace AuditedStore.Numeral

theorem isDigit_digitChar {d : Nat} (hd : d < 10) :
  isDigit (digitChar d) = true
  := by
  interval_cases d <;> rfl

theorem digitValue_digitChar {d : Nat} (hd : d < 10) :
  digitValue (digitChar d) = d
  := by
  interval_cases d <;> rfl

theorem digits_of_lt {n : Nat} (h : n < 10) :
  digits n = [digitChar n]
  := by rw [digits, if_pos h]

theorem digits_of_ge {n : Nat} (h : 10 ≤ n) :
  digits n = digits (n / 10) ++ [digitChar (n % 10)]
  := by rw [digits, if_neg (Nat.not_lt.mpr h)]

theorem value_append_singleton (cs : List Char) (c : Char) :
  value (cs ++ [c]) = 10 * value cs + digitValue c
  := by rw [value, List.foldl_append, List.foldl_cons, List.foldl_nil, value]

theorem digits_ne_nil (n : Nat) :
  digits n ≠ []
  := by
  rw [digits]
  split
  · simp
  · simp

theorem isDigit_of_mem_digits {n : Nat} {c : Char} (h : c ∈ digits n) :
  isDigit c = true
  := by
  induction n using digits.induct with
  | case1 n hn =>
      rw [digits_of_lt hn, List.mem_singleton] at h
      rw [h, isDigit_digitChar hn]
  | case2 n hn ih =>
      rw [digits_of_ge (Nat.not_lt.mp hn), List.mem_append, List.mem_singleton] at h
      rcases h with h | h
      · apply ih h
      · rw [h, isDigit_digitChar (Nat.mod_lt n (by decide))]

/-- Reading the digits of a number gives the number. -/
theorem value_digits (n : Nat) :
  value (digits n) = n
  := by
  induction n using digits.induct with
  | case1 n hn =>
      rw [digits_of_lt hn]
      change 10 * 0 + digitValue (digitChar n) = n
      rw [digitValue_digitChar hn, Nat.mul_zero, Nat.zero_add]
  | case2 n hn ih =>
      rw [digits_of_ge (Nat.not_lt.mp hn), value_append_singleton, ih,
        digitValue_digitChar (Nat.mod_lt n (by decide)), Nat.div_add_mod]

/-- A number below a power of ten has at most as many digits. -/
theorem length_digits_le {n k : Nat} (hk : k ≠ 0) (h : n < 10 ^ k) :
  (digits n).length ≤ k
  := by
  induction n using digits.induct generalizing k with
  | case1 n hn =>
      rw [digits_of_lt hn]
      apply Nat.one_le_iff_ne_zero.mpr hk
  | case2 n hn ih =>
      have hk1 : k - 1 ≠ 0 := by
        intro hzero
        have hk : k = 1 := by omega
        rw [hk] at h
        exact hn h
      have hdiv : n / 10 < 10 ^ (k - 1) := by
        apply Nat.div_lt_of_lt_mul
        rw [← Nat.pow_succ', Nat.succ_eq_add_one, Nat.sub_add_cancel (Nat.one_le_iff_ne_zero.mpr hk)]
        apply h
      rw [digits_of_ge (Nat.not_lt.mp hn), List.length_append, List.length_singleton]
      have := ih hk1 hdiv
      omega

theorem isDigit_iff {c : Char} :
  isDigit c = true ↔ 48 ≤ c.toNat ∧ c.toNat ≤ 57
  := by
  rw [isDigit, Bool.and_eq_true, decide_eq_true_eq, decide_eq_true_eq]
  rfl

theorem digitValue_lt {c : Char} (h : isDigit c = true) :
  digitValue c < 10
  := by
  obtain ⟨-, hupper⟩ := isDigit_iff.mp h
  change c.toNat - 48 < 10
  omega

/-- So many digits stand for a number below that power of ten. -/
theorem value_lt {ds : List Char} (h : ∀ c ∈ ds, isDigit c = true) :
  value ds < 10 ^ ds.length
  := by
  induction ds using List.reverseRecOn with
  | nil => decide
  | append_singleton ds c ih =>
      have hds := ih fun c hc => h c (List.mem_append_left _ hc)
      have hc := digitValue_lt (h c (by simp))
      rw [value_append_singleton, List.length_append, List.length_singleton, Nat.pow_succ]
      omega

/-! ### Signed numbers -/

/-- Digits are read as their value. -/
theorem readNat?_digits (n : Nat) :
  readNat? (digits n) = some n
  := by
  have hdigits : (digits n).all isDigit = true :=
    List.all_eq_true.mpr fun _ hc => isDigit_of_mem_digits hc
  rw [readNat?, hdigits, value_digits]
  simp [digits_ne_nil]

theorem isDigit_of_readNat? {ds : List Char} {n : Nat} (h : readNat? ds = some n) :
  ∀ c ∈ ds, isDigit c = true
  := by
  rw [readNat?] at h
  split at h
  · next hdigits => exact List.all_eq_true.mp (Bool.and_eq_true_iff.mp hdigits).2
  · cases h

theorem readInt?_minus (cs : List Char) :
  readInt? ('-' :: cs) = (readNat? cs).map fun n : Nat => -(n : Int)
  := by
  rw [readInt?]
  cases readNat? cs <;> rfl

theorem readInt?_plus (cs : List Char) :
  readInt? ('+' :: cs) = (readNat? cs).map fun n : Nat => (n : Int)
  := by
  rw [readInt?]
  cases readNat? cs <;> rfl

theorem readInt?_unsigned {cs : List Char} (hminus : cs.head? ≠ some '-')
    (hplus : cs.head? ≠ some '+') :
  readInt? cs = (readNat? cs).map fun n : Nat => (n : Int)
  := by
  rw [readInt?]
  · cases readNat? cs <;> rfl
  · rintro ds rfl
    exact hminus rfl
  · rintro ds rfl
    exact hplus rfl

/-- A number is read back from its numeral. -/
theorem readInt?_ofInt (i : Int) :
  readInt? (ofInt i).toList = some i
  := by
  rw [ofInt]
  split
  · rw [String.toList_ofList, readInt?_minus, readNat?_digits, Option.map_some]
    congr 1
    omega
  · have hhead : ∀ c, (digits i.natAbs).head? = some c → isDigit c = true :=
      fun c hc => isDigit_of_mem_digits (List.mem_of_head? hc)
    have hminus : (digits i.natAbs).head? ≠ some '-' := fun h => by cases hhead _ h
    have hplus : (digits i.natAbs).head? ≠ some '+' := fun h => by cases hhead _ h
    rw [ofNat, String.toList_ofList, readInt?_unsigned hminus hplus, readNat?_digits,
      Option.map_some]
    congr 1
    omega

theorem digitChar_eq {d : Nat} (hd : d < 10) :
  digitChar d = d.digitChar
  := by
  interval_cases d <;> rfl

theorem digits_eq_toDigits (n : Nat) :
  digits n = Nat.toDigits 10 n
  := by
  induction n using digits.induct with
  | case1 n hn => rw [digits_of_lt hn, digitChar_eq hn, Nat.toDigits_of_lt_base hn]
  | case2 n hn ih =>
      have hge := Nat.not_lt.mp hn
      rw [digits_of_ge hge, ih, digitChar_eq (Nat.mod_lt n (by decide)),
        Nat.toDigits_of_base_le (by decide) hge]

/-- The numeral of a number is its decimal text in the standard library. -/
theorem ofInt_eq_toString (i : Int) :
  ofInt i = toString i
  := by
  rw [ofInt]
  cases i with
  | ofNat n =>
      rw [Int.ofNat_eq_natCast, if_neg (Int.not_lt.mpr (Int.natCast_nonneg n)), ofNat,
        digits_eq_toDigits]
      rfl
  | negSucc n =>
      rw [if_pos (Int.negSucc_lt_zero n), digits_eq_toDigits]
      exact String.ofList_cons

theorem readInt64?_toString (i : Int64) :
  readInt64? (toString i.toInt) = some i
  := by
  rw [← ofInt_eq_toString, readInt64?, readInt?_ofInt, Option.bind_some,
    if_pos ⟨i.le_toInt, i.toInt_lt⟩, Int64.ofInt_toInt]

/-- The characters of a numeral are digits, and perhaps a sign. -/
theorem of_mem_of_readInt? {cs : List Char} {i : Int} (h : readInt? cs = some i) {c : Char}
    (hc : c ∈ cs) :
  isDigit c = true ∨ c = '-' ∨ c = '+'
  := by
  by_cases hminus : cs.head? = some '-'
  · obtain ⟨ds, rfl⟩ := List.head?_eq_some_iff.mp hminus
    rw [readInt?_minus] at h
    obtain ⟨n, hn, -⟩ := Option.map_eq_some_iff.mp h
    rcases List.mem_cons.mp hc with rfl | hc
    · exact Or.inr (Or.inl rfl)
    · exact Or.inl (isDigit_of_readNat? hn c hc)
  · by_cases hplus : cs.head? = some '+'
    · obtain ⟨ds, rfl⟩ := List.head?_eq_some_iff.mp hplus
      rw [readInt?_plus] at h
      obtain ⟨n, hn, -⟩ := Option.map_eq_some_iff.mp h
      rcases List.mem_cons.mp hc with rfl | hc
      · exact Or.inr (Or.inr rfl)
      · exact Or.inl (isDigit_of_readNat? hn c hc)
    · rw [readInt?_unsigned hminus hplus] at h
      obtain ⟨n, hn, -⟩ := Option.map_eq_some_iff.mp h
      exact Or.inl (isDigit_of_readNat? hn c hc)

theorem of_mem_of_readInt64? {s : String} {i : Int64} (h : readInt64? s = some i) {c : Char}
    (hc : c ∈ s.toList) :
  isDigit c = true ∨ c = '-' ∨ c = '+'
  := by
  obtain ⟨j, hj, -⟩ := Option.bind_eq_some_iff.mp h
  exact of_mem_of_readInt? hj hc

/-! ### Padding -/

/-- The digits of a number with zeros in front. -/
def paddedDigits (width n : Nat) : List Char :=
  List.replicate (width - (digits n).length) '0' ++ digits n

theorem toList_padded (width n : Nat) :
  (padded width n).toList = paddedDigits width n
  := by
  rw [padded, String.toList_ofList]
  rfl

theorem value_replicate_append (k : Nat) (cs : List Char) :
  value (List.replicate k '0' ++ cs) = value cs
  := by
  induction k with
  | zero => rfl
  | succ k ih => exact ih

theorem value_paddedDigits (width n : Nat) :
  value (paddedDigits width n) = n
  := by rw [paddedDigits, value_replicate_append, value_digits]

theorem isDigit_of_mem_paddedDigits {width n : Nat} {c : Char} (h : c ∈ paddedDigits width n) :
  isDigit c = true
  := by
  rcases List.mem_append.mp h with h | h
  · rw [List.eq_of_mem_replicate h]
    rfl
  · apply isDigit_of_mem_digits h

theorem paddedDigits_ne_nil (width n : Nat) :
  paddedDigits width n ≠ []
  := List.append_ne_nil_of_right_ne_nil _ (digits_ne_nil n)

/-- A number that fits the width has just as many digits with padding. -/
theorem length_paddedDigits {width n : Nat} (hw : width ≠ 0) (h : n < 10 ^ width) :
  (paddedDigits width n).length = width
  := by
  have := length_digits_le hw h
  rw [paddedDigits, List.length_append, List.length_replicate]
  omega

end AuditedStore.Numeral
