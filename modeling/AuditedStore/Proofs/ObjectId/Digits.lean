import AuditedStore.Proofs.ObjectId
import AuditedStore.Proofs.Text
import Mathlib.Data.String.Basic

/-!
# Digits of ids

A text is read as an id exactly if it has twenty-four hexadecimal digits and nothing else.  Writing
the id again gives the digits with small letters.  Digits are ordered as the numbers that they stand
for, so texts of ids are ordered as the ids are byte by byte.
-/

namespace AuditedStore

/-! ### Comparing texts -/

theorem Text.compare_eq_lt_iff {cs ds : List Char} :
  compare cs ds = .lt ↔ cs < ds
  := by
  induction cs generalizing ds with
  | nil => cases ds <;> simp
  | cons c cs ih =>
      cases ds with
      | nil => simp
      | cons d ds =>
          rw [List.cons_lt_cons_iff, List.compare_eq_compareLex, List.compareLex_cons_cons,
            Ordering.then_eq_lt, compare_lt_iff_lt, compare_eq_iff_eq, ← ih,
            List.compare_eq_compareLex]

/-- Texts are compared by their characters in turn. -/
theorem Text.compare_eq (s t : String) :
  compare s t = compare s.toList t.toList
  := by
  cases h : compare s.toList t.toList with
  | lt => rw [compare_lt_iff_lt, String.lt_iff, ← compare_eq_lt_iff, h]
  | eq =>
      apply compare_eq_iff_eq.mpr
      apply String.toList_inj.mp (Std.LawfulEqOrd.eq_of_compare h)
  | gt =>
      apply compare_gt_iff_gt.mpr
      apply String.lt_iff.mpr
      apply compare_eq_lt_iff.mp (Std.OrientedCmp.lt_of_gt h)

namespace ObjectId

variable {c : Char} {cs : List Char} {bytes : List UInt8} {s : String} {id other : ObjectId}

/-! ### Which texts are read -/

/-- A hexadecimal digit, with a small or a capital letter. -/
def IsHexChar (c : Char) : Prop :=
  ('0' ≤ c ∧ c ≤ '9') ∨ ('a' ≤ c ∧ c ≤ 'f') ∨ ('A' ≤ c ∧ c ≤ 'F')

instance (c : Char) : Decidable (IsHexChar c) := inferInstanceAs (Decidable (_ ∨ _))

theorem isSome_hexDigit?_iff :
  (Text.hexDigit? c).isSome = true ↔ IsHexChar c
  := by
  rw [Text.hexDigit?, IsHexChar]
  grind

theorem exists_hexDigit? (h : IsHexChar c) :
  ∃ d, Text.hexDigit? c = some d
  := Option.isSome_iff_exists.mp (isSome_hexDigit?_iff.mpr h)

/-- A byte is read from two digits. -/
theorem length_of_readHex? (h : readHex? cs = some bytes) :
  cs.length = 2 * bytes.length
  := by
  induction cs using readHex?.induct generalizing bytes with
  | case1 =>
      cases h
      rfl
  | case2 c => cases h
  | case3 a b cs ih =>
      obtain ⟨x, -, h⟩ := Option.bind_eq_some_iff.mp h
      obtain ⟨y, -, h⟩ := Option.bind_eq_some_iff.mp h
      obtain ⟨rest, hrest, h⟩ := Option.bind_eq_some_iff.mp h
      cases h
      rw [List.length_cons, List.length_cons, List.length_cons, ih hrest]
      omega

theorem exists_readHex? {count : Nat} (hlength : cs.length = 2 * count)
    (hdigits : ∀ c ∈ cs, IsHexChar c) :
  ∃ bytes, readHex? cs = some bytes
  := by
  induction cs using readHex?.induct generalizing count with
  | case1 => exact ⟨[], rfl⟩
  | case2 c =>
      rw [List.length_singleton] at hlength
      omega
  | case3 a b cs ih =>
      obtain ⟨ha, hdigits⟩ := List.forall_mem_cons.mp hdigits
      obtain ⟨hb, hdigits⟩ := List.forall_mem_cons.mp hdigits
      obtain ⟨x, hx⟩ := exists_hexDigit? ha
      obtain ⟨y, hy⟩ := exists_hexDigit? hb
      have hcs : cs.length = 2 * (count - 1) := by
        rw [List.length_cons, List.length_cons] at hlength
        omega
      obtain ⟨rest, hrest⟩ := ih hcs hdigits
      use UInt8.ofNat (16 * x + y) :: rest
      rw [readHex?, hx, hy, hrest]
      rfl

theorem bytes_of_ofBytes? (h : ofBytes? bytes = some id) :
  id.bytes = bytes
  := by
  rw [ofBytes?] at h
  split at h
  · cases h
    rfl
  · cases h

/-- The texts of twenty-four hexadecimal digits. -/
def IsHexText (s : String) : Prop := s.toList.length = 24 ∧ ∀ c ∈ s.toList, IsHexChar c

theorem isSome_read?_iff :
  (read? s).isSome = true ↔ IsHexText s
  := by
  constructor
  · intro h
    obtain ⟨id, hid⟩ := Option.isSome_iff_exists.mp h
    obtain ⟨bytes, hbytes, hread⟩ := Option.bind_eq_some_iff.mp hid
    constructor
    · rw [length_of_readHex? hbytes, ← bytes_of_ofBytes? hread, id.length_bytes]
    · intro c hc
      apply isSome_hexDigit?_iff.mp (isSome_hexDigit?_of_readHex? hbytes hc)
  · rintro ⟨hlength, hdigits⟩
    have hdouble : s.toList.length = 2 * 12 := hlength
    obtain ⟨bytes, hbytes⟩ := exists_readHex? hdouble hdigits
    have htwelve : bytes.length = 12 := by
      rw [length_of_readHex? hbytes] at hdouble
      omega
    rw [read?, hbytes, Option.bind_some, ofBytes?, dif_pos htwelve, Option.isSome_some]

/-! ### What is written again -/

theorem hexChar_of_hexDigit? {d : Nat} (h : Text.hexDigit? c = some d) :
  hexChar d = c.toLower ∧ d < 16
  := by
  have hall : ∀ n < 128, ∀ d ∈ Text.hexDigit? (Char.ofNat n),
      hexChar d = (Char.ofNat n).toLower ∧ d < 16 := by decide
  have hlt : c.toNat < 128 := by
    have hrange := Text.toNat_of_hexDigit? (Option.isSome_of_mem h)
    omega
  have hc := hall c.toNat hlt
  rw [Char.ofNat_toNat] at hc
  apply hc d h

/-- The digits that bytes are read from are theirs, up to the case of letters. -/
theorem hexChars_of_readHex? (h : readHex? cs = some bytes) :
  hexChars bytes = cs.map Char.toLower
  := by
  induction cs using readHex?.induct generalizing bytes with
  | case1 =>
      cases h
      rfl
  | case2 c => cases h
  | case3 a b cs ih =>
      obtain ⟨x, hx, h⟩ := Option.bind_eq_some_iff.mp h
      obtain ⟨y, hy, h⟩ := Option.bind_eq_some_iff.mp h
      obtain ⟨rest, hrest, h⟩ := Option.bind_eq_some_iff.mp h
      cases h
      obtain ⟨ha, hx⟩ := hexChar_of_hexDigit? hx
      obtain ⟨hb, hy⟩ := hexChar_of_hexDigit? hy
      have hbyte : (UInt8.ofNat (16 * x + y)).toNat = 16 * x + y := by
        rw [UInt8.toNat_ofNat']
        omega
      have hupper : (16 * x + y) / 16 = x := by omega
      have hlower : (16 * x + y) % 16 = y := by omega
      change hexChar _ :: hexChar _ :: hexChars rest = _
      rw [hbyte, hupper, hlower, ih hrest, ha, hb, List.map_cons, List.map_cons]

/-- An id is written as the text that it is read from, with small letters. -/
theorem toText_of_read? (h : read? s = some id) :
  id.toText = Text.asciiLower s
  := by
  obtain ⟨bytes, hbytes, hread⟩ := Option.bind_eq_some_iff.mp h
  rw [toText, bytes_of_ofBytes? hread, hexChars_of_readHex? hbytes, Text.asciiLower]

/-! ### Order -/

/-- Ids are ordered by their bytes in turn. -/
instance : Ord ObjectId := ⟨fun id other => compare id.bytes other.bytes⟩

theorem compare_hexChar :
  ∀ a < 16, ∀ b < 16, compare (hexChar a) (hexChar b) = compare a b
  := by decide

/-- Numbers are compared by their last digit if they agree in the others. -/
theorem compare_eq_div_then_mod (a b : Nat) :
  compare a b = (compare (a / 16) (b / 16)).then (compare (a % 16) (b % 16))
  := by
  rcases lt_trichotomy (a / 16) (b / 16) with hupper | hupper | hupper
  · rw [compare_lt_iff_lt.mpr hupper, Ordering.lt_then, compare_lt_iff_lt]
    omega
  · rw [compare_eq_iff_eq.mpr hupper, Ordering.eq_then]
    rcases lt_trichotomy (a % 16) (b % 16) with hlower | hlower | hlower
    · rw [compare_lt_iff_lt.mpr hlower, compare_lt_iff_lt]
      omega
    · rw [compare_eq_iff_eq.mpr hlower, compare_eq_iff_eq]
      omega
    · rw [compare_gt_iff_gt.mpr hlower, compare_gt_iff_gt]
      omega
  · rw [compare_gt_iff_gt.mpr hupper, Ordering.gt_then, compare_gt_iff_gt]
    omega

/-- Bytes are compared as their digits are. -/
theorem compare_hexChars (as bs : List UInt8) :
  compare (hexChars as) (hexChars bs) = compare as bs
  := by
  induction as generalizing bs with
  | nil => cases bs <;> rfl
  | cons a as ih =>
      cases bs with
      | nil => rfl
      | cons b bs =>
          have hupper := compare_hexChar (a.toNat / 16) (by have := a.toNat_lt; omega)
            (b.toNat / 16) (by have := b.toNat_lt; omega)
          have hlower := compare_hexChar (a.toNat % 16) (Nat.mod_lt _ (by decide))
            (b.toNat % 16) (Nat.mod_lt _ (by decide))
          change compare (hexChar _ :: hexChar _ :: hexChars as)
            (hexChar _ :: hexChar _ :: hexChars bs) = _
          simp only [List.compare_eq_compareLex, List.compareLex_cons_cons] at ih ⊢
          rw [hupper, hlower, ih, UInt8.compare_eq_toNat_compare_toNat,
            compare_eq_div_then_mod a.toNat, Ordering.then_assoc]

/-- Ids are ordered as their texts are. -/
theorem compare_toText (id other : ObjectId) :
  compare id.toText other.toText = compare id other
  := by
  rw [Text.compare_eq, toText, toText, String.toList_ofList, String.toList_ofList]
  apply compare_hexChars

end ObjectId

end AuditedStore
