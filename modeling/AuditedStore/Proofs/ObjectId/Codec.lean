import AuditedStore.Proofs.ObjectId.Digits
import AuditedStore.Proofs.Query.Selection

/-!
# Texts of ids

An id can be read by byte offsets: if the bytes of a text are twenty-four hexadecimal digits, the
text is cut before every second byte, and each piece is read as a number of base sixteen.  A text
cannot be cut inside a character, and a number may have a plus sign; but behind the check neither
occurs.  So this reads what reading digit by digit reads, and the text of an id is exact: it is read
back, and sorts as the id does.
-/

namespace AuditedStore

/-! ### Byte offsets -/

namespace Text

/-- The bytes of a text. -/
def bytes (cs : List Char) : List UInt8 := cs.flatMap String.utf8EncodeChar

/-- The characters from a byte offset on; nothing if that is inside a character or past the end. -/
def dropBytes? : Nat → List Char → Option (List Char)
  | 0, cs => some cs
  | _ + 1, [] => none
  | n + 1, c :: cs => if c.utf8Size ≤ n + 1 then dropBytes? (n + 1 - c.utf8Size) cs else none

/-- The characters before a byte offset; nothing if that is inside a character or past the end. -/
def takeBytes? : Nat → List Char → Option (List Char)
  | 0, _ => some []
  | _ + 1, [] => none
  | n + 1, c :: cs =>
    if c.utf8Size ≤ n + 1 then (takeBytes? (n + 1 - c.utf8Size) cs).map (c :: ·) else none

/-- The characters between two byte offsets; nothing if one of them is no place to cut. -/
def cutBytes? (start stop : Nat) (cs : List Char) : Option (List Char) :=
  (dropBytes? start cs).bind (takeBytes? (stop - start))

variable {cs : List Char}

/-- Where all characters have one byte, there are as many bytes as characters. -/
theorem length_bytes (h : ∀ c ∈ cs, c.utf8Size = 1) :
  (bytes cs).length = cs.length
  := by
  rw [bytes, List.length_flatMap, List.map_congr_left (g := fun _ => 1), List.map_const',
    List.sum_replicate_nat, Nat.mul_one]
  intro c hc
  rw [String.length_utf8EncodeChar, h c hc]

/-- Where all characters have one byte, byte offsets are places of characters. -/
theorem dropBytes?_eq (h : ∀ c ∈ cs, c.utf8Size = 1) {n : Nat} (hn : n ≤ cs.length) :
  dropBytes? n cs = some (cs.drop n)
  := by
  induction cs generalizing n with
  | nil =>
      obtain rfl : n = 0 := Nat.le_zero.mp hn
      rfl
  | cons c cs ih =>
      obtain ⟨hc, hcs⟩ := List.forall_mem_cons.mp h
      cases n with
      | zero => rfl
      | succ n =>
          rw [dropBytes?, hc, if_pos (Nat.le_add_left 1 n), List.drop_succ_cons]
          apply ih hcs (Nat.le_of_succ_le_succ hn)

theorem takeBytes?_eq (h : ∀ c ∈ cs, c.utf8Size = 1) {n : Nat} (hn : n ≤ cs.length) :
  takeBytes? n cs = some (cs.take n)
  := by
  induction cs generalizing n with
  | nil =>
      obtain rfl : n = 0 := Nat.le_zero.mp hn
      rfl
  | cons c cs ih =>
      obtain ⟨hc, hcs⟩ := List.forall_mem_cons.mp h
      cases n with
      | zero => rfl
      | succ n =>
          rw [takeBytes?, hc, if_pos (Nat.le_add_left 1 n), List.take_succ_cons, Nat.add_sub_cancel,
            ih hcs (Nat.le_of_succ_le_succ hn), Option.map_some]

theorem cutBytes?_eq (h : ∀ c ∈ cs, c.utf8Size = 1) {start count : Nat}
    (hle : start + count ≤ cs.length) :
  cutBytes? start (start + count) cs = some ((cs.drop start).take count)
  := by
  rw [cutBytes?, dropBytes?_eq h (by omega), Option.bind_some, Nat.add_sub_cancel_left,
    takeBytes?_eq (fun c hc => h c (List.mem_of_mem_drop hc)) (by rw [List.length_drop]; omega)]

/-- A text with a character of two bytes cannot be cut between them. -/
example : cutBytes? 0 2 "aé".toList = none := by decide

end Text

namespace ObjectId

variable {a b c : Char} {cs : List Char} {s : String} {id : ObjectId}

/-! ### Bytes of digits -/

/-- The byte of a hexadecimal digit, with a small or a capital letter. -/
def isHexByte (b : UInt8) : Bool :=
  let n := b.toNat
  (48 ≤ n && n ≤ 57) || (97 ≤ n && n ≤ 102) || (65 ≤ n && n ≤ 70)

theorem isHexByte_ofNat {n : Nat} (h : n < 256) :
  isHexByte (UInt8.ofNat n) = true ↔ 48 ≤ n ∧ n ≤ 57 ∨ 97 ≤ n ∧ n ≤ 102 ∨ 65 ≤ n ∧ n ≤ 70
  := by
  have hn : (UInt8.ofNat n).toNat = n := by
    rw [UInt8.toNat_ofNat']
    omega
  simp only [isHexByte, hn, Bool.or_eq_true, Bool.and_eq_true, decide_eq_true_eq, or_assoc]

theorem isHexChar_iff :
  IsHexChar c ↔
    48 ≤ c.toNat ∧ c.toNat ≤ 57 ∨ 97 ≤ c.toNat ∧ c.toNat ≤ 102 ∨ 65 ≤ c.toNat ∧ c.toNat ≤ 70
  := Iff.rfl

theorem utf8Size_of_isHexChar (h : IsHexChar c) :
  c.utf8Size = 1
  := by
  have hrange := isHexChar_iff.mp h
  apply Char.utf8Size_eq_one_iff.mpr
  apply UInt32.le_iff_toNat_le.mpr
  change c.toNat ≤ 127
  omega

/-- Only hexadecimal digits have bytes of hexadecimal digits alone. -/
theorem all_isHexByte_utf8EncodeChar (c : Char) :
  (String.utf8EncodeChar c).all isHexByte = true ↔ IsHexChar c
  := by
  have hvalue : c.val.toNat = c.toNat := rfl
  rw [isHexChar_iff, String.utf8EncodeChar]
  simp only [hvalue]
  split
  · next h => rw [List.all_cons, List.all_nil, Bool.and_true, isHexByte_ofNat (by omega)]
  -- The first byte of any other character is 192 or more.
  · split
    · rw [List.all_cons, Bool.and_eq_true, isHexByte_ofNat (by omega)]
      omega
    · split
      · rw [List.all_cons, Bool.and_eq_true, isHexByte_ofNat (by omega)]
        omega
      · rw [List.all_cons, Bool.and_eq_true, isHexByte_ofNat (by omega)]
        omega

/-- A text of twenty-four hexadecimal digits is one with twenty-four bytes of such. -/
theorem isHexText_iff :
  IsHexText s ↔ (Text.bytes s.toList).length = 24 ∧ (Text.bytes s.toList).all isHexByte = true
  := by
  have hdigits : (Text.bytes s.toList).all isHexByte = true ↔ ∀ c ∈ s.toList, IsHexChar c := by
    rw [Text.bytes, List.all_flatMap, List.all_eq_true]
    simp only [all_isHexByte_utf8EncodeChar]
  rw [IsHexText, hdigits]
  apply and_congr_left
  intro h
  rw [Text.length_bytes fun c hc => utf8Size_of_isHexChar (h c hc)]

/-! ### Reading by byte offsets -/

/-- The number below 256 that hexadecimal digits stand for, after those that gave `n`. -/
def readDigits? (n : Nat) : List Char → Option Nat
  | [] => some n
  | c :: cs =>
    (Text.hexDigit? c).bind fun d =>
      if 16 * n + d < 256 then readDigits? (16 * n + d) cs else none

/-- Reads a byte from hexadecimal digits, with or without a plus sign before them. -/
def readByte? (cs : List Char) : Option UInt8 :=
  let digits := if cs.head? = some '+' then cs.tail else cs
  if digits = [] then none else (readDigits? 0 digits).map UInt8.ofNat

/-- Reads `count` bytes from a text, each from the two bytes of the text at the next offset.
There is no result, not even an error, if the text has to be cut inside a character. -/
def readBytesAt? (s : String) : (count start : Nat) → Option (Except Error (List UInt8))
  | 0, _ => some (.ok [])
  | count + 1, start =>
    (Text.cutBytes? start (start + 2) s.toList).bind fun digits =>
      match readByte? digits with
      | none => some (.error (.invalidId s))
      | some byte => (readBytesAt? s count (start + 2)).map (Except.map (byte :: ·))

/-- Reads an id by byte offsets, from a text that consists of twenty-four bytes of hexadecimal
digits. -/
def readByOffsets? (s : String) : Option (Except Error ObjectId) :=
  if (Text.bytes s.toList).length = 24 ∧ (Text.bytes s.toList).all isHexByte = true then
    (readBytesAt? s 12 0).map fun result =>
      result.bind fun bytes => (ofBytes? bytes).elim (.error (.invalidId s)) .ok
  else some (.error (.invalidId s))

theorem readByte?_pair {x y : Nat} (hx : Text.hexDigit? a = some x)
    (hy : Text.hexDigit? b = some y) :
  readByte? [a, b] = some (UInt8.ofNat (16 * x + y))
  := by
  have hplus : [a, b].head? ≠ some '+' := by
    intro h
    cases h
    cases hx
  have hx16 := (hexChar_of_hexDigit? hx).2
  have hy16 := (hexChar_of_hexDigit? hy).2
  have hdigits : readDigits? 0 [a, b] = some (16 * x + y) := by
    rw [readDigits?, hx, Option.bind_some, if_pos (by omega), readDigits?, hy, Option.bind_some,
      Nat.mul_zero, Nat.zero_add, if_pos (by omega), readDigits?]
  simp only [readByte?, if_neg hplus, if_neg (List.cons_ne_nil a [b]), hdigits, Option.map_some]

/-- From hexadecimal digits alone, the same bytes are read by offsets as digit by digit. -/
theorem readBytesAt?_eq (hdigits : ∀ c ∈ s.toList, IsHexChar c) {count start : Nat}
    (hlength : s.toList.length = start + 2 * count) :
  readBytesAt? s count start = (readHex? (s.toList.drop start)).map .ok
  := by
  induction count generalizing start with
  | zero =>
      rw [List.drop_of_length_le (by omega)]
      rfl
  | succ count ih =>
      have hdrop : s.toList.drop start
          = s.toList[start] :: s.toList[start + 1] :: s.toList.drop (start + 2) := by
        rw [List.drop_eq_getElem_cons (by omega),
          List.drop_eq_getElem_cons (i := start + 1) (by omega)]
      obtain ⟨x, hx⟩ := exists_hexDigit? (hdigits s.toList[start] (List.getElem_mem _))
      obtain ⟨y, hy⟩ := exists_hexDigit? (hdigits s.toList[start + 1] (List.getElem_mem _))
      have hsizes : ∀ c ∈ s.toList, c.utf8Size = 1 :=
        fun c hc => utf8Size_of_isHexChar (hdigits c hc)
      rw [readBytesAt?, Text.cutBytes?_eq hsizes (by omega), Option.bind_some, hdrop,
        List.take_succ_cons, List.take_succ_cons, List.take_zero, readByte?_pair hx hy,
        ih (by omega), readHex?, hx, hy]
      cases readHex? (s.toList.drop (start + 2)) <;> rfl

theorem read_eq_ok_iff :
  ObjectId.read s = .ok id ↔ read? s = some id
  := by
  rw [read]
  cases read? s with
  | none => simp
  | some other => simp

theorem read_of_not_isHexText (h : ¬ IsHexText s) :
  ObjectId.read s = .error (.invalidId s)
  := by
  have hnone : read? s = none := by
    rw [← Option.not_isSome_iff_eq_none, isSome_read?_iff]
    exact h
  rw [read, hnone]

/-- Reading by offsets never cuts a text inside a character, and reads what reading digit by
digit does. -/
theorem readByOffsets?_eq (s : String) :
  readByOffsets? s = some (ObjectId.read s)
  := by
  by_cases h : IsHexText s
  · obtain ⟨id, hid⟩ := Option.isSome_iff_exists.mp (isSome_read?_iff.mpr h)
    obtain ⟨bytes, hbytes, hread⟩ := Option.bind_eq_some_iff.mp hid
    rw [readByOffsets?, if_pos (isHexText_iff.mp h), readBytesAt?_eq h.2 h.1, List.drop_zero,
      hbytes, read_eq_ok_iff.mpr hid, Option.map_some, Option.map_some, Except.bind, hread,
      Option.elim_some]
  · rw [readByOffsets?, if_neg (h ∘ isHexText_iff.mpr), read_of_not_isHexText h]

/-! ### The order of documents -/

/-- The document with the given fields that is stored under an id. -/
def document (stored : ObjectId × Fields) : Document := ⟨stored.1.toText, stored.2⟩

/-- Compares two ids in a direction. -/
def compareIn (dir : Direction) (id other : ObjectId) : Ordering :=
  match dir with
  | .ascending => compare id other
  | .descending => compare other id

theorem compare_document (dir : Direction) (a b : ObjectId × Fields) :
  SortSpec.compare [⟨idField, dir⟩] (document a) (document b) = compareIn dir a.1 b.1
  := by
  rw [SortSpec.compare, SortSpec.compare, Ordering.then_eq, SortKey.compare, Document.at?_idField,
    Document.at?_idField, Option.getD_some, Option.getD_some, Value.compareTo, Value.compareTo]
  cases dir with
  | ascending => apply compare_toText
  | descending => apply compare_toText

/-- Documents are sorted by the texts of their ids as by the ids. -/
theorem sort_documents (dir : Direction) (docs : List (ObjectId × Fields)) :
  SortSpec.sort [⟨idField, dir⟩] (docs.map document)
    = (docs.mergeSort fun a b => (compareIn dir a.1 b.1).isLE).map document
  := by
  rw [SortSpec.sort_eq_mergeSort]
  symm
  apply List.map_mergeSort
  intro a _ b _
  rw [compare_document]

/-! ### Exactness -/

/-- A text is read as an id exactly if it consists of twenty-four hexadecimal digits, and every
other text is refused as it is; reading by byte offsets gives the same for every text, and so never
cuts one inside a character.  The text of an id is read as the id, and a text that is read is
written again with small letters.  The texts of ids are ordered as their bytes are, so documents are
sorted by their texts as by their ids. -/
theorem text_exact :
  (∀ s : String, (∃ id, ObjectId.read s = .ok id) ↔ IsHexText s)
    ∧ (∀ s : String, ¬ IsHexText s → ObjectId.read s = .error (.invalidId s))
    ∧ (∀ s : String, readByOffsets? s = some (ObjectId.read s))
    ∧ (∀ id : ObjectId, ObjectId.read id.toText = .ok id)
    ∧ (∀ (s : String) (id : ObjectId), ObjectId.read s = .ok id → id.toText = Text.asciiLower s)
    ∧ (∀ id other : ObjectId, compare id.toText other.toText = compare id other)
    ∧ ∀ (dir : Direction) (docs : List (ObjectId × Fields)),
      SortSpec.sort [⟨idField, dir⟩] (docs.map document)
        = (docs.mergeSort fun a b => (compareIn dir a.1 b.1).isLE).map document
  := by
  refine ⟨?_, ?_, readByOffsets?_eq, ?_, ?_, compare_toText, sort_documents⟩
  · intro s
    rw [← isSome_read?_iff, Option.isSome_iff_exists]
    simp only [read_eq_ok_iff]
  · intro s h
    apply read_of_not_isHexText h
  · intro id
    apply read_eq_ok_iff.mpr id.read?_toText
  · intro s id h
    apply toText_of_read? (read_eq_ok_iff.mp h)

/-- A text with capital letters is read and written with small ones.  A text of as many bytes, the
last two of which are one character, is refused. -/
theorem text_exact_capitals_accented :
  (∃ id, ObjectId.read "5F1A2B3C4D5E6F7A8B9C0D1E" = .ok id
      ∧ id.toText = "5f1a2b3c4d5e6f7a8b9c0d1e")
    ∧ (Text.bytes "5f1a2b3c4d5e6f7a8b9c0dé".toList).length = 24
    ∧ readByOffsets? "5f1a2b3c4d5e6f7a8b9c0dé"
        = some (.error (.invalidId "5f1a2b3c4d5e6f7a8b9c0dé"))
  := by
  obtain ⟨hread, hrefused, hoffsets, -, hlower, -⟩ := text_exact
  refine ⟨?_, by decide, ?_⟩
  · obtain ⟨id, hid⟩ := (hread "5F1A2B3C4D5E6F7A8B9C0D1E").mpr
      (isSome_read?_iff.mp (by decide))
    use id, hid
    rw [hlower _ id hid]
    decide
  · rw [hoffsets, hrefused "5f1a2b3c4d5e6f7a8b9c0dé"]
    intro h
    have hlength : "5f1a2b3c4d5e6f7a8b9c0dé".toList.length ≠ 24 := by decide
    apply hlength h.1

end ObjectId

end AuditedStore
