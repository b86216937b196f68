import AuditedStore.ObjectId

/-!
# Reading ids back

The text of an object id is read as the id; different ids have different texts.
-/

namespace AuditedStore.ObjectId

theorem hexDigit?_hexChar :
  ∀ d < 16, Text.hexDigit? (hexChar d) = some d
  := by decide

/-- Bytes are read back from their digits. -/
theorem readHex?_hexChars (bytes : List UInt8) :
  readHex? (hexChars bytes) = some bytes
  := by
  induction bytes with
  | nil => rfl
  | cons b bytes ih =>
      have hupper := hexDigit?_hexChar (b.toNat / 16) (by have := b.toNat_lt; omega)
      have hlower := hexDigit?_hexChar (b.toNat % 16) (Nat.mod_lt _ (by decide))
      have hbyte : UInt8.ofNat (16 * (b.toNat / 16) + b.toNat % 16) = b := by
        rw [Nat.div_add_mod, UInt8.ofNat_toNat]
      change readHex? (hexChar _ :: hexChar _ :: hexChars bytes) = _
      rw [readHex?, hupper, hlower, ih]
      exact congrArg (fun c => some (c :: bytes)) hbyte

/-- The text of an id is read as the id. -/
theorem read?_toText (id : ObjectId) :
  read? id.toText = some id
  := by
  rw [read?, toText, String.toList_ofList, readHex?_hexChars]
  apply dif_pos id.length_bytes

theorem toText_injective {id other : ObjectId} (h : id.toText = other.toText) :
  id = other
  := by
  have hread := congrArg read? h
  rw [read?_toText, read?_toText] at hread
  apply Option.some.inj hread

/-- Only hexadecimal digits are read as bytes. -/
theorem isSome_hexDigit?_of_readHex? {cs : List Char} {bytes : List UInt8}
    (h : readHex? cs = some bytes) {c : Char} (hc : c ∈ cs) :
  (Text.hexDigit? c).isSome = true
  := by
  induction cs using readHex?.induct generalizing bytes with
  | case1 => cases hc
  | case2 c => cases h
  | case3 a b cs ih =>
      obtain ⟨x, hx, h⟩ := Option.bind_eq_some_iff.mp h
      obtain ⟨y, hy, h⟩ := Option.bind_eq_some_iff.mp h
      obtain ⟨rest, hrest, -⟩ := Option.bind_eq_some_iff.mp h
      rcases List.mem_cons.mp hc with rfl | hc
      · rw [hx, Option.isSome_some]
      · rcases List.mem_cons.mp hc with rfl | hc
        · rw [hy, Option.isSome_some]
        · exact ih hrest hc

/-- A text that is read as an id has hexadecimal digits alone. -/
theorem isSome_hexDigit?_of_read? {s : String} {id : ObjectId} (h : read? s = some id) {c : Char}
    (hc : c ∈ s.toList) :
  (Text.hexDigit? c).isSome = true
  := by
  obtain ⟨bytes, hbytes, -⟩ := Option.bind_eq_some_iff.mp h
  exact isSome_hexDigit?_of_readHex? hbytes hc

end AuditedStore.ObjectId
