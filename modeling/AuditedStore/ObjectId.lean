import AuditedStore.Calendar.Instant
import AuditedStore.Text

/-!
# Object ids

An object id is twelve bytes: the second it was made in, five bytes fixed per generator,
and a counter.  Its text is 24 small hexadecimal digits; reading accepts both letter cases.
A generator is a value, and making an id gives the generator for the next one.
-/

namespace AuditedStore

/-- An id of twelve bytes. -/
structure ObjectId where
  bytes : List UInt8
  length_bytes : bytes.length = 12
deriving DecidableEq

namespace ObjectId

/-- The small hexadecimal digit of `d < 16`. -/
def hexChar (d : Nat) : Char :=
  if d < 10 then Char.ofNat ('0'.toNat + d) else Char.ofNat ('a'.toNat + (d - 10))

/-- The digits of bytes. -/
def hexChars (bytes : List UInt8) : List Char :=
  bytes.flatMap fun b => [hexChar (b.toNat / 16), hexChar (b.toNat % 16)]

/-- Reads bytes from their digits. -/
def readHex? : List Char → Option (List UInt8)
  | [] => some []
  | [_] => none
  | a :: b :: cs => do
    let x ← Text.hexDigit? a
    let y ← Text.hexDigit? b
    let bytes ← readHex? cs
    pure (UInt8.ofNat (16 * x + y) :: bytes)

/-- The id with the given bytes, if there are twelve. -/
def ofBytes? (bytes : List UInt8) : Option ObjectId :=
  if h : bytes.length = 12 then some ⟨bytes, h⟩ else none

/-- The text of an id. -/
def toText (id : ObjectId) : String := String.ofList (hexChars id.bytes)

/-- Reads an id from its text. -/
def read? (s : String) : Option ObjectId := (readHex? s.toList).bind ofBytes?

/-- The number with the given bytes, most significant first. -/
def bigEndian (bytes : List UInt8) : Nat := bytes.foldl (fun n b => 256 * n + b.toNat) 0

/-- The `count` lowest bytes of a number, most significant first. -/
def lowBytes (n : Nat) : (count : Nat) → List UInt8
  | 0 => []
  | count + 1 => UInt8.ofNat (n / 256 ^ count) :: lowBytes n count

@[simp]
theorem length_lowBytes (n count : Nat) :
  (lowBytes n count).length = count
  := by
  induction count with
  | zero => rfl
  | succ count ih => simp [lowBytes, ih]

/-- The instant that an id was made at, to the second. -/
def instant (id : ObjectId) : Instant := ⟨bigEndian (id.bytes.take 4), 0⟩

/-- A source of ids: its five fixed bytes, and a counter that wraps around. -/
structure Generator where
  fixed : List UInt8
  length_fixed : fixed.length = 5
  counter : UInt32

/-- Makes an id at an instant. -/
def Generator.next (g : Generator) (now : Instant) : ObjectId × Generator :=
  let second := (now.seconds % 2 ^ 32).toNat
  (⟨lowBytes second 4 ++ g.fixed ++ lowBytes g.counter.toNat 3, by simp [g.length_fixed]⟩,
    { g with counter := g.counter + 1 })

end ObjectId

end AuditedStore
