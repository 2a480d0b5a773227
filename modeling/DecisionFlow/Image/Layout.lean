import DecisionFlow.Decimal.Binary

/-!
# The bytes of numbers, texts and lists

Images are sequences of bytes in which every part says where it ends. A natural number below 251 is
one byte; a greater one is a marker and two, four or eight bytes, the lowest first. Signed numbers
are folded onto the naturals, texts and lists are preceded by their length, and an optional part by
a byte that tells whether it is there.

Every part has an encoder and a decoder. A decoder takes what it needs from the front and leaves the
rest; it fails if there are not enough bytes or if they have no meaning. Longer forms of small
numbers are accepted.
-/

set_option autoImplicit false

namespace DecisionFlow.Image

/-- A sequence of bytes. -/
abbrev Bytes := List UInt8

/-- Takes a value from the front of a sequence of bytes. -/
abbrev Decoder (α : Type) := StateT Bytes Option α

/-! ## Numbers -/

/-- The lowest bytes of a number, the lowest first. -/
def littleEndian : Nat → Nat → Bytes
  | 0, _ => []
  | count + 1, value => (value % 256).toUInt8 :: littleEndian count (value / 256)

/-- A natural number below two to the power sixty-four. -/
def encodeNat (value : Nat) : Bytes :=
  if value < 251 then [value.toUInt8]
  else if value < 0x10000 then 251 :: littleEndian 2 value
  else if value < 0x100000000 then 252 :: littleEndian 4 value
  else 253 :: littleEndian 8 value

/-- A signed number: non-negative numbers become even and negative ones odd. -/
def encodeInt (value : Int) : Bytes :=
  encodeNat (if 0 ≤ value then 2 * value.toNat else 2 * (-value).toNat - 1)

/-- A double, as its sixty-four bits. -/
def encodeDouble (value : Double) : Bytes :=
  littleEndian 8 value.bits.toNat

/-- One byte. -/
def decodeByte : Decoder UInt8 := fun bytes =>
  match bytes with
  | [] => none
  | byte :: rest => some (byte, rest)

/-- A number given by its bytes, the lowest first. -/
def decodeLittleEndian : Nat → Decoder Nat
  | 0 => return 0
  | count + 1 => do
    let low ← decodeByte
    let high ← decodeLittleEndian count
    return low.toNat + 256 * high

/-- A natural number of at most eight bytes. -/
def decodeNat : Decoder Nat := do
  let first ← decodeByte
  if first < 251 then return first.toNat
  else if first = 251 then decodeLittleEndian 2
  else if first = 252 then decodeLittleEndian 4
  else if first = 253 then decodeLittleEndian 8
  else failure

/-- A natural number of at most four bytes. -/
def decodeShortNat : Decoder Nat := do
  let first ← decodeByte
  if first < 251 then return first.toNat
  else if first = 251 then decodeLittleEndian 2
  else if first = 252 then decodeLittleEndian 4
  else failure

/-- A signed number of at most four bytes. -/
def decodeInt : Decoder Int := do
  let folded ← decodeShortNat
  return if folded % 2 = 0 then Int.ofNat (folded / 2) else -Int.ofNat (folded / 2 + 1)

/-- A double. -/
def decodeDouble : Decoder Double := do
  let bits ← decodeLittleEndian 8
  return ⟨bits.toUInt64⟩

/-! ## Truth values and optional parts -/

/-- A truth value. -/
def encodeBool (value : Bool) : Bytes :=
  [if value then 1 else 0]

/-- A truth value. -/
def decodeBool : Decoder Bool := do
  match ← decodeByte with
  | 0 => return false
  | 1 => return true
  | _ => failure

/-- A part that may be absent. -/
def encodeOption {α : Type} (encode : α → Bytes) : Option α → Bytes
  | none => [0]
  | some value => 1 :: encode value

/-- A part that may be absent. -/
def decodeOption {α : Type} (decode : Decoder α) : Decoder (Option α) := do
  match ← decodeByte with
  | 0 => return none
  | 1 => return some (← decode)
  | _ => failure

/-! ## Lists and texts -/

/-- The items of a list, one after the other. -/
def encodeItems {α : Type} (encode : α → Bytes) : List α → Bytes
  | [] => []
  | item :: rest => encode item ++ encodeItems encode rest

/-- A list: its length and its items. -/
def encodeList {α : Type} (encode : α → Bytes) (items : List α) : Bytes :=
  encodeNat items.length ++ encodeItems encode items

/-- A given number of items. -/
def decodeItems {α : Type} (decode : Decoder α) : Nat → Decoder (List α)
  | 0 => return []
  | count + 1 => do
    let item ← decode
    let items ← decodeItems decode count
    return item :: items

/-- A list. -/
def decodeList {α : Type} (decode : Decoder α) : Decoder (List α) := do
  decodeItems decode (← decodeNat)

/-- A given number of bytes. -/
def decodeBytes (count : Nat) : Decoder Bytes := fun bytes =>
  let taken := bytes.take count
  if taken.length = count then some (taken, bytes.drop count) else none

/-- A text: the length of its UTF-8 form and that form. -/
def encodeText (text : String) : Bytes :=
  let bytes := text.toUTF8.toList
  encodeNat bytes.length ++ bytes

/-- A text. -/
def decodeText : Decoder String := do
  let count ← decodeNat
  let bytes ← decodeBytes count
  match String.fromUTF8? ⟨bytes.toArray⟩ with
  | some text => return text
  | none => failure

/-- A pair: its parts one after the other. -/
def encodePair {α β : Type} (encodeFirst : α → Bytes) (encodeSecond : β → Bytes)
    (pair : α × β) : Bytes :=
  encodeFirst pair.1 ++ encodeSecond pair.2

/-- A pair. -/
def decodePair {α β : Type} (decodeFirst : Decoder α) (decodeSecond : Decoder β) :
    Decoder (α × β) := do
  let first ← decodeFirst
  let second ← decodeSecond
  return (first, second)

end DecisionFlow.Image
