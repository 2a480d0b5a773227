import DecisionFlow.Image.Layout
import DecisionFlow.Proofs.Image.Bounds

/-!
# Reading numbers, texts and lists back

A decoder reads the bytes of a value if it takes exactly these from the front, whatever follows them,
and gives the value (`Reads`). Decoders that are put together read the bytes of their parts, one part
after the other, so that what is shown for the parts of an image carries over to the whole.

A decoder never looks at bytes that it does not take: what it reads, it reads as well when more bytes
follow. Where decoders nest, a longer input also allows for more levels, which is why this is said of
two decoders (`Persists`). It holds of every decoder, whether its input was ever written by an encoder
or not.
-/

set_option autoImplicit false

namespace DecisionFlow.Image

variable {α β : Type}

theorem run_bind_eq_some_iff {decode : Decoder α} {next : α → Decoder β} {bytes rest : Bytes}
    {result : β} :
    (decode >>= next).run bytes = some (result, rest) ↔
      ∃ value between, decode.run bytes = some (value, between) ∧
        (next value).run between = some (result, rest) := by
  simp [StateT.run_bind, Option.bind_eq_some_iff]

/-! ## Reading -/

/-- The decoder takes the bytes, whatever follows them, and gives the value. -/
def Reads (decode : Decoder α) (bytes : Bytes) (value : α) : Prop :=
  ∀ rest, decode.run (bytes ++ rest) = some (value, rest)

namespace Reads

variable {decode : Decoder α} {next : α → Decoder β} {front back : Bytes} {value : α} {result : β}

theorem pure (value : α) : Reads (Pure.pure value) [] value := fun _ => rfl

theorem bind (first : Reads decode front value) (later : Reads (next value) back result) :
    Reads (decode >>= next) (front ++ back) result := by
  intro rest
  rw [List.append_assoc]
  exact run_bind_eq_some_iff.2 ⟨value, back ++ rest, first _, later rest⟩

/-- The last part: what it gives is only put in its place. -/
theorem last (first : Reads decode front value) (place : α → β) :
    Reads (decode >>= fun value => Pure.pure (place value)) front (place value) := by
  intro rest
  exact run_bind_eq_some_iff.2 ⟨value, rest, first rest, rfl⟩

theorem byte {byte : UInt8} {next : UInt8 → Decoder β} (later : Reads (next byte) back result) :
    Reads (decodeByte >>= next) (byte :: back) result := by
  intro rest
  exact run_bind_eq_some_iff.2 ⟨byte, back ++ rest, rfl, later rest⟩

end Reads

/-! ## Persisting -/

/-- What the first decoder reads, the second reads as well when more bytes follow. -/
def Persists (decode other : Decoder α) : Prop :=
  ∀ bytes value rest, decode.run bytes = some (value, rest) →
    ∀ more, other.run (bytes ++ more) = some (value, rest ++ more)

namespace Persists

variable {decode other : Decoder α} {next nextOther : α → Decoder β}

theorem pure (value : α) : Persists (Pure.pure value) (Pure.pure value) := by
  rintro _ _ _ ⟨⟩ more
  rfl

theorem failure : Persists failure other := by
  rintro _ _ _ ⟨⟩

theorem bind (first : Persists decode other) (later : ∀ value, Persists (next value) (nextOther value)) :
    Persists (decode >>= next) (other >>= nextOther) := by
  intro bytes result rest read more
  obtain ⟨value, between, read, readLater⟩ := run_bind_eq_some_iff.1 read
  exact run_bind_eq_some_iff.2
    ⟨value, between ++ more, first _ _ _ read more, later value _ _ _ readLater more⟩

theorem last (first : Persists decode other) (place : α → β) :
    Persists (decode >>= fun value => Pure.pure (place value))
      (other >>= fun value => Pure.pure (place value)) :=
  first.bind fun value => pure (place value)

theorem byte : Persists decodeByte decodeByte := by
  intro bytes value rest read more
  cases bytes with
  | nil => cases read
  | cons first others =>
      cases read
      rfl

theorem ite {condition : Prop} [Decidable condition] {otherwise otherwiseOther : Decoder α}
    (holds : Persists decode other) (fails : Persists otherwise otherwiseOther) :
    Persists (if condition then decode else otherwise)
      (if condition then other else otherwiseOther) := by
  split
  · exact holds
  · exact fails

end Persists

/-! ## Numbers -/

/-- The number of values that a number of bytes can have. -/
def byteBound : Nat → Nat
  | 0 => 1
  | count + 1 => 256 * byteBound count

theorem reads_littleEndian {count value : Nat} (fits : value < byteBound count) :
    Reads (decodeLittleEndian count) (littleEndian count value) value := by
  induction count generalizing value with
  | zero =>
      have isZero : value = 0 := by simpa [byteBound] using fits
      subst isZero
      exact .pure 0
  | succ count ih =>
      have high : value / 256 < byteBound count := Nat.div_lt_of_lt_mul fits
      have low : (value % 256).toUInt8.toNat = value % 256 := by simp
      have read : Reads (decodeLittleEndian (count + 1)) (littleEndian (count + 1) value)
          ((value % 256).toUInt8.toNat + 256 * (value / 256)) :=
        .byte ((ih high).last _)
      rwa [low, Nat.mod_add_div] at read

theorem persists_littleEndian (count : Nat) :
    Persists (decodeLittleEndian count) (decodeLittleEndian count) := by
  induction count with
  | zero => exact Persists.pure 0
  | succ count ih => exact Persists.byte.bind fun _ => ih.last _

theorem toUInt8_of_lt {value : Nat} (small : value < 251) :
    value.toUInt8 < 251 ∧ value.toUInt8.toNat = value := by
  have same : value.toUInt8.toNat = value :=
    UInt8.toNat_ofNat_of_lt' (Nat.lt_trans small (by decide))
  refine ⟨?_, same⟩
  rw [UInt8.lt_iff_toNat_lt, same]
  exact small

/-- Numbers of sixty-four bits are read back. -/
theorem reads_nat {value : Nat} (fits : value < Decimal.wordBound) :
    Reads decodeNat (encodeNat value) value := by
  unfold encodeNat
  split
  next small =>
    obtain ⟨isSmall, same⟩ := toUInt8_of_lt small
    refine .byte ?_
    rw [if_pos isSmall, same]
    exact .pure value
  next =>
    split
    next medium => exact .byte (reads_littleEndian medium)
    next =>
      split
      next large => exact .byte (reads_littleEndian large)
      next => exact .byte (reads_littleEndian fits)

/-- Numbers of thirty-two bits are read back. -/
theorem reads_shortNat {value : Nat} (fits : value < 0x100000000) :
    Reads decodeShortNat (encodeNat value) value := by
  unfold encodeNat
  split
  next small =>
    obtain ⟨isSmall, same⟩ := toUInt8_of_lt small
    refine .byte ?_
    rw [if_pos isSmall, same]
    exact .pure value
  next =>
    split
    next medium => exact .byte (reads_littleEndian medium)
    next => exact .byte (reads_littleEndian fits)

theorem persists_nat : Persists decodeNat decodeNat :=
  Persists.byte.bind fun first => .ite (.pure first.toNat) <|
    .ite (persists_littleEndian 2) <| .ite (persists_littleEndian 4) <|
      .ite (persists_littleEndian 8) .failure

theorem persists_shortNat : Persists decodeShortNat decodeShortNat :=
  Persists.byte.bind fun first => .ite (.pure first.toNat) <|
    .ite (persists_littleEndian 2) <| .ite (persists_littleEndian 4) .failure

theorem reads_int {value : Int} (fits : IntFits value) :
    Reads decodeInt (encodeInt value) value := by
  obtain ⟨least, greatest⟩ := fits
  generalize folding : (if 0 ≤ value then 2 * value.toNat else 2 * (-value).toNat - 1) = folded
  have short : folded < 0x100000000 := by split at folding <;> omega
  have unfolded : (if folded % 2 = 0 then Int.ofNat (folded / 2) else -Int.ofNat (folded / 2 + 1)) =
      value := by
    simp only [Int.ofNat_eq_natCast]
    split at folding <;> split <;> omega
  have read := (reads_shortNat short).last fun folded =>
    if folded % 2 = 0 then Int.ofNat (folded / 2) else -Int.ofNat (folded / 2 + 1)
  rw [unfolded] at read
  unfold encodeInt
  rwa [folding]

theorem persists_int : Persists decodeInt decodeInt :=
  persists_shortNat.last _

/-- Every double is read back with all its bits, an undefined one too. -/
theorem reads_double (value : Double) : Reads decodeDouble (encodeDouble value) value := by
  have read := (@reads_littleEndian 8 _ value.bits.toNat_lt).last fun bits : Nat =>
    (⟨bits.toUInt64⟩ : Double)
  rwa [Nat.toUInt64, UInt64.ofNat_toNat] at read

theorem persists_double : Persists decodeDouble decodeDouble :=
  (persists_littleEndian 8).last _

/-! ## Truth values and optional parts -/

theorem reads_bool (value : Bool) : Reads decodeBool (encodeBool value) value := by
  cases value
  · exact .byte (.pure false)
  · exact .byte (.pure true)

theorem persists_bool : Persists decodeBool decodeBool := by
  refine Persists.byte.bind fun tag => ?_
  split
  · exact .pure false
  · exact .pure true
  · exact .failure

section

variable {encode : α → Bytes} {decode other : Decoder α}

theorem reads_option {value : Option α} (each : ∀ part ∈ value, Reads decode (encode part) part) :
    Reads (decodeOption decode) (encodeOption encode value) value := by
  cases value with
  | none => exact .byte (.pure none)
  | some part => exact .byte ((each part rfl).last some)

theorem persists_option (part : Persists decode other) :
    Persists (decodeOption decode) (decodeOption other) := by
  refine Persists.byte.bind fun tag => ?_
  split
  · exact .pure none
  · exact part.last some
  · exact .failure

/-! ## Lists and texts -/

theorem reads_items {items : List α} (each : ∀ item ∈ items, Reads decode (encode item) item) :
    Reads (decodeItems decode items.length) (encodeItems encode items) items := by
  induction items with
  | nil => exact .pure []
  | cons item rest ih =>
      rw [List.forall_mem_cons] at each
      exact each.1.bind ((ih each.2).last (item :: ·))

theorem persists_items (item : Persists decode other) (count : Nat) :
    Persists (decodeItems decode count) (decodeItems other count) := by
  induction count with
  | zero => exact .pure []
  | succ count ih => exact item.bind fun first => ih.last (first :: ·)

theorem reads_list {fits : α → Prop} {items : List α} (all : ListFits fits items)
    (each : ∀ item, fits item → Reads decode (encode item) item) :
    Reads (decodeList decode) (encodeList encode items) items :=
  (reads_nat all.1).bind (reads_items fun item member => each item (all.2 item member))

theorem persists_list (item : Persists decode other) :
    Persists (decodeList decode) (decodeList other) :=
  persists_nat.bind (persists_items item)

end

theorem reads_bytes (bytes : Bytes) : Reads (decodeBytes bytes.length) bytes bytes := by
  intro rest
  simp [decodeBytes, StateT.run]

theorem persists_bytes (count : Nat) : Persists (decodeBytes count) (decodeBytes count) := by
  intro bytes value rest read more
  simp only [decodeBytes, StateT.run, Option.ite_none_right_eq_some, Option.some.injEq,
    Prod.mk.injEq] at read ⊢
  obtain ⟨isLength, rfl, rfl⟩ := read
  have enough : count ≤ bytes.length := by
    rw [← isLength]
    exact List.length_take_le' count bytes
  rw [List.take_append_of_le_length enough, List.drop_append_of_le_length enough]
  exact ⟨isLength, rfl, rfl⟩

/-- The bytes from a position on are put behind those already taken, which are held in reverse. -/
theorem toList_loop (bytes : ByteArray) (position : Nat) (before : List UInt8) :
    ByteArray.toList.loop bytes position before =
      before.reverse ++ bytes.data.toList.drop position := by
  fun_induction ByteArray.toList.loop bytes position before with
  | case1 position before inside ih =>
      have within : position < bytes.data.size := inside
      have here : bytes.get! position = bytes.data[position] := by
        obtain ⟨data⟩ := bytes
        exact getElem!_pos data position inside
      have split : bytes.data.toList.drop position =
          bytes.data[position] :: bytes.data.toList.drop (position + 1) :=
        List.drop_eq_getElem_cons within
      rw [ih, here, List.reverse_cons, List.append_assoc, split]
      rfl
  | case2 position before outside =>
      rw [List.drop_eq_nil_of_le (Nat.le_of_not_lt outside), List.append_nil]

theorem toList_eq_data (bytes : ByteArray) : bytes.toList = bytes.data.toList := by
  rw [ByteArray.toList, toList_loop]
  rfl

theorem reads_text {text : String} (fits : TextFits text) :
    Reads decodeText (encodeText text) text := by
  have length : text.toUTF8.toList.length = text.utf8ByteSize := by
    rw [toList_eq_data]
    rfl
  have again : String.fromUTF8? ⟨text.toUTF8.toList.toArray⟩ = some text := by
    rw [toList_eq_data]
    exact dif_pos text.isValidUTF8
  refine (reads_nat (length ▸ fits)).bind fun rest => ?_
  refine run_bind_eq_some_iff.2 ⟨_, rest, reads_bytes _ rest, ?_⟩
  rw [again]
  rfl

theorem persists_text : Persists decodeText decodeText := by
  refine persists_nat.bind fun count => (persists_bytes count).bind fun bytes => ?_
  split
  · exact .pure _
  · exact .failure

section

variable {decodeFirst : Decoder α} {decodeSecond : Decoder β}

theorem reads_pair {encodeFirst : α → Bytes} {encodeSecond : β → Bytes} {pair : α × β}
    (first : Reads decodeFirst (encodeFirst pair.1) pair.1)
    (second : Reads decodeSecond (encodeSecond pair.2) pair.2) :
    Reads (decodePair decodeFirst decodeSecond) (encodePair encodeFirst encodeSecond pair) pair :=
  first.bind (second.last (pair.1, ·))

theorem persists_pair (first : Persists decodeFirst decodeFirst)
    (second : Persists decodeSecond decodeSecond) :
    Persists (decodePair decodeFirst decodeSecond) (decodePair decodeFirst decodeSecond) :=
  first.bind fun value => second.last (value, ·)

end

end DecisionFlow.Image
