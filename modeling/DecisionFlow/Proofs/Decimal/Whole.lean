import DecisionFlow.Decimal.Binary
import DecisionFlow.Decimal.Reading
import Mathlib.Algebra.Order.Ring.Int
import Mathlib.Data.Nat.Digits.Defs
import Mathlib.Tactic.Positivity

/-!
# Whole numbers as doubles

A double is split into its parts by arithmetic on its bits. Lean's model of floating point unpacks
the same bits field by field, and both give the same parts (`Binary.ofFloat_eq`). So what the model
says about conversions, rounding and equality holds of the parts.

Packing loses nothing of a double that was unpacked (`unpack_pack_unpack`): it puts the sign, the
exponent and the significand back, with all bits of the significand or at the least exponent.

A whole number below `2 ^ 53` fills a significand after a shift, which nothing has to be rounded
off, so it is read as the one double with that significand (`toFloat_whole`).
-/

set_option autoImplicit false

namespace DecisionFlow.Decimal

open Float.Model UnpackedFloat

/-! ## The parts of a double -/

theorem toNat_unpackExponent (bits : BitVec 64) :
    (@unpackExponent .binary64 bits).toNat = bits.toNat / hiddenBit % 0x800 := by
  unfold unpackExponent
  rw [BitVec.toNat_cast, BitVec.extractLsb_toNat, Nat.shiftRight_eq_div_pow]
  rfl

theorem toNat_unpackMantissa (bits : BitVec 64) :
    (@unpackMantissa .binary64 bits).toNat = bits.toNat % hiddenBit := by
  unfold unpackMantissa
  rw [BitVec.toNat_cast, BitVec.extractLsb_toNat, Nat.shiftRight_zero]
  rfl

theorem unpackExponent_eq_iff {bits : BitVec 64} (field : BitVec 11) :
    @unpackExponent .binary64 bits = field ↔
      bits.toNat / hiddenBit % 0x800 = field.toNat := by
  rw [← BitVec.toNat_inj, toNat_unpackExponent]

theorem unpackMantissa_eq_zero_iff {bits : BitVec 64} :
    @unpackMantissa .binary64 bits = 0#52 ↔ bits.toNat % hiddenBit = 0 := by
  rw [← BitVec.toNat_inj, toNat_unpackMantissa, BitVec.toNat_zero]

theorem toNat_unpackSign (bits : BitVec 64) :
    (@unpackSign .binary64 bits).toNat = bits.toNat / 0x8000000000000000 := by
  unfold unpackSign
  rw [BitVec.toNat_cast, BitVec.extractLsb_toNat, Nat.shiftRight_eq_div_pow]
  exact Nat.mod_eq_of_lt (Nat.div_lt_of_lt_mul bits.isLt)

theorem ofBitVec_unpackSign_beq (bits : BitVec 64) :
    (Sign.ofBitVec (@unpackSign .binary64 bits) == .negative) =
      decide (0x8000000000000000 ≤ bits.toNat) := by
  have positive : @unpackSign .binary64 bits = 0#1 ↔
      ¬ 0x8000000000000000 ≤ bits.toNat := by
    rw [← BitVec.toNat_inj, toNat_unpackSign, BitVec.toNat_zero]
    omega
  rw [Sign.ofBitVec, if_congr positive rfl rfl]
  by_cases large : 0x8000000000000000 ≤ bits.toNat
  · rw [if_neg (not_not_intro large), decide_eq_true large]
    rfl
  · rw [if_pos large, decide_eq_false large]
    rfl

/-- The hidden bit stands above all stored bits. -/
theorem toNat_hiddenBit_append (mantissa : BitVec 52) :
    (1#1 ++ mantissa).toNat = hiddenBit + mantissa.toNat := by
  rw [BitVec.toNat_append, ← Nat.shiftLeft_add_eq_or_of_lt mantissa.isLt]
  rfl

/-- The sign stands above the exponent and the significand. -/
theorem ofBitVec_unpackSign_packComponents (sign : Sign) (exponent : BitVec 11)
    (mantissa : BitVec 52) : Sign.ofBitVec (@unpackSign .binary64
      (packComponents .binary64 sign exponent mantissa)) = sign := by
  have stacked : (sign.toBitVec ++ exponent ++ mantissa).toNat =
      (sign.toBitVec.toNat * 2 ^ 11 + exponent.toNat) * 2 ^ 52 + mantissa.toNat := by
    rw [BitVec.toNat_append, ← Nat.shiftLeft_add_eq_or_of_lt mantissa.isLt, Nat.shiftLeft_eq,
      BitVec.toNat_append, ← Nat.shiftLeft_add_eq_or_of_lt exponent.isLt, Nat.shiftLeft_eq]
  have top : @unpackSign .binary64 (packComponents .binary64 sign exponent mantissa) =
      sign.toBitVec := by
    rw [← BitVec.toNat_inj, toNat_unpackSign, packComponents]
    have exponentBelow := exponent.isLt
    have mantissaBelow := mantissa.isLt
    omega
  rw [top]
  cases sign <;> rfl

/-- Between the least and the greatest value of the exponent's field the hidden bit is put back. -/
theorem unpack_of_normal {bits : BitVec 64} {sign : Sign} {mantissa : Nat} {exponent : Int}
    (positive : 0 < mantissa) (notFull : @unpackExponent .binary64 bits ≠ -1#11)
    (notEmpty : @unpackExponent .binary64 bits ≠ 0#11)
    (hasSign : Sign.ofBitVec (@unpackSign .binary64 bits) = sign)
    (hasMantissa : (1#1 ++ @unpackMantissa .binary64 bits).toNat = mantissa)
    (hasExponent : ((@unpackExponent .binary64 bits).toNat : Int) - 1075 = exponent) :
    UnpackedFloat.unpack .binary64 bits = .finite sign mantissa exponent positive := by
  subst hasSign hasMantissa hasExponent
  unfold UnpackedFloat.unpack
  dsimp only
  rw [if_neg notFull, if_neg notEmpty]
  rfl

theorem unpack_of_subnormal {bits : BitVec 64} {sign : Sign} {mantissa : Nat}
    (positive : 0 < mantissa) (isEmpty : @unpackExponent .binary64 bits = 0#11)
    (hasSign : Sign.ofBitVec (@unpackSign .binary64 bits) = sign)
    (hasMantissa : (@unpackMantissa .binary64 bits).toNat = mantissa) :
    UnpackedFloat.unpack .binary64 bits = .finite sign mantissa (-1074) positive := by
  subst hasSign hasMantissa
  have nonzero : @unpackMantissa .binary64 bits ≠ 0#52 := by
    intro isZero
    rw [isZero] at positive
    exact absurd positive (by decide)
  have notFull : @unpackExponent .binary64 bits ≠ -1#11 := by
    rw [isEmpty]
    decide
  unfold UnpackedFloat.unpack
  dsimp only
  rw [if_neg notFull, if_pos isEmpty, dif_neg nonzero, isEmpty]
  rfl

/-- The parts of an unpacked number. -/
def Binary.ofUnpacked : UnpackedFloat → Binary
  | .notANumber => .notANumber
  | .infinity sign => .infinite (sign == .negative)
  | .zero sign => .finite (sign == .negative) 0 (-1074)
  | .finite sign mantissa exponent _ => .finite (sign == .negative) mantissa exponent

/-- Splitting a double gives what unpacking gives. -/
theorem Binary.ofFloat_eq (x : Float) : Binary.ofFloat x = ofUnpacked x.toModel.unpack := by
  have exponent := toNat_unpackExponent x.toModel.toBits.toBitVec
  have mantissa := toNat_unpackMantissa x.toModel.toBits.toBitVec
  have negative := ofBitVec_unpackSign_beq x.toModel.toBits.toBitVec
  have here : x.toBits.toNat = x.toModel.toBits.toBitVec.toNat := rfl
  rw [Binary.ofFloat]
  unfold Float.Model.unpack UnpackedFloat.unpack
  dsimp only
  rw [here]
  generalize x.toModel.toBits.toBitVec = bits at *
  by_cases full : bits.toNat / hiddenBit % 0x800 = 2047
  · rw [if_pos full, if_pos ((unpackExponent_eq_iff (-1#11)).2 full)]
    by_cases whole : bits.toNat % hiddenBit = 0
    · rw [if_pos whole, if_pos (unpackMantissa_eq_zero_iff.2 whole), ← negative]
      rfl
    · rw [if_neg whole, if_neg (mt unpackMantissa_eq_zero_iff.1 whole)]
      rfl
  · rw [if_neg full, if_neg (mt (unpackExponent_eq_iff (-1#11)).1 full)]
    by_cases empty : bits.toNat / hiddenBit % 0x800 = 0
    · have noExponent := (unpackExponent_eq_iff 0#11).2 empty
      rw [if_pos empty, if_pos noExponent]
      by_cases whole : bits.toNat % hiddenBit = 0
      · rw [dif_pos (unpackMantissa_eq_zero_iff.2 whole), ← negative, whole]
        rfl
      · rw [dif_neg (mt unpackMantissa_eq_zero_iff.1 whole), ← negative, noExponent]
        exact congrArg (finite _ · (-1074)) mantissa.symm
    · rw [if_neg empty, if_neg (mt (unpackExponent_eq_iff 0#11).1 empty), ← negative, ← mantissa,
        ← exponent, ← toNat_hiddenBit_append]
      rfl

/-- A significand has at most fifty-three bits, and fewer only at the least exponent. -/
theorem Binary.bounds {x : Float} {negative : Bool} {significand : Nat} {exponent : Int}
    (parts : Binary.ofFloat x = .finite negative significand exponent) :
    significand < 2 * hiddenBit ∧ (hiddenBit ≤ significand ∨ exponent = -1074) ∧
      -1074 ≤ exponent ∧ exponent ≤ 971 := by
  have fraction : x.toBits.toNat % hiddenBit < hiddenBit := Nat.mod_lt _ (by decide)
  have biased : x.toBits.toNat / hiddenBit % 0x800 < 0x800 := Nat.mod_lt _ (by decide)
  rw [Binary.ofFloat] at parts
  split at parts
  · split at parts <;> cases parts
  · split at parts <;> cases parts
    · omega
    · simp only [Int.ofNat_eq_natCast]
      omega

/-- A finite double is a zero, or it has a positive significand. -/
theorem unpack_of_finite {x : Float} {negative : Bool} {significand : Nat} {exponent : Int}
    (parts : Binary.ofFloat x = .finite negative significand exponent) :
    (significand = 0 ∧ ∃ sign, x.toModel.unpack = .zero sign) ∨ ∃ positive, x.toModel.unpack =
      .finite (if negative then .negative else .positive) significand exponent positive := by
  rw [Binary.ofFloat_eq] at parts
  cases unpacked : x.toModel.unpack with
  | notANumber =>
      rw [unpacked] at parts
      cases parts
  | infinity sign =>
      rw [unpacked] at parts
      cases parts
  | zero sign =>
      rw [unpacked] at parts
      cases parts
      exact .inl ⟨rfl, sign, rfl⟩
  | finite sign mantissa scale positive =>
      rw [unpacked] at parts
      cases parts
      exact .inr ⟨positive, by cases sign <;> rfl⟩

/-! ## Whole numbers -/

theorem magnitude_of_signed {negative : Bool} {magnitude : Nat} {whole : Int}
    (signed : (if negative then -Int.ofNat magnitude else Int.ofNat magnitude) = whole) :
    magnitude = whole.natAbs ∧ (whole ≠ 0 → negative = decide (whole < 0)) := by
  cases negative <;> simp at signed ⊢ <;> omega

/-- The significand of a whole number other than zero is the number, shifted up to the hidden bit. -/
theorem Binary.exists_shift {x : Float} {whole : Int}
    (isWhole : (Binary.ofFloat x).toInt? = some whole) (nonzero : whole ≠ 0)
    (exact : whole.natAbs < 2 * hiddenBit) :
    ∃ shift : Nat, Binary.ofFloat x =
        .finite (whole < 0) (whole.natAbs * 2 ^ shift) (-shift) ∧
      hiddenBit ≤ whole.natAbs * 2 ^ shift ∧ whole.natAbs * 2 ^ shift < 2 * hiddenBit := by
  cases parts : Binary.ofFloat x with
  | notANumber => simp [parts, toInt?] at isWhole
  | infinite negative => simp [parts, toInt?] at isWhole
  | finite negative significand exponent =>
      obtain ⟨fits, normal, least, -⟩ := bounds parts
      rw [parts, toInt?] at isWhole
      dsimp only at isWhole
      split at isWhole
      next above =>
        obtain ⟨up, rfl⟩ := Int.eq_ofNat_of_zero_le above
        obtain ⟨same, sign⟩ := magnitude_of_signed (Option.some.inj isWhole)
        obtain rfl := sign nonzero
        rw [Int.toNat_natCast, Nat.shiftLeft_eq] at same
        have normal : hiddenBit ≤ significand := normal.resolve_right (by omega)
        -- A significand with all its bits cannot be shifted up within fifty-three bits.
        have unshifted : up = 0 := by
          by_contra shifted
          have doubled : 2 ≤ 2 ^ up := Nat.le_self_pow shifted 2
          have large := Nat.mul_le_mul normal doubled
          omega
        subst unshifted
        rw [pow_zero, mul_one] at same
        subst same
        exact ⟨0, by rw [pow_zero, mul_one]; rfl, by rwa [pow_zero, mul_one],
          by rwa [pow_zero, mul_one]⟩
      next below =>
        obtain ⟨down, rfl⟩ := Int.exists_eq_neg_ofNat (Int.le_of_not_le below)
        split at isWhole
        next divided =>
          obtain ⟨same, sign⟩ := magnitude_of_signed (Option.some.inj isWhole)
          obtain rfl := sign nonzero
          rw [same, neg_neg, Int.toNat_natCast, Nat.shiftLeft_eq] at divided
          subst divided
          refine ⟨down, rfl, normal.resolve_right fun lowest => ?_, fits⟩
          -- At the least exponent the significand would be the number times a huge power of two.
          have positive : 1 ≤ whole.natAbs := by omega
          have huge : 2 ^ 1074 ≤ whole.natAbs * 2 ^ down := by
            rw [show down = 1074 by omega]
            exact Nat.le_mul_of_pos_left _ positive
          exact absurd (huge.trans_lt fits) (by decide +kernel)
        next => cases isWhole

/-! ## Rounding what is exact -/

theorem shiftRight_exact (mantissa shift : Nat) :
    (⟨mantissa * 2 ^ shift, false, false⟩ : ExtendedMantissa) >>> shift =
      ⟨mantissa, false, false⟩ := by
  change shift.repeat ExtendedMantissa.shiftRightOne _ = _
  induction shift generalizing mantissa with
  | zero => simp [Nat.repeat]
  | succ shift ih =>
      rw [Nat.repeat, pow_succ', ← mul_assoc, ih, ExtendedMantissa.shiftRightOne]
      simp

theorem log2_mul_two_pow {number : Nat} (nonzero : number ≠ 0) (shift : Nat) :
    (number * 2 ^ shift).log2 = number.log2 + shift := by
  obtain ⟨low, high⟩ := (Nat.log2_eq_iff nonzero).1 rfl
  rw [Nat.log2_eq_iff (by positivity), add_right_comm, pow_add, pow_add]
  exact ⟨Nat.mul_le_mul_right _ low, Nat.mul_lt_mul_of_pos_right high (by positivity)⟩

section Normal

variable {mantissa : Nat} {exponent : Int}
  (normal : hiddenBit ≤ mantissa) (fits : mantissa < 2 * hiddenBit)
include normal fits

theorem ne_zero_of_normal : mantissa ≠ 0 := by
  rintro rfl
  exact absurd normal (by decide)

theorem log2_of_normal : mantissa.log2 = 52 :=
  (Nat.log2_eq_iff (ne_zero_of_normal normal fits)).2 ⟨normal, fits⟩

/-- Below its exponent a significand with all its bits is shifted down to them. -/
theorem shiftToTargetExponent_shifted (shift : Nat) (least : -1074 ≤ exponent) :
    shiftToTargetExponent .binary64 (mantissa * 2 ^ shift) (exponent - shift) .exact =
      (⟨mantissa, false, false⟩, exponent) := by
  have target : Format.binary64.targetExponent
      (totalExponent (mantissa * 2 ^ shift) (exponent - shift)) = exponent := by
    have lowest : Format.binary64.minExponent = -1074 := rfl
    have bits : Format.binary64.mantissaBits = 53 := rfl
    have size := log2_of_normal normal fits
    rw [Format.targetExponent, totalExponent, log2_mul_two_pow (ne_zero_of_normal normal fits),
      size, lowest, bits]
    omega
  have amount : (exponent - (exponent - shift)).toNat = shift := by omega
  rw [shiftToTargetExponent, target, shiftToExponent]
  simp only [amount, ExtendedMantissa.ofMantissaAndAccuracy, shiftRight_exact, sub_add_cancel]

theorem roundWithAccuracy_shifted (sign : Sign) (shift : Nat) (least : -1074 ≤ exponent) :
    roundWithAccuracy .binary64 sign (mantissa * 2 ^ shift) (exponent - shift) .exact =
      .finite sign mantissa exponent (Nat.lt_of_lt_of_le (by decide) normal) := by
  have again := shiftToTargetExponent_shifted normal fits 0 least
  rw [pow_zero, mul_one, Nat.cast_zero, sub_zero] at again
  have rounded : (⟨mantissa, false, false⟩ : ExtendedMantissa).roundedMantissa = mantissa := rfl
  rw [roundWithAccuracy, shiftToTargetExponent_shifted normal fits shift least]
  dsimp only
  rw [rounded, again]
  exact dif_neg (ne_zero_of_normal normal fits)

/-- What is packed with all its bits is unpacked again. -/
theorem unpack_pack_normal {sign : Sign} (least : -1074 ≤ exponent) (most : exponent ≤ 971) :
    (Float.Model.pack (.finite sign mantissa exponent
      (Nat.lt_of_lt_of_le (by decide) normal))).unpack =
        .finite sign mantissa exponent (Nat.lt_of_lt_of_le (by decide) normal) := by
  obtain ⟨biased, isBiased⟩ := Int.eq_ofNat_of_zero_le (a := exponent + 1075) (by omega)
  have written : (exponent + Format.binary64.exponentBias +
      Format.binary64.mantissaBitsWithoutImplicit).toNat = biased := by
    change (exponent + (1023 : Nat) + (52 : Nat)).toNat = biased
    omega
  have field : (BitVec.ofNat 11 biased).toNat = biased := by
    rw [BitVec.toNat_ofNat, Nat.mod_eq_of_lt (by omega)]
  have restored : (1#1 ++ BitVec.ofNat 52 mantissa).toNat = mantissa := by
    rw [toNat_hiddenBit_append, BitVec.toNat_ofNat]
    unfold hiddenBit at *
    omega
  have packed : UnpackedFloat.pack .binary64 (.finite sign mantissa exponent
      (Nat.lt_of_lt_of_le (by decide) normal)) =
        packComponents .binary64 sign (BitVec.ofNat 11 biased) (BitVec.ofNat 52 mantissa) := by
    unfold UnpackedFloat.pack
    dsimp only
    rw [written, log2_of_normal normal fits, if_neg (by omega)]
    exact if_pos rfl
  have notFull : BitVec.ofNat 11 biased ≠ -1#11 := by
    rw [Ne, ← BitVec.toNat_inj, field]
    change biased ≠ 2047
    omega
  have notEmpty : BitVec.ofNat 11 biased ≠ 0#11 := by
    rw [Ne, ← BitVec.toNat_inj, field, BitVec.toNat_zero]
    omega
  change UnpackedFloat.unpack .binary64 (UnpackedFloat.pack .binary64 _) = _
  rw [packed]
  apply unpack_of_normal
  · rwa [unpackExponent_packComponents]
  · rwa [unpackExponent_packComponents]
  · exact ofBitVec_unpackSign_packComponents ..
  · rw [unpackMantissa_packComponents, restored]
  · rw [unpackExponent_packComponents, field]
    omega

end Normal

/-! ## Packing again -/

/-- What is packed below the hidden bit is unpacked again. -/
theorem unpack_pack_subnormal {sign : Sign} {mantissa : Nat} (positive : 0 < mantissa)
    (below : mantissa < hiddenBit) :
    (Float.Model.pack (.finite sign mantissa (-1074) positive)).unpack =
      .finite sign mantissa (-1074) positive := by
  have size : mantissa.log2 < 52 := (Nat.log2_lt positive.ne').2 below
  have field : (BitVec.ofNat 52 mantissa).toNat = mantissa :=
    Nat.mod_eq_of_lt below
  have packed : UnpackedFloat.pack .binary64 (.finite sign mantissa (-1074) positive) =
      packComponents .binary64 sign 0#11 (BitVec.ofNat 52 mantissa) := by
    have bits : Format.binary64.mantissaBits = 53 := rfl
    unfold UnpackedFloat.pack
    dsimp only
    rw [if_neg (by decide), if_neg (by omega)]
  change UnpackedFloat.unpack .binary64 (UnpackedFloat.pack .binary64 _) = _
  rw [packed]
  apply unpack_of_subnormal
  · exact unpackExponent_packComponents
  · exact ofBitVec_unpackSign_packComponents ..
  · rw [unpackMantissa_packComponents, field]

/-- Of an unpacked double nothing is lost when it is packed again. -/
theorem unpack_pack_unpack (x : Float) :
    (Float.Model.pack x.toModel.unpack).unpack = x.toModel.unpack := by
  have split := Binary.ofFloat_eq x
  cases unpacked : x.toModel.unpack with
  | notANumber => rfl
  | infinity sign => cases sign <;> rfl
  | zero sign => cases sign <;> rfl
  | finite sign mantissa exponent positive =>
      rw [unpacked] at split
      obtain ⟨fits, normal | rfl, least, most⟩ := Binary.bounds split
      · exact unpack_pack_normal normal fits least most
      · by_cases normal : hiddenBit ≤ mantissa
        · exact unpack_pack_normal normal fits least most
        · exact unpack_pack_subnormal positive (Nat.lt_of_not_le normal)

/-! ## Whole numbers packed -/

theorem ofNat_shifted {number shift : Nat} (normal : hiddenBit ≤ number * 2 ^ shift)
    (fits : number * 2 ^ shift < 2 * hiddenBit) :
    UnpackedFloat.ofNat .binary64 number = .finite .positive (number * 2 ^ shift) (-shift)
      (Nat.lt_of_lt_of_le (by decide) normal) := by
  have nonzero : number ≠ 0 := left_ne_zero_of_mul (ne_zero_of_normal normal fits)
  have size : number.log2 + shift = 52 := by
    rw [← log2_mul_two_pow nonzero, log2_of_normal normal fits]
  have target : Format.binary64.targetExponent (totalExponent number 0) = -shift := by
    have lowest : Format.binary64.minExponent = -1074 := rfl
    have bits : Format.binary64.mantissaBits = 53 := rfl
    rw [Format.targetExponent, totalExponent, lowest, bits]
    omega
  have amount : ((0 : Int) - -shift).toNat = shift := by omega
  have least : (-1074 : Int) ≤ -shift := by omega
  have rounded := roundWithAccuracy_shifted normal fits .positive 0 least
  rw [pow_zero, mul_one, Nat.cast_zero, sub_zero] at rounded
  have above : compare (number : Int) 0 = .gt :=
    compare_gt_iff_gt.2 (Int.natCast_pos.2 (Nat.pos_of_ne_zero nonzero))
  rw [UnpackedFloat.ofNat, UnpackedFloat.ofInt, UnpackedFloat.normalize, above]
  dsimp only
  rw [Int.toNat_natCast, UnpackedFloat.round, target, decreaseExponent]
  dsimp only
  rw [amount, Nat.shiftLeft_eq, zero_sub]
  exact rounded

/-- One has the significand of the hidden bit alone. -/
theorem unpack_one : (Float.ofBits 0x3FF0000000000000).toModel.unpack =
    .finite .positive hiddenBit (-52) (by decide) := by
  rfl

/-- The double of a whole number has its significand shifted up to the hidden bit. -/
theorem ofScientific_shifted {number shift : Nat} (normal : hiddenBit ≤ number * 2 ^ shift)
    (fits : number * 2 ^ shift < 2 * hiddenBit) :
    Float.ofScientific number false 0 = .ofModel (.pack (.finite .positive (number * 2 ^ shift)
      (-shift) (Nat.lt_of_lt_of_le (by decide) normal))) := by
  have small : number < 2 ^ 53 := (Nat.le_mul_of_pos_right number (by positivity)).trans_lt fits
  have nonzero : number ≠ 0 := left_ne_zero_of_mul (ne_zero_of_normal normal fits)
  have shiftSmall : shift ≤ 52 := by
    have size := log2_mul_two_pow nonzero shift
    rw [log2_of_normal normal fits] at size
    omega
  have word : number.toUInt64.toNat = number := Nat.mod_eq_of_lt (by omega)
  have converted : number.toUInt64.toFloat = .ofModel (.pack (.finite .positive
      (number * 2 ^ shift) (-shift) (Nat.lt_of_lt_of_le (by decide) normal))) := by
    change Float.ofModel (.pack (UnpackedFloat.ofNat .binary64 number.toUInt64.toNat)) = _
    rw [word, ofNat_shifted normal fits]
  rw [Float.ofScientific, dif_pos ⟨small, by decide⟩]
  change number.toUInt64.toFloat * Float.ofBits 0x3FF0000000000000 = _
  rw [converted]
  change Float.ofModel (.pack (UnpackedFloat.mul .binary64 (Float.Model.pack _).unpack
    (Float.ofBits 0x3FF0000000000000).toModel.unpack)) = _
  rw [unpack_pack_normal normal fits (by omega) (by omega), unpack_one]
  exact congrArg (Float.ofModel <| .pack ·) (roundWithAccuracy_shifted normal fits .positive
    52 (by omega))

/-! ## Reading -/

/-- A whole number of at most sixteen digits is not rounded when it is read. -/
theorem toFloat_eq_ofScientific {negative : Bool} {number : Nat} (nonzero : number ≠ 0)
    (small : number < 2 * hiddenBit) : toFloat negative number 0 =
      if negative then -Float.ofScientific number false 0 else Float.ofScientific number false 0 := by
  have digits : (Nat.toDigits 10 number).length ≤ 16 :=
    Nat.toDigits_length 10 number 16 (by decide) (small.trans (by decide))
  have near : ¬ (number = 0 ∨ ((Nat.toDigits 10 number).length : Int) < -400) := by omega
  have bounded : ¬ 400 < ((Nat.toDigits 10 number).length : Int) := by omega
  simp only [toFloat, zero_add, if_neg near, if_neg bounded, le_refl, if_true, Int.toNat_zero]

/-- Of the whole numbers only zero has the significand zero. -/
theorem unpack_of_zero {x : Float} (isZero : (Binary.ofFloat x).toInt? = some 0) :
    ∃ sign, x.toModel.unpack = .zero sign := by
  cases parts : Binary.ofFloat x with
  | notANumber => simp [parts, Binary.toInt?] at isZero
  | infinite negative => simp [parts, Binary.toInt?] at isZero
  | finite negative significand exponent =>
      have nothing : significand = 0 := by
        rw [parts, Binary.toInt?] at isZero
        dsimp only at isZero
        split at isZero
        · obtain ⟨shifted, -⟩ := magnitude_of_signed (Option.some.inj isZero)
          simpa [Nat.shiftLeft_eq] using shifted
        · split at isZero
          next divided =>
            obtain ⟨shifted, -⟩ := magnitude_of_signed (Option.some.inj isZero)
            rw [← divided, shifted, Int.natAbs_zero, Nat.zero_shiftLeft]
          next => cases isZero
      rcases unpack_of_finite parts with ⟨-, isZero⟩ | ⟨positive, -⟩
      · exact isZero
      · exact absurd nothing positive.ne'

theorem beq_self_of_unpacked_isFinite {unpacked : UnpackedFloat}
    (finite : unpacked.isFinite = true) : unpacked.beq unpacked = true := by
  cases unpacked with
  | notANumber => cases finite
  | infinity sign => cases finite
  | zero sign => rfl
  | finite sign mantissa exponent positive =>
      have same : (compare exponent exponent).then (compare mantissa mantissa) = .eq := by simp
      cases sign with
      | positive => exact beq_iff_eq.2 (congrArg some same)
      | negative => exact beq_iff_eq.2 (congrArg (some <| Ordering.swap ·) same)

/-- A finite number is equal to itself. -/
theorem beq_self_of_isFinite {x : Float} (finite : isFinite x = true) : (x == x) = true :=
  beq_self_of_unpacked_isFinite finite

/-- A whole number is read as the double that it is equal to. -/
theorem toFloat_whole {x : Float} {whole : Int}
    (isWhole : (Binary.ofFloat x).toInt? = some whole) (exact : whole.natAbs < 2 * hiddenBit) :
    (toFloat (whole < 0) whole.natAbs 0 == x) = true := by
  by_cases zero : whole = 0
  · subst zero
    -- Zero is read as the positive zero, which is equal to the negative one.
    obtain ⟨sign, unpacked⟩ := unpack_of_zero isWhole
    change UnpackedFloat.beq (toFloat false 0 0).toModel.unpack x.toModel.unpack = true
    rw [unpacked]
    cases sign <;> decide +kernel
  · obtain ⟨shift, parts, normal, fits⟩ := Binary.exists_shift isWhole zero exact
    rcases unpack_of_finite parts with ⟨nothing, -⟩ | ⟨positive, unpacked⟩
    · exact absurd nothing (ne_zero_of_normal normal fits)
    obtain ⟨-, -, least, most⟩ := Binary.bounds parts
    have same : (toFloat (whole < 0) whole.natAbs 0).toModel.unpack = x.toModel.unpack := by
      rw [toFloat_eq_ofScientific (Int.natAbs_ne_zero.2 zero) exact,
        ofScientific_shifted normal fits, unpacked]
      by_cases below : whole < 0
      · rw [decide_eq_true below]
        change (Float.Model.pack (UnpackedFloat.neg (Float.Model.pack _).unpack)).unpack = _
        rw [unpack_pack_normal normal fits least most]
        exact unpack_pack_normal normal fits least most
      · rw [decide_eq_false below]
        exact unpack_pack_normal normal fits least most
    change UnpackedFloat.beq (toFloat _ _ _).toModel.unpack x.toModel.unpack = true
    rw [same, unpacked]
    exact beq_self_of_unpacked_isFinite rfl

end DecisionFlow.Decimal
