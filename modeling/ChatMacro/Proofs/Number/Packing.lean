import ChatMacro.Number.Binary
import Mathlib

/-!
# Packed doubles

The bits of a double are a sign, a biased exponent and a fraction.  Unpacking a double and packing
it again gives the same double, so doubles are equal as soon as their unpacked forms are.
-/

namespace ChatMacro

namespace Binary

theorem ofFloat?_eq (value : Float) :
    ofFloat? value =
      if value.toBits.toNat / 2 ^ 52 % 2 ^ 11 = 2047 then
        none
      else if value.toBits.toNat / 2 ^ 52 % 2 ^ 11 = 0 then
        some { negative := decide (2 ^ 63 ≤ value.toBits.toNat),
               significand := value.toBits.toNat % 2 ^ 52, exponent := -1074 }
      else
        some { negative := decide (2 ^ 63 ≤ value.toBits.toNat),
               significand := value.toBits.toNat % 2 ^ 52 + 2 ^ 52,
               exponent := ((value.toBits.toNat / 2 ^ 52 % 2 ^ 11 : Nat) : Int) - 1075 } := rfl

theorem whole_eq (number : Binary) :
    number.whole = number.significand * 2 ^ number.exponent.toNat / 2 ^ number.places := rfl

theorem fraction_eq (number : Binary) :
    number.fraction = number.significand * 2 ^ number.exponent.toNat % 2 ^ number.places := rfl

end Binary

namespace Packing

open Float.Model (Format UnpackedFloat)
open Float.Model.UnpackedFloat

/-- The format of doubles. -/
abbrev double : Format := Format.binary64

/-- The sign of a double whose sign bit is `negative`. -/
def signOf (negative : Bool) : Sign :=
  if negative then .negative else .positive

/-- The unpacked double with the given sign bit, biased exponent and fraction. -/
def ofParts (negative : Bool) (biased fraction : Nat) : UnpackedFloat :=
  if biased = 2047 then
    if fraction = 0 then .infinity (signOf negative) else .notANumber
  else if biased = 0 then
    if zero : fraction = 0 then .zero (signOf negative)
    else .finite (signOf negative) fraction (-1074) (Nat.pos_of_ne_zero zero)
  else
    .finite (signOf negative) (2 ^ 52 + fraction) ((biased : Int) - 1075) (by omega)

/-! ## Components of the bits -/

theorem toNat_packComponents (sign : Sign) (exponent : BitVec 11) (fraction : BitVec 52) :
    (packComponents double sign exponent fraction).toNat =
      sign.toBitVec.toNat * 2 ^ 63 + exponent.toNat * 2 ^ 52 + fraction.toNat := by
  have fractionBelow := fraction.isLt
  have exponentBelow := exponent.isLt
  simp only [packComponents, BitVec.toNat_append]
  rw [← Nat.shiftLeft_add_eq_or_of_lt fractionBelow, ← Nat.shiftLeft_add_eq_or_of_lt exponentBelow]
  simp only [Nat.shiftLeft_eq]
  omega

theorem toNat_unpackMantissa (bits : BitVec double.numBits) :
    (unpackMantissa bits).toNat = bits.toNat % 2 ^ 52 := by
  simp [unpackMantissa, BitVec.extractLsb]

theorem toNat_unpackExponent (bits : BitVec double.numBits) :
    (unpackExponent bits).toNat = bits.toNat / 2 ^ 52 % 2 ^ 11 := by
  simp [unpackExponent, BitVec.extractLsb, Nat.shiftRight_eq_div_pow]

theorem toNat_unpackSign (bits : BitVec double.numBits) :
    (unpackSign bits).toNat = bits.toNat / 2 ^ 63 := by
  have below : bits.toNat < 2 ^ 64 := bits.isLt
  simp only [unpackSign, BitVec.extractLsb, BitVec.toNat_cast, BitVec.extractLsb'_toNat,
    Nat.shiftRight_eq_div_pow]
  omega

theorem ofBitVec_unpackSign (bits : BitVec double.numBits) :
    Sign.ofBitVec (unpackSign bits) = signOf (decide (2 ^ 63 ≤ bits.toNat)) := by
  have below : bits.toNat < 2 ^ 64 := bits.isLt
  have split := toNat_unpackSign bits
  have zero_iff : unpackSign bits = 0#1 ↔ ¬ 2 ^ 63 ≤ bits.toNat := by
    rw [← BitVec.toNat_inj, split]
    simp only [BitVec.toNat_ofNat]
    omega
  by_cases negative : 2 ^ 63 ≤ bits.toNat
  · have sign : ¬ unpackSign bits = 0#1 := fun zero => zero_iff.mp zero negative
    simp only [Sign.ofBitVec, signOf, sign, negative, if_false, decide_true, if_true]
  · simp only [Sign.ofBitVec, signOf, zero_iff.mpr negative, negative, decide_false, if_true,
      Bool.false_eq_true, if_false]

/-! ## Unpacking and packing -/

theorem toNat_implicit (fraction : BitVec 52) :
    (1#1 ++ fraction).toNat = 2 ^ 52 + fraction.toNat := by
  rw [BitVec.toNat_append, ← Nat.shiftLeft_add_eq_or_of_lt fraction.isLt]
  simp [Nat.shiftLeft_eq]

theorem unpack_eq_ofParts (bits : BitVec double.numBits) :
    UnpackedFloat.unpack double bits =
      ofParts (decide (2 ^ 63 ≤ bits.toNat)) (bits.toNat / 2 ^ 52 % 2 ^ 11)
        (bits.toNat % 2 ^ 52) := by
  have exponentValue := toNat_unpackExponent bits
  have mantissaValue := toNat_unpackMantissa bits
  have bias : (double.exponentBias : Int) = 1023 := rfl
  have full_iff : unpackExponent bits = -1#11 ↔ bits.toNat / 2 ^ 52 % 2 ^ 11 = 2047 := by
    rw [← exponentValue, ← BitVec.toNat_inj]
    simp
  have empty_iff : unpackExponent bits = 0#11 ↔ bits.toNat / 2 ^ 52 % 2 ^ 11 = 0 := by
    rw [← exponentValue, ← BitVec.toNat_inj]
    simp
  have zero_iff : unpackMantissa bits = 0#52 ↔ bits.toNat % 2 ^ 52 = 0 := by
    rw [← mantissaValue, ← BitVec.toNat_inj]
    simp
  unfold UnpackedFloat.unpack ofParts
  simp only [ofBitVec_unpackSign, full_iff, empty_iff, zero_iff, toNat_implicit, exponentValue,
    mantissaValue, bias]
  by_cases full : bits.toNat / 2 ^ 52 % 2 ^ 11 = 2047
  · simp only [full, if_true]
  · by_cases empty : bits.toNat / 2 ^ 52 % 2 ^ 11 = 0
    · simp only [full, if_false]
      simp only [empty, if_true]
      rfl
    · simp only [full, empty, if_false]
      congr 1

theorem ofBitVec_signBit (negative : Bool) :
    (signOf negative).toBitVec.toNat = if negative then 1 else 0 := by
  cases negative <;> rfl

/-- The bits of packed components, provided that only the standard bits stand for NaN. -/
theorem toNat_pack_ofParts (negative : Bool) {biased fraction : Nat} (biasedBelow : biased < 2 ^ 11)
    (fractionBelow : fraction < 2 ^ 52)
    (standard : biased = 2047 → fraction ≠ 0 → negative = false ∧ fraction = 2 ^ 51) :
    (UnpackedFloat.pack double (ofParts negative biased fraction)).toNat =
      (if negative then 1 else 0) * 2 ^ 63 + biased * 2 ^ 52 + fraction := by
  by_cases full : biased = 2047
  · subst full
    by_cases zero : fraction = 0
    · subst zero
      cases negative <;> rfl
    · obtain ⟨rfl, rfl⟩ := standard rfl zero
      rfl
  · by_cases empty : biased = 0
    · subst empty
      by_cases zero : fraction = 0
      · subst zero
        cases negative <;> rfl
      · have subnormal : ofParts negative 0 fraction =
            .finite (signOf negative) fraction (-1074) (Nat.pos_of_ne_zero zero) := by
          simp [ofParts, zero]
        have short : ¬ fraction.log2 + 1 = double.mantissaBits := by
          have below : fraction.log2 < 52 := (Nat.log2_lt zero).mpr fractionBelow
          have width : double.mantissaBits = 53 := rfl
          omega
        have exponent_eq : (-1074 + (double.exponentBias : Int) +
            (double.mantissaBitsWithoutImplicit : Int)).toNat = 1 := rfl
        rw [subnormal, UnpackedFloat.pack]
        simp only [short, if_false, exponent_eq]
        rw [if_neg (by decide), toNat_packComponents, ofBitVec_signBit]
        simp only [BitVec.toNat_ofNat, Nat.mod_eq_of_lt fractionBelow]
    · have normal : ofParts negative biased fraction =
          .finite (signOf negative) (2 ^ 52 + fraction) ((biased : Int) - 1075) (by omega) := by
        simp only [ofParts, full, empty, if_false]
      have long : (2 ^ 52 + fraction).log2 + 1 = double.mantissaBits := by
        have width : double.mantissaBits = 53 := rfl
        have log_eq : (2 ^ 52 + fraction).log2 = 52 :=
          (Nat.log2_eq_iff (by omega)).mpr ⟨by omega, by omega⟩
        omega
      have bias : (double.exponentBias : Int) = 1023 := rfl
      have exponent_eq : ((biased : Int) - 1075 + (double.exponentBias : Int) +
          (double.mantissaBitsWithoutImplicit : Int)).toNat = biased := by
        have width : (double.mantissaBitsWithoutImplicit : Int) = 52 := rfl
        omega
      have inRange : ¬ 2 ^ 11 ≤ biased + 1 := by omega
      rw [normal, UnpackedFloat.pack]
      simp only [long, if_true, exponent_eq]
      rw [if_neg inRange, toNat_packComponents, ofBitVec_signBit]
      simp only [BitVec.toNat_ofNat, Nat.mod_eq_of_lt biasedBelow]
      omega

theorem neg_ofParts (negative : Bool) (biased fraction : Nat) :
    (ofParts negative biased fraction).neg =
      if biased = 2047 ∧ fraction ≠ 0 then .notANumber
      else ofParts (!negative) biased fraction := by
  have sign_eq : -signOf negative = signOf (!negative) := by
    cases negative <;> rfl
  unfold ofParts
  by_cases full : biased = 2047
  · by_cases zero : fraction = 0
    · simp [full, zero, neg, sign_eq]
    · simp [full, zero, neg]
  · by_cases empty : biased = 0
    · by_cases zero : fraction = 0
      · simp [empty, zero, neg, sign_eq]
      · simp [empty, zero, neg, sign_eq]
    · simp [full, empty, neg, sign_eq]

/-! ## Doubles -/

/-- The bits of a double. -/
abbrev bitsOf (value : Float) : BitVec double.numBits :=
  value.toModel.toBits.toBitVec

/-- The unpacked form of a double. -/
def unpacked (value : Float) : UnpackedFloat :=
  UnpackedFloat.unpack double (bitsOf value)

theorem unpacked_eq_ofParts (value : Float) :
    unpacked value =
      ofParts (decide (2 ^ 63 ≤ value.toBits.toNat)) (value.toBits.toNat / 2 ^ 52 % 2 ^ 11)
        (value.toBits.toNat % 2 ^ 52) :=
  unpack_eq_ofParts (bitsOf value)

/-- Among the bits with a full exponent and a fraction, only the standard ones are a double. -/
theorem standard_of_full (value : Float) (full : value.toBits.toNat / 2 ^ 52 % 2 ^ 11 = 2047)
    (fraction : value.toBits.toNat % 2 ^ 52 ≠ 0) :
    decide (2 ^ 63 ≤ value.toBits.toNat) = false ∧ value.toBits.toNat % 2 ^ 52 = 2 ^ 51 := by
  have valid := value.toModel.valid
  have exponent_eq : unpackExponent (bitsOf value) = -1#11 := by
    rw [← BitVec.toNat_inj, toNat_unpackExponent]
    exact full
  have mantissa_ne : unpackMantissa (bitsOf value) ≠ 0#52 := by
    intro zero
    apply fraction
    rw [← BitVec.toNat_inj, toNat_unpackMantissa] at zero
    exact zero
  have bits_eq : value.toBits.toNat = 0x7ff8000000000000 :=
    congrArg BitVec.toNat (valid.eq_packedNaN exponent_eq mantissa_ne)
  rw [bits_eq]
  exact ⟨by decide, by decide⟩

theorem toNat_pack_unpacked (value : Float) :
    (UnpackedFloat.pack double (unpacked value)).toNat = value.toBits.toNat := by
  have below : value.toBits.toNat < 2 ^ 64 := value.toBits.toNat_lt
  rw [unpacked_eq_ofParts, toNat_pack_ofParts _ (Nat.mod_lt _ (by decide))
    (Nat.mod_lt _ (by decide)) (standard_of_full value)]
  by_cases negative : 2 ^ 63 ≤ value.toBits.toNat
  · simp only [negative, decide_true, if_true]
    omega
  · simp only [negative, decide_false, Bool.false_eq_true, if_false]
    omega

/-- Doubles are equal when their unpacked forms are. -/
theorem eq_of_unpacked_eq {left right : Float} (same : unpacked left = unpacked right) :
    left = right := by
  have bits_eq : left.toBits = right.toBits := by
    apply UInt64.toNat_inj.mp
    rw [← toNat_pack_unpacked left, ← toNat_pack_unpacked right, same]
  cases left with
  | ofModel leftModel =>
      cases right with
      | ofModel rightModel =>
          cases leftModel
          cases rightModel
          cases bits_eq
          rfl

theorem unpack_pack_ofParts (negative : Bool) {biased fraction : Nat}
    (biasedBelow : biased < 2 ^ 11) (fractionBelow : fraction < 2 ^ 52)
    (standard : biased = 2047 → fraction ≠ 0 → negative = false ∧ fraction = 2 ^ 51) :
    UnpackedFloat.unpack double (UnpackedFloat.pack double (ofParts negative biased fraction)) =
      ofParts negative biased fraction := by
  rw [unpack_eq_ofParts, toNat_pack_ofParts negative biasedBelow fractionBelow standard]
  have sign_eq : decide (2 ^ 63 ≤ (if negative then 1 else 0) * 2 ^ 63 + biased * 2 ^ 52 +
      fraction) = negative := by
    cases negative with
    | false => simp only [Bool.false_eq_true, if_false, decide_eq_false_iff_not]; omega
    | true => simp only [if_true, decide_eq_true_eq]; omega
  have biased_eq : ((if negative then 1 else 0) * 2 ^ 63 + biased * 2 ^ 52 + fraction) /
      2 ^ 52 % 2 ^ 11 = biased := by
    split <;> omega
  have fraction_eq : ((if negative then 1 else 0) * 2 ^ 63 + biased * 2 ^ 52 + fraction) %
      2 ^ 52 = fraction := by
    split <;> omega
  rw [sign_eq, biased_eq, fraction_eq]

theorem unpacked_neg (value : Float) : unpacked (-value) = (unpacked value).neg := by
  change UnpackedFloat.unpack double (UnpackedFloat.pack double (unpacked value).neg) = _
  have biasedBelow : value.toBits.toNat / 2 ^ 52 % 2 ^ 11 < 2 ^ 11 := Nat.mod_lt _ (by decide)
  have fractionBelow : value.toBits.toNat % 2 ^ 52 < 2 ^ 52 := Nat.mod_lt _ (by decide)
  rw [unpacked_eq_ofParts, neg_ofParts]
  split
  · rfl
  · next notNaN =>
    rw [unpack_pack_ofParts _ biasedBelow fractionBelow]
    intro full fraction
    exact absurd ⟨full, fraction⟩ notNaN

/-- The exact value of an unpacked double, and none for an infinity or a NaN. -/
def binary? : UnpackedFloat → Option Binary
  | .zero sign => some { negative := sign == .negative, significand := 0, exponent := -1074 }
  | .finite sign significand exponent _ =>
      some { negative := sign == .negative, significand, exponent }
  | _ => none

theorem ofFloat?_eq_binary? (value : Float) : Binary.ofFloat? value = binary? (unpacked value) := by
  have sign_eq (negative : Bool) : (signOf negative == .negative) = negative := by
    cases negative <;> rfl
  rw [unpacked_eq_ofParts]
  rw [Binary.ofFloat?_eq, ofParts]
  by_cases full : value.toBits.toNat / 2 ^ 52 % 2 ^ 11 = 2047
  · by_cases zero : value.toBits.toNat % 2 ^ 52 = 0
    · simp only [full, zero, if_true, binary?]
    · simp only [full, zero, if_true, if_false, binary?]
  · by_cases empty : value.toBits.toNat / 2 ^ 52 % 2 ^ 11 = 0
    · simp only [full, if_false]
      by_cases zero : value.toBits.toNat % 2 ^ 52 = 0
      · simp only [empty, zero, if_true, dif_pos, binary?, sign_eq]
      · simp only [empty, zero, if_true, dif_neg, not_false_eq_true, binary?, sign_eq]
    · simp only [full, empty, if_false, binary?, sign_eq, Nat.add_comm]

/-- Exactly the finite doubles have an exact value. -/
theorem ofFloat?_isSome (value : Float) : (Binary.ofFloat? value).isSome = value.isFinite := by
  rw [ofFloat?_eq_binary?]
  change _ = (unpacked value).isFinite
  cases unpacked value <;> rfl

theorem isFinite_neg (value : Float) : (-value).isFinite = value.isFinite := by
  change (unpacked (-value)).isFinite = (unpacked value).isFinite
  rw [unpacked_neg]
  cases unpacked value <;> rfl

end Packing
end ChatMacro
