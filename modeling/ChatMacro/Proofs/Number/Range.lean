import ChatMacro.Proofs.Number.Finiteness
import ChatMacro.Proofs.Number.Length
import ChatMacro.Proofs.Number.Whole

/-!
# Numbers in range

A result is rounded to the last place that its magnitude leaves, and it becomes an infinity if that
place is too high.  So finite numbers stay finite when they are divided by two or more, and the
doubles of 64-bit integers are finite.
-/

namespace ChatMacro

namespace Packing

open Float.Model (UnpackedFloat totalExponent)
open Float.Model.UnpackedFloat

/-! ## Packing -/

section

variable (sign : Sign) {significand : Nat} {exponent : Int} (positive : 0 < significand)

/-- A number whose exponent has a place among the bits is packed as a finite one. -/
theorem isFinite_unpack_pack_of_le (low : exponent ≤ 971) :
    (UnpackedFloat.unpack double (UnpackedFloat.pack double
      (.finite sign significand exponent positive))).isFinite = true := by
  have bias : (double.exponentBias : Int) = 1023 := rfl
  have width : (double.mantissaBitsWithoutImplicit : Int) = 52 := rfl
  have components_finite {biased : BitVec 11} (room : biased.toNat < 2047)
      (fraction : BitVec 52) : (UnpackedFloat.unpack double
        (packComponents double sign biased fraction)).isFinite = true := by
    have fractionBelow := fraction.isLt
    have biased_eq : (packComponents double sign biased fraction).toNat / 2 ^ 52 % 2 ^ 11 =
        biased.toNat := by
      rw [toNat_packComponents]
      omega
    rw [unpack_eq_ofParts, biased_eq, ofParts, if_neg (Nat.ne_of_lt room)]
    split_ifs <;> rfl
  have inRange : ¬ 2 ^ 11 ≤ (exponent + 1023 + 52).toNat + 1 := by omega
  rw [UnpackedFloat.pack]
  simp only [bias, width]
  rw [if_neg inRange]
  split
  · apply components_finite
    rw [BitVec.toNat_ofNat]
    omega
  · exact components_finite (by decide) _

/-- Every other number becomes an infinity. -/
theorem unpack_pack_of_gt (high : 971 < exponent) :
    UnpackedFloat.unpack double (UnpackedFloat.pack double
      (.finite sign significand exponent positive)) = .infinity sign := by
  have bias : (double.exponentBias : Int) = 1023 := rfl
  have width : (double.mantissaBitsWithoutImplicit : Int) = 52 := rfl
  have outOfRange : 2 ^ 11 ≤ (exponent + 1023 + 52).toNat + 1 := by omega
  rw [UnpackedFloat.pack]
  simp only [bias, width]
  rw [if_pos outOfRange]
  exact unpack_pack_infinity sign

end

theorem isFinite_unpack_pack_zero (sign : Sign) :
    (UnpackedFloat.unpack double (UnpackedFloat.pack double (.zero sign))).isFinite = true := by
  cases sign <;> rfl

/-! ## Rounding -/

/-- Shifting divides the significand and keeps what is lost in two more bits. -/
theorem mantissa_shiftRight (extended : ExtendedMantissa) (shift : Nat) :
    (extended >>> shift).mantissa = extended.mantissa / 2 ^ shift := by
  induction shift with
  | zero => exact (Nat.div_one _).symm
  | succ shift ih =>
      change (extended >>> shift).mantissa / 2 = _
      rw [ih, Nat.div_div_eq_div_mul, Nat.pow_succ]

/-- Rounding keeps a significand or takes the next one. -/
theorem roundedMantissa_bounds (extended : ExtendedMantissa) :
    extended.mantissa ≤ extended.roundedMantissa ∧
      extended.roundedMantissa ≤ extended.mantissa + 1 := by
  obtain ⟨mantissa, roundBit, stickyBit⟩ := extended
  cases roundBit <;> cases stickyBit <;>
    simp only [ExtendedMantissa.roundedMantissa, ExtendedMantissa.accuracy,
      Accuracy.roundToNearestEven] <;> omega

theorem mantissa_ofMantissaAndAccuracy (mantissa : Nat) (accuracy : Accuracy) :
    (ExtendedMantissa.ofMantissaAndAccuracy mantissa accuracy).mantissa = mantissa := by
  cases accuracy with
  | exact => rfl
  | inexact ordering => cases ordering <;> rfl

/-- The place a significand is shifted to. -/
theorem shiftToTargetExponent_exponent (significand : Nat) (exponent : Int)
    (accuracy : Accuracy) :
    (shiftToTargetExponent double significand exponent accuracy).2 =
      max exponent (max (totalExponent significand exponent - 53) (-1074)) := by
  have width : (double.mantissaBits : Int) = 53 := rfl
  have least : double.minExponent = -1074 := rfl
  simp only [shiftToTargetExponent, shiftToExponent, Float.Model.Format.targetExponent, width,
    least]
  omega

/-- Shifted to its place, a significand has 53 bits. -/
theorem shiftToTargetExponent_mantissa_lt (significand : Nat) (exponent : Int)
    (accuracy : Accuracy) :
    (shiftToTargetExponent double significand exponent accuracy).1.mantissa < 2 ^ 53 := by
  have width : (double.mantissaBits : Int) = 53 := rfl
  have least : double.minExponent = -1074 := rfl
  simp only [shiftToTargetExponent, shiftToExponent, mantissa_shiftRight,
    mantissa_ofMantissaAndAccuracy, Float.Model.Format.targetExponent, totalExponent, width, least]
  rw [Nat.div_lt_iff_lt_mul (Nat.two_pow_pos _), ← Nat.pow_add]
  exact Nat.lt_log2_self.trans_le (Nat.pow_le_pow_right (by decide) (by omega))

/-- A magnitude below the greatest power of two is rounded to a finite number. -/
theorem isFinite_unpack_pack_roundWithAccuracy (sign : Sign) {significand : Nat} {exponent : Int}
    (accuracy : Accuracy) (low : exponent ≤ 970)
    (below : totalExponent significand exponent ≤ 1023) :
    (UnpackedFloat.unpack double (UnpackedFloat.pack double
      (roundWithAccuracy double sign significand exponent accuracy))).isFinite = true := by
  have place := shiftToTargetExponent_exponent significand exponent accuracy
  have mantissa_lt := shiftToTargetExponent_mantissa_lt significand exponent accuracy
  rw [roundWithAccuracy]
  generalize shiftToTargetExponent double significand exponent accuracy = first
    at place mantissa_lt ⊢
  obtain ⟨extended, middle⟩ := first
  obtain ⟨_, rounded_le⟩ := roundedMantissa_bounds extended
  have rounded_log2 : extended.roundedMantissa.log2 ≤ 53 := by
    by_cases zero : extended.roundedMantissa = 0
    · simp [zero]
    · exact Nat.lt_succ_iff.mp ((Nat.log2_lt zero).mpr (by dsimp only at mantissa_lt; omega))
  have last := shiftToTargetExponent_exponent extended.roundedMantissa middle .exact
  dsimp only at place ⊢
  split_ifs with zero
  · exact isFinite_unpack_pack_zero sign
  · apply isFinite_unpack_pack_of_le
    rw [last, totalExponent]
    omega

theorem isFinite_roundWithAccuracy (sign : Sign) (significand : Nat) (exponent : Int)
    (accuracy : Accuracy) :
    (roundWithAccuracy double sign significand exponent accuracy).isFinite = true := by
  rw [roundWithAccuracy]
  dsimp only
  split_ifs <;> rfl

/-! ## Normal numbers -/

section

variable {significand : Nat} {exponent : Int} (long : 52 ≤ significand.log2)
  (normal : -1021 ≤ totalExponent significand exponent)

include long normal

/-- Shifted to its place, a long significand has its first bit in front. -/
theorem shiftToTargetExponent_normal (accuracy : Accuracy) :
    (shiftToTargetExponent double significand exponent accuracy).2 =
        totalExponent significand exponent - 53 ∧
      2 ^ 52 ≤ (shiftToTargetExponent double significand exponent accuracy).1.mantissa := by
  have width : (double.mantissaBits : Int) = 53 := rfl
  have least : double.minExponent = -1074 := rfl
  have nonzero : significand ≠ 0 := by
    rintro rfl
    exact absurd long (by decide)
  rw [totalExponent] at normal ⊢
  refine ⟨?_, ?_⟩
  · rw [shiftToTargetExponent_exponent, totalExponent]
    omega
  · simp only [shiftToTargetExponent, shiftToExponent, mantissa_shiftRight,
      mantissa_ofMantissaAndAccuracy, Float.Model.Format.targetExponent, totalExponent, width,
      least]
    rw [Nat.le_div_iff_mul_le (Nat.two_pow_pos _), ← Nat.pow_add]
    refine le_trans (Nat.pow_le_pow_right (by decide) ?_) (Nat.log2_self_le nonzero)
    omega

/-- Rounding keeps a number normal, and raises its magnitude to the next power of two at most. -/
theorem roundWithAccuracy_normal (sign : Sign) (accuracy : Accuracy) :
    ∃ (rounded : Nat) (place : Int) (positive : 0 < rounded),
      roundWithAccuracy double sign significand exponent accuracy =
          .finite sign rounded place positive ∧
        rounded.log2 = 52 ∧ totalExponent significand exponent ≤ place + 53 ∧
        place + 53 ≤ totalExponent significand exponent + 1 := by
  obtain ⟨place_eq, mantissa_ge⟩ := shiftToTargetExponent_normal long normal accuracy
  have mantissa_lt := shiftToTargetExponent_mantissa_lt significand exponent accuracy
  rw [roundWithAccuracy]
  generalize shiftToTargetExponent double significand exponent accuracy = first
    at place_eq mantissa_ge mantissa_lt ⊢
  obtain ⟨extended, middle⟩ := first
  dsimp only at place_eq mantissa_ge mantissa_lt ⊢
  obtain ⟨rounded_ge, rounded_le⟩ := roundedMantissa_bounds extended
  have nonzero : extended.roundedMantissa ≠ 0 := by omega
  have rounded_log2 : 52 ≤ extended.roundedMantissa.log2 ∧ extended.roundedMantissa.log2 ≤ 53 :=
    ⟨(Nat.le_log2 nonzero).mpr (by omega),
      Nat.lt_succ_iff.mp ((Nat.log2_lt nonzero).mpr (by omega))⟩
  have above : -1021 ≤ totalExponent extended.roundedMantissa middle := by
    rw [totalExponent]
    omega
  obtain ⟨last_eq, last_ge⟩ := shiftToTargetExponent_normal rounded_log2.1 above .exact
  have last_lt := shiftToTargetExponent_mantissa_lt extended.roundedMantissa middle .exact
  rw [totalExponent] at last_eq
  rw [dif_neg (by omega)]
  refine ⟨_, _, by omega, rfl, (Nat.log2_eq_iff (by omega)).mpr ⟨last_ge, last_lt⟩, ?_, ?_⟩ <;>
    omega

end

/-- A normal number in range is packed without loss. -/
theorem unpack_pack_normal (sign : Sign) {significand : Nat} {exponent : Int}
    (positive : 0 < significand) (normal : significand.log2 = 52) (low : -1074 ≤ exponent)
    (high : exponent ≤ 971) :
    UnpackedFloat.unpack double (UnpackedFloat.pack double
      (.finite sign significand exponent positive)) =
        .finite sign significand exponent positive := by
  have bounds := (Nat.log2_eq_iff (Nat.ne_of_gt positive)).mp normal
  obtain ⟨negative, rfl⟩ : ∃ negative, sign = signOf negative := by
    cases sign with
    | positive => exact ⟨false, rfl⟩
    | negative => exact ⟨true, rfl⟩
  have parts : ofParts negative (exponent + 1075).toNat (significand - 2 ^ 52) =
      .finite (signOf negative) significand exponent positive := by
    have significand_eq : 2 ^ 52 + (significand - 2 ^ 52) = significand := by omega
    have exponent_eq : ((exponent + 1075).toNat : Int) - 1075 = exponent := by omega
    rw [ofParts, if_neg (by omega), if_neg (by omega)]
    simp only [significand_eq, exponent_eq]
  rw [← parts]
  exact unpack_pack_ofParts negative (by omega) (by omega) (by omega)

/-! ## Products -/

/-- Packing a finite result gives a finite number or an infinity. -/
theorem isFinite_unpack_pack_of_not_isInf {result : UnpackedFloat}
    (finite : result.isFinite = true)
    (noInfinity : (UnpackedFloat.unpack double (UnpackedFloat.pack double result)).isInf = false) :
    (UnpackedFloat.unpack double (UnpackedFloat.pack double result)).isFinite = true := by
  cases result with
  | finite sign significand exponent positive =>
      by_cases low : exponent ≤ 971
      · exact isFinite_unpack_pack_of_le sign positive low
      · rw [unpack_pack_of_gt sign positive (Int.not_le.mp low)] at noInfinity
        cases noInfinity
  | zero sign => exact isFinite_unpack_pack_zero sign
  | _ => cases finite

theorem isFinite_mul_unpacked {left right : UnpackedFloat} (leftFinite : left.isFinite = true)
    (rightFinite : right.isFinite = true) :
    (UnpackedFloat.mul double left right).isFinite = true := by
  cases left with
  | finite sign significand exponent positive =>
      cases right with
      | finite => exact isFinite_roundWithAccuracy _ _ _ _
      | zero => rfl
      | _ => cases rightFinite
  | zero sign =>
      cases right with
      | finite | zero => rfl
      | _ => cases rightFinite
  | _ => cases leftFinite

/-- A product of finite numbers is finite unless it is an infinity. -/
theorem isFinite_mul {left right : Float} (leftFinite : left.isFinite = true)
    (rightFinite : right.isFinite = true) (noInfinity : (left * right).isInf = false) :
    (left * right).isFinite = true :=
  isFinite_unpack_pack_of_not_isInf (isFinite_mul_unpacked leftFinite rightFinite) noInfinity

/-! ## Quotients -/

/-- A quotient is computed on a place that is low enough for its magnitude. -/
theorem divCore_bounds {top bottom : Nat} (bottomPositive : 0 < bottom) {high low : Int}
    (topBelow : totalExponent top high ≤ 1024) (bottomAbove : 2 ≤ totalExponent bottom low) :
    (divCore double top high bottom low).2.1 ≤ 970 ∧
      totalExponent (divCore double top high bottom low).1
        (divCore double top high bottom low).2.1 ≤ 1023 := by
  have width : (double.mantissaBits : Int) = 53 := rfl
  have least : double.minExponent = -1074 := rfl
  simp only [divCore, Float.Model.Format.targetExponent, totalExponent, width, least,
    Nat.shiftLeft_eq] at topBelow bottomAbove ⊢
  generalize place_eq : min (high - low) (max ((top.log2 : Int) + 1 + high -
    ((bottom.log2 : Int) + 1 + low) - 53) (-1074)) = place
  have place_le : place ≤ 970 := by omega
  refine ⟨place_le, ?_⟩
  generalize shift_eq : (high - low - place).toNat = shift
  by_cases zero : top * 2 ^ shift / bottom = 0
  · rw [zero, Nat.log2_zero]
    omega
  · have quotient_lt : (top * 2 ^ shift / bottom).log2 + bottom.log2 < top.log2 + 1 + shift := by
      have lower := Nat.log2_self_le zero
      have bottomLower := Nat.log2_self_le (Nat.ne_of_gt bottomPositive)
      apply (Nat.pow_lt_pow_iff_right (by decide : 1 < 2)).mp
      calc 2 ^ ((top * 2 ^ shift / bottom).log2 + bottom.log2)
          = 2 ^ (top * 2 ^ shift / bottom).log2 * 2 ^ bottom.log2 := Nat.pow_add _ _ _
        _ ≤ top * 2 ^ shift / bottom * bottom := Nat.mul_le_mul lower bottomLower
        _ ≤ top * 2 ^ shift := Nat.div_mul_le_self _ _
        _ < 2 ^ (top.log2 + 1) * 2 ^ shift :=
          Nat.mul_lt_mul_of_pos_right Nat.lt_log2_self (Nat.two_pow_pos _)
        _ = 2 ^ (top.log2 + 1 + shift) := (Nat.pow_add _ _ _).symm
    omega

/-- The magnitude of a finite number is below the greatest power of two. -/
theorem totalExponent_le {value : Float} {number : Binary}
    (exact : Binary.ofFloat? value = some number) :
    totalExponent number.significand number.exponent ≤ 1024 := by
  obtain ⟨significand_lt, _, exponent_le⟩ := Binary.bounds_of_ofFloat? exact
  have bits : number.significand.log2 ≤ 52 := by
    by_cases zero : number.significand = 0
    · simp [zero]
    · exact Nat.lt_succ_iff.mp ((Nat.log2_lt zero).mpr significand_lt)
  rw [totalExponent]
  omega

/-- A quotient by two or more is finite if the dividend is. -/
theorem isFinite_div {left right : Float} {number : Binary} (leftFinite : left.isFinite = true)
    (exact : Binary.ofFloat? right = some number) (significant : 0 < number.significand)
    (large : 2 ≤ totalExponent number.significand number.exponent) :
    (left / right).isFinite = true := by
  change (UnpackedFloat.unpack double (UnpackedFloat.pack double
    (UnpackedFloat.div double (unpacked left) (unpacked right)))).isFinite = true
  have leftExact := ofFloat?_eq_binary? left
  have leftBelow {other : Binary} (same : Binary.ofFloat? left = some other) :
      totalExponent other.significand other.exponent ≤ 1024 := totalExponent_le same
  rw [leftExact] at leftBelow
  rw [ofFloat?_eq_binary?] at exact
  rw [isFinite_eq] at leftFinite
  generalize unpacked left = first at leftFinite leftBelow ⊢
  generalize unpacked right = second at exact ⊢
  cases second with
  | finite sign bottom low bottomPositive =>
      cases exact
      cases first with
      | finite sign top high topPositive =>
          obtain ⟨place_le, total_le⟩ := divCore_bounds bottomPositive (leftBelow rfl) large
          exact isFinite_unpack_pack_roundWithAccuracy _ _ place_le total_le
      | zero => exact isFinite_unpack_pack_zero _
      | _ => cases leftFinite
  | zero sign =>
      cases exact
      cases significant
  | _ => cases exact

/-! ## Decimals without fraction -/

/-- A decimal with a long numeral is rounded from its value. -/
theorem ofScientific_eq_round {digits : Nat} (nonzero : digits ≠ 0) {exponent : Nat}
    (listed : exponent ≤ 2048) :
    UnpackedFloat.ofScientific double digits exponent =
      roundWithAccuracy double .positive (digits * 2 ^ 53 * 10 ^ exponent) (-53) .exact := by
  have bits : (2 ^ double.exponentBits : Int) = 2048 := rfl
  have width : double.mantissaBits = 53 := rfl
  rw [UnpackedFloat.ofScientific, dif_neg nonzero, if_neg (by omega), if_neg (by omega),
    if_pos (Int.natCast_nonneg exponent)]
  simp only [UnpackedFloat.mul, width, Nat.shiftLeft_eq, Int.toNat_natCast]
  rfl

theorem ofScientific_of_long {digits exponent : Nat} (long : ¬ (digits < 2 ^ 53 ∧ exponent ≤ 22)) :
    Float.ofScientific digits false exponent =
      .ofModel (Float.Model.ofScientific digits exponent) := by
  rw [Float.ofScientific, dif_neg long]
  simp only [Bool.false_eq_true, if_false]
  rfl

theorem unpacked_ofScientific {digits exponent : Nat} (nonzero : digits ≠ 0)
    (listed : exponent ≤ 2048) (long : ¬ (digits < 2 ^ 53 ∧ exponent ≤ 22)) :
    unpacked (Float.ofScientific digits false exponent) =
      UnpackedFloat.unpack double (UnpackedFloat.pack double
        (roundWithAccuracy double .positive (digits * 2 ^ 53 * 10 ^ exponent) (-53) .exact)) := by
  rw [ofScientific_of_long long, ← ofScientific_eq_round nonzero listed]
  rfl

/-- A whole number of up to 64 bits has a finite double. -/
theorem isFinite_ofNat {whole : Nat} (bounded : whole < 2 ^ 64) :
    (Float.ofNat whole).isFinite = true := by
  by_cases zero : whole = 0
  · subst zero
    rfl
  have positive : 0 < whole := Nat.pos_of_ne_zero zero
  by_cases small : whole < 2 ^ 53
  · rw [isFinite_eq, unpacked_ofNat positive small, ofParts_whole positive small]
    rfl
  · have bits : whole.log2 < 64 := (Nat.log2_lt zero).mpr bounded
    change (unpacked (Float.ofScientific whole false 0)).isFinite = true
    rw [unpacked_ofScientific zero (by decide) (fun short => small short.1), Nat.pow_zero,
      Nat.mul_one]
    apply isFinite_unpack_pack_roundWithAccuracy
    · decide
    · rw [totalExponent, log2_mul_two_pow positive]
      omega

/-- An integer of up to 64 bits has a finite double. -/
theorem isFinite_ofInt {value : Int} (bounded : value.natAbs < 2 ^ 64) :
    (Float.ofInt value).isFinite = true := by
  cases value with
  | ofNat whole => exact isFinite_ofNat bounded
  | negSucc whole =>
      change (-Float.ofNat (whole + 1)).isFinite = true
      rw [isFinite_neg]
      exact isFinite_ofNat bounded

end Packing

end ChatMacro
