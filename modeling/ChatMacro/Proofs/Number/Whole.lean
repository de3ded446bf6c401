import ChatMacro.Proofs.Number.Packing

/-!
# Whole doubles

A whole magnitude below `2 ^ 53` has a double of its own, and that double is the only one with this
magnitude.  So a whole double is the double of its whole part, up to the sign of zero.
-/

namespace ChatMacro

namespace Packing

open Float.Model (UnpackedFloat totalExponent)
open Float.Model.UnpackedFloat

/-! ## Exact rounding -/

/-- Shifting out zeros leaves no residue. -/
theorem shiftRight_exact (significand shift : Nat) :
    (⟨significand * 2 ^ shift, false, false⟩ : ExtendedMantissa) >>> shift =
      ⟨significand, false, false⟩ := by
  induction shift generalizing significand with
  | zero => simp [HShiftRight.hShiftRight, Nat.repeat]
  | succ shift ih =>
      have step := ih (significand * 2)
      have grouped : significand * 2 ^ (shift + 1) = significand * 2 * 2 ^ shift := by
        rw [Nat.pow_succ, Nat.mul_comm (2 ^ shift) 2, Nat.mul_assoc]
      rw [grouped]
      change ExtendedMantissa.shiftRightOne
        ((⟨significand * 2 * 2 ^ shift, false, false⟩ : ExtendedMantissa) >>> shift) = _
      rw [step]
      simp [ExtendedMantissa.shiftRightOne]

theorem log2_mul_two_pow {significand : Nat} (positive : 0 < significand) (shift : Nat) :
    (significand * 2 ^ shift).log2 = significand.log2 + shift := by
  have nonzero : significand ≠ 0 := Nat.ne_of_gt positive
  have bounds := (Nat.log2_eq_iff nonzero).mp rfl
  have product : significand * 2 ^ shift ≠ 0 :=
    Nat.mul_ne_zero nonzero (Nat.ne_of_gt (Nat.two_pow_pos shift))
  refine (Nat.log2_eq_iff product).mpr ⟨?_, ?_⟩
  · rw [Nat.pow_add]
    exact Nat.mul_le_mul_right _ bounds.1
  · rw [Nat.add_right_comm, Nat.pow_add]
    exact Nat.mul_lt_mul_of_pos_right bounds.2 (Nat.two_pow_pos shift)

/-- The exponent of a normal double is the one that its format aims at. -/
theorem targetExponent_of_normal {significand : Nat} (normal : significand.log2 = 52)
    {exponent : Int} (inRange : -1074 ≤ exponent) (shift : Nat) :
    double.targetExponent (totalExponent (significand * 2 ^ shift) (exponent - shift)) =
      exponent := by
  have positive : 0 < significand := by
    apply Nat.pos_of_ne_zero
    intro zero
    rw [zero] at normal
    exact absurd normal (by decide)
  have width : (double.mantissaBits : Int) = 53 := rfl
  have least : double.minExponent = -1074 := rfl
  simp only [Float.Model.Format.targetExponent, totalExponent, log2_mul_two_pow positive, normal,
    width, least]
  omega

theorem shiftToTargetExponent_exact {significand : Nat} (normal : significand.log2 = 52)
    {exponent : Int} (inRange : -1074 ≤ exponent) (shift : Nat) :
    shiftToTargetExponent double (significand * 2 ^ shift) (exponent - shift) .exact =
      (⟨significand, false, false⟩, exponent) := by
  have amount : (exponent - (exponent - shift)).toNat = shift := by omega
  simp only [shiftToTargetExponent, targetExponent_of_normal normal inRange, shiftToExponent,
    amount, ExtendedMantissa.ofMantissaAndAccuracy, shiftRight_exact, Prod.mk.injEq, true_and]
  omega

/-- A significand that only has zeros to lose is rounded to itself. -/
theorem roundWithAccuracy_exact {significand : Nat} (normal : significand.log2 = 52)
    (positive : 0 < significand) (exponent : Int) (inRange : -1074 ≤ exponent) (shift : Nat)
    (sign : Sign) :
    roundWithAccuracy double sign (significand * 2 ^ shift) (exponent - shift) .exact =
      .finite sign significand exponent positive := by
  have first := shiftToTargetExponent_exact normal inRange shift
  have second := shiftToTargetExponent_exact normal inRange 0
  simp only [Nat.pow_zero, Nat.mul_one, Int.natCast_zero, Int.sub_zero] at second
  have nonzero : significand ≠ 0 := Nat.ne_of_gt positive
  simp only [roundWithAccuracy, first, ExtendedMantissa.roundedMantissa, ExtendedMantissa.accuracy,
    Accuracy.roundToNearestEven, second, nonzero, dite_false]

/-! ## The double of a whole number -/

/-- The fraction of the double of a whole number. -/
def wholeFraction (whole : Nat) : Nat :=
  whole * 2 ^ (52 - whole.log2) - 2 ^ 52

theorem log2_le_of_lt {whole : Nat} (positive : 0 < whole) (small : whole < 2 ^ 53) :
    whole.log2 ≤ 52 := by
  have below : whole.log2 < 53 := (Nat.log2_lt (Nat.ne_of_gt positive)).mpr small
  omega

/-- A whole number is shifted until it fills the significand. -/
theorem log2_shifted {whole : Nat} (positive : 0 < whole) (small : whole < 2 ^ 53) :
    (whole * 2 ^ (52 - whole.log2)).log2 = 52 := by
  have short := log2_le_of_lt positive small
  rw [log2_mul_two_pow positive]
  omega

theorem shifted_bounds {whole : Nat} (positive : 0 < whole) (small : whole < 2 ^ 53) :
    2 ^ 52 ≤ whole * 2 ^ (52 - whole.log2) ∧ whole * 2 ^ (52 - whole.log2) < 2 ^ 53 := by
  have product : whole * 2 ^ (52 - whole.log2) ≠ 0 :=
    Nat.mul_ne_zero (Nat.ne_of_gt positive) (Nat.ne_of_gt (Nat.two_pow_pos _))
  exact (Nat.log2_eq_iff product).mp (log2_shifted positive small)

/-- The unpacked double of a whole number. -/
theorem ofParts_whole {whole : Nat} (positive : 0 < whole) (small : whole < 2 ^ 53)
    (negative : Bool) :
    ofParts negative (whole.log2 + 1023) (wholeFraction whole) =
      .finite (signOf negative) (whole * 2 ^ (52 - whole.log2)) ((whole.log2 : Int) - 52)
        (Nat.mul_pos positive (Nat.two_pow_pos _)) := by
  have short := log2_le_of_lt positive small
  have bounds := shifted_bounds positive small
  have notFull : ¬ whole.log2 + 1023 = 2047 := by omega
  have notEmpty : ¬ whole.log2 + 1023 = 0 := by omega
  have significand : 2 ^ 52 + wholeFraction whole = whole * 2 ^ (52 - whole.log2) := by
    unfold wholeFraction
    omega
  have exponent : ((whole.log2 + 1023 : Nat) : Int) - 1075 = (whole.log2 : Int) - 52 := by omega
  simp only [ofParts, notFull, notEmpty, if_false, significand, exponent]

theorem ofNat_whole {whole : Nat} (positive : 0 < whole) (small : whole < 2 ^ 53) :
    UnpackedFloat.ofNat double whole = ofParts false (whole.log2 + 1023) (wholeFraction whole) := by
  have short := log2_le_of_lt positive small
  have bounds := shifted_bounds positive small
  have width : (double.mantissaBits : Int) = 53 := rfl
  have least : double.minExponent = -1074 := rfl
  have target : double.targetExponent (totalExponent whole 0) = (whole.log2 : Int) - 52 := by
    simp only [Float.Model.Format.targetExponent, totalExponent, width, least]
    omega
  have amount : ((0 : Int) - ((whole.log2 : Int) - 52)).toNat = 52 - whole.log2 := by omega
  have ordering : compare (whole : Int) 0 = .gt := by
    simp only [compare, compareOfLessAndEq]
    rw [if_neg (by omega), if_neg (by omega)]
  have rounded := roundWithAccuracy_exact (log2_shifted positive small)
    (Nat.mul_pos positive (Nat.two_pow_pos _)) ((whole.log2 : Int) - 52) (by omega) 0 .positive
  simp only [Nat.pow_zero, Nat.mul_one, Int.natCast_zero, Int.sub_zero] at rounded
  have exponent_eq : (0 : Int) - ((52 - whole.log2 : Nat) : Int) = (whole.log2 : Int) - 52 := by
    omega
  rw [ofParts_whole positive small]
  simp only [UnpackedFloat.ofNat, ofInt, UnpackedFloat.normalize, ordering, Int.toNat_natCast,
    UnpackedFloat.round, target, decreaseExponent, amount, Nat.shiftLeft_eq, exponent_eq, rounded]
  rfl

theorem wholeFraction_lt {whole : Nat} (positive : 0 < whole) (small : whole < 2 ^ 53) :
    wholeFraction whole < 2 ^ 52 := by
  have bounds := shifted_bounds positive small
  unfold wholeFraction
  omega

theorem unpack_pack_whole {whole : Nat} (positive : 0 < whole) (small : whole < 2 ^ 53)
    (negative : Bool) :
    UnpackedFloat.unpack double (UnpackedFloat.pack double
        (ofParts negative (whole.log2 + 1023) (wholeFraction whole))) =
      ofParts negative (whole.log2 + 1023) (wholeFraction whole) := by
  have short := log2_le_of_lt positive small
  refine unpack_pack_ofParts negative (by omega) (wholeFraction_lt positive small) ?_
  intro full
  omega

/-- A small whole number times one is its own double. -/
theorem ofNat_eq_mul_one {whole : Nat} (small : whole < 2 ^ 53) :
    Float.ofNat whole = whole.toUInt64.toFloat * Float.ofBits 0x3FF0000000000000 := by
  unfold Float.ofNat
  simp only [OfScientific.ofScientific, Float.ofScientific]
  rw [dif_pos ⟨small, by decide⟩]
  simp only [Bool.false_eq_true, if_false]
  rfl

theorem unpacked_ofNat {whole : Nat} (positive : 0 < whole) (small : whole < 2 ^ 53) :
    unpacked (Float.ofNat whole) = ofParts false (whole.log2 + 1023) (wholeFraction whole) := by
  have short := log2_le_of_lt positive small
  have wide : whole.toUInt64.toNat = whole := by
    rw [Nat.toUInt64_eq, UInt64.toNat_ofNat']
    omega
  have cast : unpacked whole.toUInt64.toFloat =
      ofParts false (whole.log2 + 1023) (wholeFraction whole) := by
    change UnpackedFloat.unpack double
      (UnpackedFloat.pack double (UnpackedFloat.ofNat double whole.toUInt64.toNat)) = _
    rw [wide, ofNat_whole positive small, unpack_pack_whole positive small]
  have one : unpacked (Float.ofBits 0x3FF0000000000000) =
      .finite .positive (2 ^ 52) (-52) (by decide) := by rfl
  rw [ofNat_eq_mul_one small]
  change UnpackedFloat.unpack double (UnpackedFloat.pack double
    (UnpackedFloat.mul double (unpacked whole.toUInt64.toFloat)
      (unpacked (Float.ofBits 0x3FF0000000000000)))) = _
  have product : UnpackedFloat.mul double
      (ofParts false (whole.log2 + 1023) (wholeFraction whole))
      (.finite .positive (2 ^ 52) (-52) (by decide)) =
      ofParts false (whole.log2 + 1023) (wholeFraction whole) := by
    rw [ofParts_whole positive small]
    exact roundWithAccuracy_exact (log2_shifted positive small)
      (Nat.mul_pos positive (Nat.two_pow_pos _)) ((whole.log2 : Int) - 52) (by omega) 52
      (signOf false * .positive)
  rw [cast, one, product, unpack_pack_whole positive small]

/-! ## Doubles that are whole -/

/-- Without a fraction, the two ways to write a magnitude agree. -/
theorem significand_of_noFraction {number : Binary} (noFraction : number.fraction = 0) :
    number.significand * 2 ^ number.exponent.toNat = number.whole * 2 ^ number.places := by
  have split := Nat.div_add_mod (number.significand * 2 ^ number.exponent.toNat)
    (2 ^ number.places)
  rw [Binary.fraction_eq] at noFraction
  rw [noFraction, Nat.add_zero, Nat.mul_comm] at split
  exact split.symm

/-- A normal double with a whole magnitude below `2 ^ 53` is that magnitude, shifted. -/
theorem parts_of_whole {number : Binary} (normal : number.significand.log2 = 52)
    (nonzero : 0 < number.significand) (noFraction : number.fraction = 0)
    (positive : 0 < number.whole) (small : number.whole < 2 ^ 53) :
    number.exponent = (number.whole.log2 : Int) - 52 ∧
      number.significand = number.whole * 2 ^ (52 - number.whole.log2) := by
  have short := log2_le_of_lt positive small
  have shifted := significand_of_noFraction noFraction
  have logs : number.significand.log2 + number.exponent.toNat =
      number.whole.log2 + number.places := by
    rw [← log2_mul_two_pow nonzero, shifted, log2_mul_two_pow positive]
  have places_eq : number.places = (-number.exponent).toNat := rfl
  have exponent_eq : number.exponent = (number.whole.log2 : Int) - 52 := by omega
  have unshifted : number.exponent.toNat = 0 := by omega
  have distance : number.places = 52 - number.whole.log2 := by omega
  refine ⟨exponent_eq, ?_⟩
  rwa [unshifted, distance, Nat.pow_zero, Nat.mul_one] at shifted

/-- A subnormal double is less than one. -/
theorem whole_of_subnormal {fraction : Nat} (small : fraction < 2 ^ 52) (negative : Bool) :
    Binary.whole ⟨negative, fraction, -1074⟩ = 0 := by
  have unscaled : ((-1074 : Int)).toNat = 0 := rfl
  have deep : 52 ≤ Binary.places ⟨negative, fraction, -1074⟩ := by
    change 52 ≤ (-(-1074 : Int)).toNat
    decide
  rw [Binary.whole_eq]
  simp only [unscaled, Nat.pow_zero, Nat.mul_one]
  exact Nat.div_eq_of_lt (Nat.lt_of_lt_of_le small (Nat.pow_le_pow_right (by decide) deep))

/-- A double with a whole magnitude below `2 ^ 53` has the parts of that magnitude. -/
theorem unpacked_of_whole {value : Float} {number : Binary}
    (represented : Binary.ofFloat? value = some number) (noFraction : number.fraction = 0)
    (positive : 0 < number.whole) (small : number.whole < 2 ^ 53) :
    unpacked value =
      ofParts number.negative (number.whole.log2 + 1023) (wholeFraction number.whole) := by
  have fractionBelow : value.toBits.toNat % 2 ^ 52 < 2 ^ 52 := Nat.mod_lt _ (by decide)
  rw [unpacked_eq_ofParts]
  rw [Binary.ofFloat?_eq] at represented
  split at represented
  · exact absurd represented (by simp)
  · split at represented
    · cases represented
      rw [whole_of_subnormal fractionBelow] at positive
      exact absurd positive (Nat.lt_irrefl 0)
    · have number_eq := Option.some.inj represented
      have significand_eq : number.significand = value.toBits.toNat % 2 ^ 52 + 2 ^ 52 := by
        rw [← number_eq]
      have exponent_eq : number.exponent =
          ((value.toBits.toNat / 2 ^ 52 % 2 ^ 11 : Nat) : Int) - 1075 := by
        rw [← number_eq]
      have negative_eq : number.negative = decide (2 ^ 63 ≤ value.toBits.toNat) := by
        rw [← number_eq]
      have normal : number.significand.log2 = 52 :=
        (Nat.log2_eq_iff (by omega)).mpr ⟨by omega, by omega⟩
      obtain ⟨logarithm, shifted⟩ := parts_of_whole normal (by omega) noFraction positive small
      have biased_eq : value.toBits.toNat / 2 ^ 52 % 2 ^ 11 = number.whole.log2 + 1023 := by omega
      have fraction_eq : value.toBits.toNat % 2 ^ 52 = wholeFraction number.whole := by
        unfold wholeFraction
        rw [← shifted]
        omega
      rw [negative_eq, biased_eq, fraction_eq]

theorem eq_signed_of_whole {value : Float} {number : Binary}
    (represented : Binary.ofFloat? value = some number) (noFraction : number.fraction = 0)
    (positive : 0 < number.whole) (small : number.whole < 2 ^ 53) :
    value = Number.signed number.negative number.whole := by
  apply eq_of_unpacked_eq
  have short := log2_le_of_lt positive small
  rw [unpacked_of_whole represented noFraction positive small]
  cases number.negative with
  | false => exact (unpacked_ofNat positive small).symm
  | true =>
      have notFull : ¬ (number.whole.log2 + 1023 = 2047 ∧ wholeFraction number.whole ≠ 0) := by
        omega
      change _ = unpacked (-Float.ofNat number.whole)
      rw [unpacked_neg, unpacked_ofNat positive small, neg_ofParts, if_neg notFull]
      rfl

/-! ## Zeros -/

theorem beq_zero (value : Float) :
    (value == 0.0) = match unpacked value with
      | .zero _ => true
      | _ => false := by
  have zero : unpacked 0.0 = .zero .positive := by rfl
  change (unpacked value).beq (unpacked 0.0) = _
  rw [zero]
  unfold UnpackedFloat.beq UnpackedFloat.compare
  cases unpacked value with
  | infinity sign => cases sign <;> rfl
  | finite sign significand exponent positive => cases sign <;> rfl
  | _ => rfl

/-- The zeros are the doubles with a significand of zero. -/
theorem beq_zero_of_ofFloat? {value : Float} {number : Binary}
    (represented : Binary.ofFloat? value = some number) :
    (value == 0.0) = decide (number.significand = 0) := by
  rw [ofFloat?_eq_binary?] at represented
  rw [beq_zero]
  cases parts : unpacked value with
  | zero sign =>
      rw [parts] at represented
      cases represented
      rfl
  | finite sign significand exponent positive =>
      rw [parts] at represented
      cases represented
      simp [Nat.ne_of_gt positive]
  | _ =>
      rw [parts] at represented
      exact absurd represented (by simp [binary?])

end Packing

namespace Number

/-- A number with one sign for zero. -/
def plainZero (value : Float) : Float :=
  if value == 0.0 then 0.0 else value

theorem plainZero_plainZero (value : Float) : plainZero (plainZero value) = plainZero value := by
  by_cases zero : (value == 0.0) = true
  · simp only [plainZero, zero, if_true, ite_self]
  · simp only [plainZero, zero, if_false, Bool.false_eq_true]

/-- The double of an integer is the number that the integer was written for, up to the sign of
zero. -/
theorem ofInt_of_whole {value : Float} {number : Binary}
    (represented : Binary.ofFloat? value = some number) (noFraction : number.fraction = 0)
    (small : number.whole < 2 ^ 53) :
    Float.ofInt (if number.negative then -(number.whole : Int) else number.whole) =
      plainZero value := by
  have isZero := Packing.beq_zero_of_ofFloat? represented
  by_cases zero : number.whole = 0
  · have shifted := Packing.significand_of_noFraction noFraction
    have noSignificand : number.significand = 0 := by
      rw [zero, Nat.zero_mul] at shifted
      exact (Nat.mul_eq_zero.mp shifted).resolve_right (Nat.ne_of_gt (Nat.two_pow_pos _))
    have double : Float.ofInt 0 = 0.0 := by rfl
    simp only [plainZero, isZero, noSignificand, zero, decide_true, if_true, Int.natCast_zero,
      Int.neg_zero, ite_self, double]
  · have positive : 0 < number.whole := Nat.pos_of_ne_zero zero
    have significant : number.significand ≠ 0 := by
      intro noSignificand
      apply zero
      rw [Binary.whole_eq, noSignificand, Nat.zero_mul, Nat.zero_div]
    simp only [plainZero, isZero, significant, decide_false, Bool.false_eq_true, if_false]
    rw [Packing.eq_signed_of_whole represented noFraction positive small]
    obtain ⟨predecessor, whole_eq⟩ := Nat.exists_eq_succ_of_ne_zero zero
    cases number.negative with
    | false => rfl
    | true =>
        rw [whole_eq]
        rfl

end Number
end ChatMacro
