import ChatMacro.Proofs.Number.Whole

/-!
# Exact values

A finite double stands for a rational number.  A double that stands for a whole number and is not
negative gives this number as an index, up to the greatest index, and no other double gives one.
-/

namespace ChatMacro

namespace Binary

/-- The rational number that an exact binary number is. -/
def rational (number : Binary) : ℚ :=
  (if number.negative then -1 else 1) * (number.significand * 2 ^ number.exponent)

theorem magnitude_eq (number : Binary) :
    (number.significand * 2 ^ number.exponent : ℚ) =
      ((number.significand * 2 ^ number.exponent.toNat : Nat) : ℚ) /
        ((2 ^ number.places : Nat) : ℚ) := by
  have exponent_eq : number.exponent = (number.exponent.toNat : ℤ) - (number.places : ℤ) := by
    rw [places]
    omega
  have power_eq : (2 : ℚ) ^ number.exponent =
      2 ^ number.exponent.toNat / 2 ^ number.places := by
    conv_lhs => rw [exponent_eq, zpow_sub₀ two_ne_zero, zpow_natCast, zpow_natCast]
  rw [power_eq]
  push_cast
  ring

/-- The magnitude is whole if there is no fraction. -/
theorem magnitude_eq_natCast_iff (number : Binary) (whole : Nat) :
    (number.significand * 2 ^ number.exponent : ℚ) = whole ↔
      number.fraction = 0 ∧ number.whole = whole := by
  have positive : 0 < 2 ^ number.places := Nat.two_pow_pos _
  have nonzero : ((2 ^ number.places : Nat) : ℚ) ≠ 0 := Nat.cast_ne_zero.mpr positive.ne'
  rw [magnitude_eq, div_eq_iff nonzero, ← Nat.cast_mul, Nat.cast_inj, fraction_eq, whole_eq]
  constructor
  · intro exact
    rw [exact]
    exact ⟨Nat.mul_mod_left _ _, Nat.mul_div_cancel _ positive⟩
  · rintro ⟨noFraction, rfl⟩
    exact (Nat.div_mul_cancel (Nat.dvd_of_mod_eq_zero noFraction)).symm

theorem magnitude_eq_zero_iff (number : Binary) :
    (number.significand * 2 ^ number.exponent : ℚ) = 0 ↔ number.significand = 0 := by
  have nonzero : (2 : ℚ) ^ number.exponent ≠ 0 := zpow_ne_zero _ two_ne_zero
  rw [mul_eq_zero, or_iff_left nonzero, Nat.cast_eq_zero]

/-- A number is a natural number if it is not negative, zero aside, and has no fraction. -/
theorem rational_eq_natCast_iff (number : Binary) (whole : Nat) :
    number.rational = whole ↔
      (number.negative = false ∨ number.significand = 0) ∧
        number.fraction = 0 ∧ number.whole = whole := by
  rw [← magnitude_eq_natCast_iff, rational]
  cases number.negative with
  | false => simp
  | true =>
      have magnitude_nonneg : (0 : ℚ) ≤ number.significand * 2 ^ number.exponent := by positivity
      have whole_nonneg : (0 : ℚ) ≤ whole := Nat.cast_nonneg whole
      rw [if_pos rfl, neg_one_mul, ← magnitude_eq_zero_iff]
      constructor
      · intro negated
        exact ⟨.inr (by linarith), by linarith⟩
      · rintro ⟨absurdity | zero, equal⟩
        · cases absurdity
        · linarith

end Binary

namespace Packing

open Float.Model (UnpackedFloat)
open Float.Model.UnpackedFloat

theorem le_iff (left right : Float) :
    left ≤ right ↔ (unpacked left).le (unpacked right) = true := by
  change decide ((unpacked left).le (unpacked right) = true) = true ↔ _
  exact decide_eq_true_iff

/-- Only zero and the doubles without a minus are not less than zero. -/
theorem zero_le_iff {value : Float} {number : Binary}
    (represented : Binary.ofFloat? value = some number) :
    0.0 ≤ value ↔ number.negative = false ∨ number.significand = 0 := by
  have zero : unpacked 0.0 = .zero .positive := by rfl
  rw [ofFloat?_eq_binary?] at represented
  rw [le_iff, zero]
  cases parts : unpacked value with
  | zero sign =>
      rw [parts] at represented
      cases represented
      exact ⟨fun _ => .inr rfl, fun _ => rfl⟩
  | finite sign significand exponent positive =>
      rw [parts] at represented
      cases represented
      cases sign with
      | positive => exact ⟨fun _ => .inl rfl, fun _ => rfl⟩
      | negative =>
          refine iff_of_false (fun below => ?_) ?_
          · cases below
          · rintro (absurdity | noSignificand)
            · cases absurdity
            · exact positive.ne' noSignificand
  | infinity sign =>
      rw [parts] at represented
      cases represented
  | notANumber =>
      rw [parts] at represented
      cases represented

end Packing

namespace Number

/-- A double stands for a rational number. -/
def Is (value : Float) (rational : ℚ) : Prop :=
  ∃ number, Binary.ofFloat? value = some number ∧ number.rational = rational

theorem isWhole_iff {value : Float} {number : Binary}
    (represented : Binary.ofFloat? value = some number) :
    isWhole value = true ↔ number.fraction = 0 := by
  rw [isWhole, represented]
  exact beq_iff_eq

/-- The index that a double stands for, as far as there are indices. -/
theorem toIndex_of_is {value : Float} {whole : Nat} (stands : Is value whole) :
    toIndex value = min whole indexLimit := by
  obtain ⟨number, represented, rational_eq⟩ := stands
  obtain ⟨nonnegative, noFraction, rfl⟩ := (number.rational_eq_natCast_iff whole).mp rational_eq
  rw [toIndex, represented]
  dsimp only
  split
  next negative =>
    have noSignificand := nonnegative.resolve_left (by simp [negative])
    rw [Binary.whole_eq, noSignificand, Nat.zero_mul, Nat.zero_div, Nat.zero_min]
  next => rfl

/-- The doubles that are not negative and have no fraction are those that stand for natural
numbers. -/
theorem is_natCast_iff {value : Float} :
    (∃ whole : Nat, Is value whole) ↔ 0.0 ≤ value ∧ isWhole value = true := by
  constructor
  · rintro ⟨whole, number, represented, rational_eq⟩
    obtain ⟨nonnegative, noFraction, -⟩ := (number.rational_eq_natCast_iff whole).mp rational_eq
    exact ⟨(Packing.zero_le_iff represented).mpr nonnegative,
      (isWhole_iff represented).mpr noFraction⟩
  · rintro ⟨nonnegative, noFraction⟩
    cases represented : Binary.ofFloat? value with
    | none => simp [isWhole, represented] at noFraction
    | some number =>
        refine ⟨number.whole, number, represented,
          (number.rational_eq_natCast_iff _).mpr ⟨?_, ?_, rfl⟩⟩
        · exact (Packing.zero_le_iff represented).mp nonnegative
        · exact (isWhole_iff represented).mp noFraction

end Number
end ChatMacro
