import ChatMacro.Proofs.Number.Whole

/-!
# Numbers that compare equal

Doubles compare equal if they are the same number, and the two zeros do.  So as long as NaN is left
aside this is an equivalence, and every number equals the one with a plain zero in its place.
-/

namespace ChatMacro
namespace Packing

open Float.Model (UnpackedFloat)
open Float.Model.UnpackedFloat

theorem isNaN_eq (value : Float) : value.isNaN = (unpacked value).isNaN := rfl

theorem beq_eq (left right : Float) :
    (left == right) = (unpacked left).beq (unpacked right) := rfl

theorem unpacked_beq_self {value : UnpackedFloat} (notNaN : value.isNaN = false) :
    value.beq value = true := by
  unfold UnpackedFloat.beq UnpackedFloat.compare
  cases value with
  | notANumber => cases notNaN
  | infinity sign => cases sign <;> rfl
  | zero sign => rfl
  | finite sign significand exponent positive => cases sign <;> simp

/-- Unpacked doubles that compare equal are both zero or the same number. -/
theorem eq_of_unpacked_beq {left right : UnpackedFloat} (same : left.beq right = true) :
    (∃ sign other, left = .zero sign ∧ right = .zero other) ∨
      left = right ∧ left.isNaN = false := by
  unfold UnpackedFloat.beq UnpackedFloat.compare at same
  cases left with
  | notANumber => cases same
  | infinity sign =>
      cases right with
      | infinity other =>
          refine .inr ⟨?_, rfl⟩
          cases sign <;> cases other
          · rfl
          · cases same
          · cases same
          · rfl
      | _ => cases sign <;> cases same
  | zero sign =>
      cases right with
      | zero other => exact .inl ⟨sign, other, rfl, rfl⟩
      | infinity other => cases other <;> cases same
      | finite other => cases other <;> cases same
      | notANumber => cases same
  | finite sign significand exponent positive =>
      cases right with
      | finite other otherSignificand otherExponent otherPositive =>
          refine .inr ?_
          cases sign <;> cases other <;> simp_all [Ordering.then_eq_eq, UnpackedFloat.isNaN]
      | infinity other => cases sign <;> cases other <;> cases same
      | _ => cases sign <;> cases same

end Packing

namespace Number

open Packing

theorem beq_zero_iff {value : Float} :
    (value == 0.0) = true ↔ ∃ sign, unpacked value = .zero sign := by
  rw [beq_zero]
  cases unpacked value <;> simp

theorem plainZero_of_zero {value : Float} (zero : (value == 0.0) = true) :
    plainZero value = 0.0 :=
  if_pos zero

theorem plainZero_of_nonzero {value : Float} (nonzero : ¬ (value == 0.0) = true) :
    plainZero value = value :=
  if_neg nonzero

theorem plainZero_beq_zero (value : Float) : (plainZero value == 0.0) = (value == 0.0) := by
  by_cases zero : (value == 0.0) = true
  · rw [plainZero_of_zero zero, zero]
    rfl
  · rw [plainZero_of_nonzero zero]

theorem beq_self {value : Float} (notNaN : value.isNaN = false) : (value == value) = true :=
  unpacked_beq_self notNaN

/-- Numbers compare equal if they are the same up to the sign of zero. -/
theorem beq_iff {left right : Float} :
    (left == right) = true ↔ left.isNaN = false ∧ plainZero left = plainZero right := by
  constructor
  · intro same
    rcases eq_of_unpacked_beq same with ⟨sign, other, leftParts, rightParts⟩ | ⟨parts_eq, notNaN⟩
    · have leftParts : unpacked left = .zero sign := leftParts
      have plain : plainZero left = plainZero right :=
        (plainZero_of_zero (beq_zero_iff.mpr ⟨sign, leftParts⟩)).trans
          (plainZero_of_zero (beq_zero_iff.mpr ⟨other, rightParts⟩)).symm
      refine ⟨?_, plain⟩
      rw [isNaN_eq, leftParts]
      rfl
    · exact ⟨notNaN, congrArg plainZero (eq_of_unpacked_eq parts_eq)⟩
  · rintro ⟨notNaN, plain⟩
    have zeros : (left == 0.0) = (right == 0.0) := by
      rw [← plainZero_beq_zero left, plain, plainZero_beq_zero]
    by_cases leftZero : (left == 0.0) = true
    · obtain ⟨sign, leftParts⟩ := beq_zero_iff.mp leftZero
      obtain ⟨other, rightParts⟩ := beq_zero_iff.mp (zeros ▸ leftZero)
      rw [beq_eq, leftParts, rightParts]
      rfl
    · have rightNonzero : ¬ (right == 0.0) = true := zeros ▸ leftZero
      rw [plainZero_of_nonzero leftZero, plainZero_of_nonzero rightNonzero] at plain
      rw [← plain]
      exact beq_self notNaN

theorem beq_trans {left middle right : Float} (first : (left == middle) = true)
    (second : (middle == right) = true) : (left == right) = true := by
  obtain ⟨notNaN, plain⟩ := beq_iff.mp first
  exact beq_iff.mpr ⟨notNaN, plain.trans (beq_iff.mp second).2⟩

end Number
end ChatMacro
