import ChatMacro.Proofs.Number.Packing

/-!
# Numbers that are not finite

Sums and differences with a number that is not finite are not finite, and a finite number equals
finite numbers only.
-/

namespace ChatMacro
namespace Packing

open Float.Model (UnpackedFloat)
open Float.Model.UnpackedFloat

theorem isFinite_eq (value : Float) : value.isFinite = (unpacked value).isFinite := rfl

theorem unpack_pack_infinity (sign : Sign) :
    UnpackedFloat.unpack double (UnpackedFloat.pack double (.infinity sign)) = .infinity sign := by
  cases sign <;> rfl

/-- Packing keeps what is not finite. -/
theorem isFinite_unpack_pack {result : UnpackedFloat} (notFinite : result.isFinite = false) :
    (UnpackedFloat.unpack double (UnpackedFloat.pack double result)).isFinite = false := by
  cases result with
  | infinity sign =>
      rw [unpack_pack_infinity]
      rfl
  | notANumber => rfl
  | _ => cases notFinite

theorem isFinite_add {left right : Float} (notFinite : right.isFinite = false) :
    (left + right).isFinite = false := by
  apply isFinite_unpack_pack
  change (UnpackedFloat.add double (unpacked left) (unpacked right)).isFinite = false
  rw [isFinite_eq] at notFinite
  generalize unpacked right = second at notFinite ⊢
  generalize unpacked left = first
  cases second with
  | infinity sign =>
      cases first with
      | infinity other => cases sign <;> cases other <;> rfl
      | _ => rfl
  | notANumber => cases first <;> rfl
  | _ => cases notFinite

theorem isFinite_sub {left right : Float} (notFinite : right.isFinite = false) :
    (left - right).isFinite = false := by
  apply isFinite_unpack_pack
  change (UnpackedFloat.sub double (unpacked left) (unpacked right)).isFinite = false
  rw [isFinite_eq] at notFinite
  generalize unpacked right = second at notFinite ⊢
  generalize unpacked left = first
  cases second with
  | infinity sign =>
      cases first with
      | infinity other => cases sign <;> cases other <;> rfl
      | _ => rfl
  | notANumber => cases first <;> rfl
  | _ => cases notFinite

/-- Numbers that compare equal are finite together. -/
theorem isFinite_of_beq {left right : Float} (same : (left == right) = true) :
    left.isFinite = right.isFinite := by
  change UnpackedFloat.beq (unpacked left) (unpacked right) = true at same
  rw [isFinite_eq, isFinite_eq]
  generalize unpacked left = first at same ⊢
  generalize unpacked right = second at same ⊢
  unfold UnpackedFloat.beq UnpackedFloat.compare at same
  cases first with
  | infinity sign =>
      cases second with
      | infinity other => rfl
      | _ => cases sign <;> cases same
  | notANumber => cases same
  | zero sign =>
      cases second with
      | infinity other => cases other <;> cases same
      | notANumber => cases same
      | _ => rfl
  | finite sign significand exponent positive =>
      cases second with
      | infinity other => cases sign <;> cases other <;> cases same
      | notANumber => cases sign <;> cases same
      | _ => rfl

end Packing
end ChatMacro
