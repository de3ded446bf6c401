import ChatMacro.Datum
import ChatMacro.Proofs.Number.Finiteness

/-!
# Finite data

Data is finite if every number in it is.  Keeping the first of equal elements neither adds numbers
nor hides one that is not finite.
-/

namespace ChatMacro

namespace Atom

theorem mem_of_mem_appendNew {atom : Atom} {kept atoms : List Atom}
    (member : atom ∈ appendNew kept atoms) : atom ∈ kept ++ atoms := by
  induction atoms generalizing kept with
  | nil => simpa [appendNew] using member
  | cons head tail ih =>
      simp only [appendNew] at member
      split at member
      · have later := ih member
        rcases List.mem_append.mp later with inKept | inTail
        · exact List.mem_append_left _ inKept
        · exact List.mem_append_right _ (List.mem_cons_of_mem _ inTail)
      · have later := ih member
        simpa using later

theorem mem_of_mem_distinct {atom : Atom} {atoms : List Atom} (member : atom ∈ distinct atoms) :
    atom ∈ atoms :=
  mem_of_mem_appendNew member

/-- Whether an element is a finite number or no number. -/
def isFinite : Atom → Bool
  | text _ => true
  | number value => value.isFinite

theorem isFinite_of_same {left right : Atom} (same : left.same right = true) :
    left.isFinite = right.isFinite := by
  cases left with
  | text value =>
      cases right with
      | text other => rfl
      | number other => cases same
  | number value =>
      cases right with
      | text other => cases same
      | number other => exact Packing.isFinite_of_beq same

theorem isFinite_of_isIn {atom : Atom} {atoms : List Atom} (isIn : atom.isIn atoms = true)
    (finite : atoms.all isFinite = true) : atom.isFinite = true := by
  obtain ⟨other, member, same⟩ := List.any_eq_true.mp isIn
  rw [← isFinite_of_same same]
  exact List.all_eq_true.mp finite other member

theorem all_isFinite_appendNew (kept atoms : List Atom) :
    (appendNew kept atoms).all isFinite = (kept.all isFinite && atoms.all isFinite) := by
  induction atoms generalizing kept with
  | nil => simp [appendNew]
  | cons atom atoms ih =>
      rw [appendNew, List.all_cons]
      split
      · next isIn =>
        rw [ih]
        cases finite : kept.all isFinite with
        | false => rfl
        | true => rw [isFinite_of_isIn isIn finite, Bool.true_and, Bool.true_and]
      · rw [ih, List.all_append, List.all_cons, List.all_nil, Bool.and_true, Bool.and_assoc]

theorem all_isFinite_distinct (atoms : List Atom) :
    (distinct atoms).all isFinite = atoms.all isFinite :=
  all_isFinite_appendNew [] atoms

end Atom

namespace Datum

/-- Whether all numbers in data are finite. -/
def isFinite : Datum → Bool
  | text _ => true
  | number value => value.isFinite
  | sequence items | set items => items.all Atom.isFinite

theorem isFinite_of_items? {value : Datum} {items : List Atom}
    (items_eq : value.items? = some items) : value.isFinite = items.all Atom.isFinite := by
  cases value with
  | text text => cases items_eq
  | number number => cases items_eq
  | sequence others =>
      cases items_eq
      rfl
  | set others =>
      cases items_eq
      rfl

theorem isFinite_persisted (value : Datum) : value.persisted.isFinite = value.isFinite := by
  cases value with
  | set items => exact Atom.all_isFinite_distinct items
  | _ => rfl

end Datum
end ChatMacro
