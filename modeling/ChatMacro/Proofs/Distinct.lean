import ChatMacro.Proofs.Number.Equality
import ChatMacro.Proofs.Repeats
import ChatMacro.Proofs.Selection

/-!
# First occurrences

An element is new at its place if it equals no element before it, and none of some others.  What is
appended to a list are the new elements, and after that nothing of the same list is new any more.
-/

namespace ChatMacro
namespace Atom

/-- Whether an element is the number that is not a number. -/
def isNaN : Atom → Bool
  | text _ => false
  | number value => value.isNaN

theorem same_self {atom : Atom} (notNaN : atom.isNaN = false) : atom.same atom = true := by
  cases atom with
  | text value => exact decide_eq_true rfl
  | number value => exact Number.beq_self notNaN

theorem same_trans {left middle right : Atom} (first : left.same middle = true)
    (second : middle.same right = true) : left.same right = true := by
  cases left with
  | text value =>
      cases middle with
      | text other =>
          obtain rfl := of_decide_eq_true first
          exact second
      | number other => cases first
  | number value =>
      cases middle with
      | text other => cases first
      | number other =>
          cases right with
          | text last => cases second
          | number last => exact Number.beq_trans first second

/-! ## Elements in a list -/

section

variable {atom other : Atom} {kept atoms others : List Atom}

theorem isIn_iff : atom.isIn atoms = true ↔ ∃ other ∈ atoms, other.same atom = true :=
  List.any_eq_true

theorem isIn_append : atom.isIn (kept ++ atoms) = (atom.isIn kept || atom.isIn atoms) :=
  List.any_append

theorem isIn_cons : atom.isIn (other :: atoms) = (other.same atom || atom.isIn atoms) := rfl

theorem isIn_concat : atom.isIn (kept ++ [other]) = (atom.isIn kept || other.same atom) :=
  isIn_append.trans (congrArg _ (Bool.or_false _))

theorem isIn_of_mem (notNaN : atom.isNaN = false) (member : atom ∈ atoms) :
    atom.isIn atoms = true :=
  isIn_iff.mpr ⟨atom, member, same_self notNaN⟩

/-- What equals an element of a list is in the list as well. -/
theorem isIn_of_same (isIn : other.isIn atoms = true) (same : other.same atom = true) :
    atom.isIn atoms = true := by
  obtain ⟨member, found, equal⟩ := isIn_iff.mp isIn
  exact isIn_iff.mpr ⟨member, found, same_trans equal same⟩

/-- An element that is in a list already adds nothing to it. -/
theorem isIn_concat_of_isIn (known : other.isIn kept = true) :
    atom.isIn (kept ++ [other]) = atom.isIn kept := by
  rw [isIn_concat]
  cases same : other.same atom with
  | false => exact Bool.or_false _
  | true => rw [isIn_of_same known same, Bool.true_or]

/-- Appending leaves out only what is there already. -/
theorem isIn_appendNew :
    atom.isIn (appendNew kept atoms) = (atom.isIn kept || atom.isIn atoms) := by
  induction atoms generalizing kept with
  | nil => exact (Bool.or_false _).symm
  | cons first atoms ih =>
      rw [appendNew, isIn_cons, ← Bool.or_assoc, ← isIn_concat]
      split
      next known => rw [ih, isIn_concat_of_isIn known]
      next => exact ih

theorem isIn_distinct : atom.isIn (distinct atoms) = atom.isIn atoms :=
  isIn_appendNew

/-! ## New elements -/

/-- At a place of a list there is an element that equals none of some others and no element before
it. -/
def NewAt (others atoms : List Atom) (place : Nat) : Prop :=
  ∃ atom, atoms[place]? = some atom ∧ atom.isIn others = false ∧
    atom.isIn (atoms.take place) = false

theorem newAt_congr (same : ∀ atom : Atom, atom.isIn kept = atom.isIn others) (place : Nat) :
    NewAt kept atoms place ↔ NewAt others atoms place := by
  simp only [NewAt, same]

theorem newAt_zero {first : Atom} :
    NewAt others (first :: atoms) 0 ↔ first.isIn others = false := by
  simp [NewAt, isIn]

theorem newAt_succ {first : Atom} {place : Nat} :
    NewAt others (first :: atoms) (place + 1) ↔ NewAt (others ++ [first]) atoms place := by
  simp only [NewAt, List.getElem?_cons_succ, List.take_succ_cons, isIn_cons, isIn_concat,
    Bool.or_eq_false_iff, and_assoc]

/-- What is appended are the new elements, in their order. -/
theorem exists_selects_appendNew (kept atoms : List Atom) :
    ∃ news, appendNew kept atoms = kept ++ news ∧ Selects (NewAt kept atoms) atoms news := by
  induction atoms generalizing kept with
  | nil => exact ⟨[], (List.append_nil kept).symm, .nil _⟩
  | cons first atoms ih =>
      rw [appendNew]
      split
      next known =>
        obtain ⟨news, appended, selects⟩ := ih kept
        refine ⟨news, appended, .drop (by simp [newAt_zero, known]) (selects.congr ?_)⟩
        intro place _
        rw [newAt_succ, newAt_congr fun atom => isIn_concat_of_isIn known]
      next unknown =>
        obtain ⟨news, appended, selects⟩ := ih (kept ++ [first])
        refine ⟨first :: news, by rw [appended, List.append_assoc]; rfl, .keep ?_ ?_⟩
        · exact newAt_zero.mpr (Bool.not_eq_true _ ▸ unknown)
        · exact selects.congr fun place _ => newAt_succ.symm

theorem selects_distinct (atoms : List Atom) : Selects (NewAt [] atoms) atoms (distinct atoms) := by
  obtain ⟨news, appended, selects⟩ := exists_selects_appendNew [] atoms
  rw [distinct, appended]
  exact selects

theorem appendNew_append (kept atoms more : List Atom) :
    appendNew kept (atoms ++ more) = appendNew (appendNew kept atoms) more := by
  induction atoms generalizing kept with
  | nil => rfl
  | cons first atoms ih =>
      rw [List.cons_append, appendNew, appendNew]
      split
      · exact ih kept
      · exact ih (kept ++ [first])

theorem distinct_append {first : List Atom} (repeatless : Repeatless first) (second : List Atom) :
    distinct (first ++ second) = appendNew first second := by
  have kept : appendNew [] first = first := distinct_of_repeatless repeatless
  rw [distinct, appendNew_append, kept]

/-- Nothing is appended if everything is there already. -/
theorem appendNew_of_isIn (known : ∀ atom ∈ atoms, atom.isIn kept = true) :
    appendNew kept atoms = kept := by
  induction atoms with
  | nil => rfl
  | cons first atoms ih =>
      obtain ⟨here, later⟩ := List.forall_mem_cons.mp known
      rw [appendNew, if_pos here]
      exact ih later

end

end Atom
end ChatMacro
