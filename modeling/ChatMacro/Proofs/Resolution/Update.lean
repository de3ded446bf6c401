import ChatMacro.Proofs.Outcome
import ChatMacro.Resolution

/-!
# Values of blocks on stored data

What a block can work out on stored data, by the kind of the block and by its operator.
-/

namespace ChatMacro
namespace Block

/-- The values that a block can have on stored data of a fitting kind. -/
inductive Updates (block : Block) : Datum → Datum → Prop where
  /-- A number is replaced or moved, and stays finite. -/
  | number {current operand result : Float} (declared : block.kind = .number)
      (operand_eq : block.value = .number operand) (finite : result.isFinite = true) :
      Updates block (.number current) (.number result)
  /-- A text is replaced or continued. -/
  | text {current operand result : String} (declared : block.kind = .text)
      (operand_eq : block.value = .text operand) : Updates block (.text current) (.text result)
  /-- A sequence is replaced. -/
  | replaced {stored : Datum} {current operand : List Atom} (declared : block.kind = .sequence)
      (operator_eq : block.operator = .assign) (stored_eq : stored.items? = some current)
      (operand_eq : block.value.items? = some operand) :
      Updates block stored (.sequence operand)
  /-- A sequence is continued. -/
  | appended {stored : Datum} {current operand : List Atom} (declared : block.kind = .sequence)
      (operator_eq : block.operator = .add) (stored_eq : stored.items? = some current)
      (operand_eq : block.value.items? = some operand) :
      Updates block stored (.sequence (current ++ operand))
  /-- A sequence loses the elements at some positions. -/
  | dropped {stored : Datum} {current operand : List Atom} (positions : List Nat)
      (declared : block.kind = .sequence) (operator_eq : block.operator = .subtract)
      (stored_eq : stored.items? = some current) (operand_eq : block.value.items? = some operand)
      (pointed : block.positions operand = .ok positions) :
      Updates block stored (.sequence (dropPositions positions 0 current))
  /-- A set is replaced. -/
  | replacedSet {stored : Datum} {current operand : List Atom} (declared : block.kind = .set)
      (operator_eq : block.operator = .assign) (stored_eq : stored.items? = some current)
      (operand_eq : block.value.items? = some operand) :
      Updates block stored (.set (Atom.distinct operand))
  /-- A set is united with another. -/
  | united {stored : Datum} {current operand : List Atom} (declared : block.kind = .set)
      (operator_eq : block.operator = .add) (stored_eq : stored.items? = some current)
      (operand_eq : block.value.items? = some operand) :
      Updates block stored (.set (Atom.distinct (Atom.distinct current ++ operand)))
  /-- A set loses the elements of another. -/
  | reduced {stored : Datum} {current operand : List Atom} (declared : block.kind = .set)
      (operator_eq : block.operator = .subtract) (stored_eq : stored.items? = some current)
      (operand_eq : block.value.items? = some operand) :
      Updates block stored (.set ((Atom.distinct current).filter fun atom => !atom.isIn operand))

theorem updates_of_updateNumber {block : Block} {current operand : Float} {value : Datum}
    (declared : block.kind = .number) (operand_eq : block.value = .number operand)
    (updated : block.updateNumber current operand = .ok value) :
    block.Updates (.number current) value := by
  have checked {result : Float}
      (finite : (if result.isFinite then .ok (.number result)
        else .error (.malformed block.name (.notFinite current block.operator operand)) :
          Except ValueError Datum) = .ok value) : block.Updates (.number current) value := by
    split at finite
    · next isFinite =>
      cases finite
      exact .number declared operand_eq isFinite
    · exact absurd finite (by simp)
  unfold updateNumber at updated
  cases operator_eq : block.operator <;> simp only [operator_eq] at updated checked
  case reference => exact absurd updated (by simp)
  all_goals exact checked updated

theorem updates_of_updateText {block : Block} {current operand : String} {value : Datum}
    (declared : block.kind = .text) (operand_eq : block.value = .text operand)
    (updated : block.updateText current operand = .ok value) :
    block.Updates (.text current) value := by
  unfold updateText at updated
  cases operator_eq : block.operator <;> simp only [operator_eq] at updated
  case assign | add =>
    cases updated
    exact .text declared operand_eq
  all_goals exact absurd updated (by simp)

theorem updates_of_updateSequence {block : Block} {stored : Datum} {current operand : List Atom}
    {value : Datum} (declared : block.kind = .sequence) (stored_eq : stored.items? = some current)
    (operand_eq : block.value.items? = some operand)
    (updated : block.updateSequence current operand = .ok value) :
    block.Updates stored value := by
  unfold updateSequence at updated
  cases operator_eq : block.operator <;> simp only [operator_eq] at updated
  case assign =>
    cases updated
    exact .replaced declared operator_eq stored_eq operand_eq
  case add =>
    cases updated
    exact .appended declared operator_eq stored_eq operand_eq
  case subtract =>
    obtain ⟨positions, pointed, made⟩ := Outcome.exists_of_bind_eq_ok updated
    cases made
    exact .dropped positions declared operator_eq stored_eq operand_eq pointed
  all_goals exact absurd updated (by simp)

theorem updates_of_updateSet {block : Block} {stored : Datum} {current operand : List Atom}
    {value : Datum} (declared : block.kind = .set) (stored_eq : stored.items? = some current)
    (operand_eq : block.value.items? = some operand)
    (updated : block.updateSet current operand = .ok value) : block.Updates stored value := by
  unfold updateSet at updated
  cases operator_eq : block.operator <;> simp only [operator_eq] at updated
  case assign =>
    cases updated
    exact .replacedSet declared operator_eq stored_eq operand_eq
  case add =>
    cases updated
    exact .united declared operator_eq stored_eq operand_eq
  case subtract =>
    cases updated
    exact .reduced declared operator_eq stored_eq operand_eq
  all_goals exact absurd updated (by simp)

/-- Every value that a block works out on stored data is one of these. -/
theorem updates_of_update {block : Block} {stored value : Datum}
    (updated : block.update stored = .ok value) : block.Updates stored value := by
  unfold update at updated
  cases declared : block.kind <;> simp only [declared] at updated
  case number =>
    split at updated
    · next operand_eq => exact updates_of_updateNumber declared operand_eq updated
    · exact absurd updated (by simp)
  case text =>
    split at updated
    · next operand_eq => exact updates_of_updateText declared operand_eq updated
    · exact absurd updated (by simp)
  case sequence =>
    split at updated
    · next stored_eq operand_eq =>
      exact updates_of_updateSequence declared stored_eq operand_eq updated
    · exact absurd updated (by simp)
  case set =>
    split at updated
    · next stored_eq operand_eq =>
      exact updates_of_updateSet declared stored_eq operand_eq updated
    · exact absurd updated (by simp)

/-- On an absent variable only a block that is no reference has a value, its initial one. -/
theorem valueOn_none {block : Block} {value : Datum} (valued : block.valueOn none = .ok value) :
    block.operator ≠ .reference ∧ value = block.initial := by
  simp only [valueOn] at valued
  split at valued
  · exact absurd valued (by simp)
  · next noReference =>
    cases valued
    exact ⟨noReference, rfl⟩

/-- On stored data a block that is no reference has a value only if the kinds fit. -/
theorem valueOn_some {block : Block} {stored value : Datum}
    (noReference : block.operator ≠ .reference) (valued : block.valueOn (some stored) = .ok value) :
    block.kind.accepts stored.kind = true ∧ block.update stored = .ok value := by
  simp only [valueOn, noReference, if_false] at valued
  split at valued
  · next fits => exact ⟨fits, valued⟩
  · exact absurd valued (by simp)

end Block
end ChatMacro
