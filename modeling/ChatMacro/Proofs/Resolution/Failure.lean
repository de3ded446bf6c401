import ChatMacro.Proofs.Resolution.Overflow

/-!
# Blocks that fail on their values

A block other than a reference fails on stored data if the kinds do not fit, if its kind does not
have its operator or its operand, or if the operand makes no value.  On a variable without data only
a reference fails.
-/

namespace ChatMacro

/-- Whether the blocks of a kind have an operator that writes. -/
def Kind.supports (kind : Kind) (operator : Operator) : Bool :=
  match kind with
  | .number => true
  | .text => operator = .assign || operator = .add
  | .sequence | .set => operator = .assign || operator = .add || operator = .subtract

theorem Datum.isCollection_eq (value : Datum) : value.kind.isCollection = value.items?.isSome := by
  cases value <;> rfl

namespace Block

/-- The stored data is of another kind than the block works on. -/
def mismatches (block : Block) (stored : Datum) : Bool :=
  !block.kind.accepts stored.kind

/-- The kind of the block does not have its operator, or the operand is of another kind. -/
def isUnsupported (block : Block) : Bool :=
  !(block.kind.accepts block.value.kind && block.kind.supports block.operator)

/-- The operand makes no value with the stored data: a number gets out of range, or an element of
what is subtracted from a sequence points to no position. -/
def isMalformed (block : Block) (stored : Datum) : Bool :=
  match block.kind with
  | .number =>
      match stored, block.value with
      | .number current, .number operand => !(block.moved current operand).isFinite
      | _, _ => false
  | .sequence =>
      block.operator = .subtract &&
        block.value.items?.any fun operand => !operand.all fun atom => atom.index?.isSome
  | .text | .set => false

/-- Whether a block has no value, given what is stored under the path of its variable. -/
def fails (block : Block) : Option Datum → Bool
  | none => block.operator = .reference
  | some stored =>
      block.operator ≠ .reference &&
        (block.mismatches stored || block.isUnsupported || block.isMalformed stored)

theorem updateText_isOk (block : Block) (current operand : String) :
    (block.updateText current operand).isOk = Kind.supports .text block.operator := by
  unfold updateText
  cases block.operator <;> rfl

theorem updateSequence_isOk_iff (block : Block) (current operand : List Atom) :
    (block.updateSequence current operand).isOk =
      (Kind.supports .sequence block.operator &&
        !(block.operator = .subtract && !operand.all fun atom => atom.index?.isSome)) := by
  unfold updateSequence
  cases block.operator with
  | subtract =>
      refine (Outcome.isOk_bind_ok _ _).trans ?_
      rw [positions_isOk]
      simp [Kind.supports]
  | _ => rfl

/-- A block on collections has a value on one unless it is unsupported or malformed. -/
theorem update_isOk_of_isCollection {block : Block} {stored : Datum}
    (declared : block.kind.isCollection = true) (collection : stored.kind.isCollection = true) :
    (block.update stored).isOk = !(block.isUnsupported || block.isMalformed stored) := by
  obtain ⟨current, stored_eq⟩ := Datum.exists_items?_of_isCollection collection
  have operand_fits : block.kind.accepts block.value.kind = block.value.kind.isCollection :=
    Kind.accepts_of_isCollection declared
  rw [isUnsupported, operand_fits, Datum.isCollection_eq]
  cases kind_eq : block.kind with
  | text => simp [kind_eq, Kind.isCollection] at declared
  | number => simp [kind_eq, Kind.isCollection] at declared
  | sequence =>
      cases operand_eq : block.value.items? with
      | none =>
          simp only [update, kind_eq, stored_eq, operand_eq]
          rfl
      | some operand =>
          simp only [update, isMalformed, kind_eq, stored_eq, operand_eq, updateSequence_isOk_iff]
          simp
  | set =>
      cases operand_eq : block.value.items? with
      | none =>
          simp only [update, kind_eq, stored_eq, operand_eq]
          rfl
      | some operand =>
          simp only [update, isMalformed, kind_eq, stored_eq, operand_eq, updateSet_isOk]
          simp [Kind.supports]

/-- On data of a fitting kind a block has a value unless it is unsupported or malformed. -/
theorem update_isOk {block : Block} {stored : Datum} (noReference : block.operator ≠ .reference)
    (fits : block.kind.accepts stored.kind = true) :
    (block.update stored).isOk = !(block.isUnsupported || block.isMalformed stored) := by
  cases declared : block.kind.isCollection with
  | true =>
      rw [Kind.accepts_of_isCollection declared] at fits
      exact update_isOk_of_isCollection declared fits
  | false =>
      cases kind_eq : block.kind with
      | number =>
          rw [kind_eq] at fits
          cases stored <;> cases fits
          cases value_eq : block.value with
          | number operand =>
              simp only [update, isUnsupported, isMalformed, kind_eq, value_eq, Datum.kind,
                block.updateNumber_isOk _ operand noReference]
              simp [Kind.accepts, Kind.supports]
          | _ =>
              simp only [update, isUnsupported, kind_eq, value_eq, Datum.kind]
              rfl
      | text =>
          rw [kind_eq] at fits
          cases stored <;> cases fits
          cases value_eq : block.value with
          | text operand =>
              simp only [update, isUnsupported, isMalformed, kind_eq, value_eq, Datum.kind,
                updateText_isOk]
              simp [Kind.accepts]
          | _ =>
              simp only [update, isUnsupported, kind_eq, value_eq, Datum.kind]
              rfl
      | sequence => simp [kind_eq, Kind.isCollection] at declared
      | set => simp [kind_eq, Kind.isCollection] at declared

/-- These are all the blocks without a value. -/
theorem valueOn_isOk (block : Block) (stored? : Option Datum) :
    (block.valueOn stored?).isOk = !block.fails stored? := by
  cases stored? with
  | none =>
      simp only [valueOn, fails]
      by_cases reference : block.operator = .reference <;> simp [reference] <;> rfl
  | some stored =>
      by_cases reference : block.operator = .reference
      · simp only [valueOn, fails, reference]
        rfl
      · rw [valueOn_some_isOk block stored reference]
        cases fits : block.kind.accepts stored.kind with
        | false => simp [fails, mismatches, fits, reference]
        | true =>
            rw [update_isOk reference fits]
            simp [fails, mismatches, fits, reference]

end Block
end ChatMacro
