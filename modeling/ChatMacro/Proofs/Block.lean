import ChatMacro.Block
import ChatMacro.Proofs.Datum

/-!
# Blocks that are read

A block that is read from a text moves a number by one, or it has the literal behind its operator
as its operand.  A reference has no literal, and the literal of a deletion is a text.  A block may
be given other operands and names after it was read.
-/

namespace ChatMacro
namespace Block

/-- The two forms of a block that is read from a text. -/
inductive Written (block : Block) : Prop where
  /-- A step by one. -/
  | step (operator_eq : block.operator = .increment ∨ block.operator = .decrement)
      (value_eq : block.value = .number 1.0) (kind_eq : block.kind = .number)
  /-- An operator with the literal that follows it. -/
  | operand (noStep : block.operator ≠ .increment ∧ block.operator ≠ .decrement)
      (value_eq : block.value = Literal.datum block.raw)
      (kind_eq : block.kind = block.value.kind)
      (nothing : block.operator = .reference → block.raw = "")

theorem operatorOf_reference {text : List Char} (reference : (operatorOf text).1 = .reference) :
    (operatorOf text).2 = [] := by
  cases text with
  | nil => rfl
  | cons character tail =>
      unfold operatorOf at reference
      split at reference
      · cases reference
      · split at reference
        · cases reference
        · split at reference <;> contradiction

theorem written_setValue {block : Block} {raw : String}
    (noStep : block.operator ≠ .increment ∧ block.operator ≠ .decrement)
    (nothing : block.operator = .reference → raw = "") : (block.setValue raw).Written := by
  apply Written.operand
  · simpa only [setValue] using noStep
  · simp only [setValue]
  · simp only [setValue]
  · intro reference
    simp only [setValue] at reference ⊢
    rw [nothing reference]
    rfl

/-- A block that is read has a name and one of the two forms. -/
theorem parse?_cases {inner : String} {block : Block} (parsed : parse? inner = some block) :
    block.name ≠ "" ∧ block.Written := by
  unfold parse? at parsed
  split at parsed
  next body fallback _ =>
    dsimp only at parsed
    generalize named : normalizeName (String.ofList (body.takeWhile (!isOperatorStart ·))) = name
      at parsed
    generalize split : operatorOf (body.dropWhile (!isOperatorStart ·)) = parts at parsed
    obtain ⟨operator, operand⟩ := parts
    by_cases nameless : name = ""
    · simp [nameless] at parsed
    · cases operator <;> simp only [nameless, if_false, Option.some.injEq] at parsed
      case increment | decrement =>
        subst parsed
        exact ⟨nameless, .step (by simp) rfl rfl⟩
      case reference =>
        have nothing := operatorOf_reference (congrArg Prod.fst split)
        rw [split] at nothing
        subst parsed
        refine ⟨by simpa only [setValue] using nameless, written_setValue (by simp) ?_⟩
        exact fun _ => congrArg String.ofList nothing
      all_goals
        subst parsed
        exact ⟨by simpa only [setValue] using nameless, written_setValue (by simp) (by simp)⟩

variable {block : Block}

theorem Written.kind_eq_kind (written : block.Written) : block.kind = block.value.kind := by
  cases written with
  | step _ value_eq kind_eq => rw [value_eq, kind_eq]; rfl
  | operand _ _ kind_eq _ => exact kind_eq

theorem Written.value_of_reference (written : block.Written)
    (reference : block.operator = .reference) : block.value = .text "" := by
  cases written with
  | step operator_eq => simp [reference] at operator_eq
  | operand _ value_eq _ nothing =>
      rw [value_eq, nothing reference]
      rfl

theorem Written.value_of_deletion (written : block.Written)
    (deletion : block.isDeletion = true) : block.value = .text Block.deletion := by
  simp only [isDeletion, Bool.and_eq_true, decide_eq_true_iff] at deletion
  obtain ⟨operator_eq, raw_eq⟩ := deletion
  cases written with
  | step steps => simp [operator_eq] at steps
  | operand _ value_eq _ _ =>
      rw [value_eq, raw_eq]
      rfl

/-! ## Changed blocks -/

/-- The blocks that are read from a text and then given other operands and names. -/
inductive Edited : Block → Prop where
  /-- A block is read. -/
  | read {inner : String} {block : Block} (parsed : parse? inner = some block) : Edited block
  /-- A block gets another operand. -/
  | setValue {block : Block} (raw : String) (edited : Edited block) : Edited (block.setValue raw)
  /-- A block gets another name. -/
  | setName {block : Block} (name : String) (edited : Edited block) : Edited (block.setName name)

theorem value_setValue (block : Block) (raw : String) :
    (block.setValue raw).value = Literal.datum (String.ofList (Text.trim raw.toList)) := by
  simp only [setValue]

theorem Edited.value_cases (edited : block.Edited) :
    block.value = .number 1.0 ∨ ∃ raw, block.value = Literal.datum raw := by
  induction edited with
  | read parsed =>
      cases (parse?_cases parsed).2 with
      | step _ value_eq => exact .inl value_eq
      | operand _ value_eq => exact .inr ⟨_, value_eq⟩
  | @setValue block raw _ _ => exact .inr ⟨_, block.value_setValue raw⟩
  | setName name _ ih => exact ih

end Block
end ChatMacro
