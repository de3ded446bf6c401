import ChatMacro.Proofs.Text.Search
import ChatMacro.Proofs.Text.Words
import Mathlib.Data.List.TakeWhile

/-!
# The parts of a block

The text of a block is taken apart at the first bar and at the first operator in front of it.  What
stands before both is the name, and a text without a name is no block.  Names have no blanks, no
operators and no bars, and every such text is the name of a block.
-/

namespace ChatMacro
namespace Block

open Text

/-- Whether a name can have a character: blanks, the starts of operators and bars are left out. -/
def isNameCharacter (character : Char) : Bool :=
  !isBlank character && !isOperatorStart character && character ≠ '|'

/-- The text in front of the fallback. -/
def bodyPart (inner : List Char) : List Char :=
  ((splitOnce? '|' inner).map Prod.fst).getD inner

/-- The text in front of the first operator and of the fallback. -/
def namePart (inner : List Char) : List Char :=
  (((splitOnce? '|' inner).map Prod.fst).getD inner).takeWhile (!isOperatorStart ·)

/-- The operator and its operand. -/
def operation (inner : List Char) : Operator × List Char :=
  operatorOf ((bodyPart inner).dropWhile (!isOperatorStart ·))

/-- The value behind the first bar. -/
def fallbackPart (inner : List Char) : Option Datum :=
  (splitOnce? '|' inner).map fun parts => Literal.datum (String.ofList parts.2)

/-- The block with the given parts. -/
def assemble (name : String) (operation : Operator × List Char) (fallback : Option Datum) : Block :=
  let block : Block :=
    { name, operator := operation.1, value := .number 1.0, raw := "1", kind := .number, fallback,
      output := none }
  match operation.1 with
  | .increment | .decrement => block
  | _ => block.setValue (String.ofList operation.2)

/-- A text with a name is the block that its parts make. -/
theorem parse?_eq (inner : String) :
    parse? inner =
      let name := normalizeName (String.ofList (namePart inner.toList))
      if name = "" then none
      else some (assemble name (operation inner.toList) (fallbackPart inner.toList)) := by
  unfold parse? namePart operation bodyPart fallbackPart assemble
  cases splitOnce? '|' inner.toList with
  | none =>
      dsimp only [Option.map_none, Option.getD_none]
      generalize operatorOf _ = parts
      obtain ⟨operator, operand⟩ := parts
      cases operator <;> rfl
  | some parts =>
      dsimp only [Option.map_some, Option.getD_some]
      generalize operatorOf _ = parts
      obtain ⟨operator, operand⟩ := parts
      cases operator <;> rfl

theorem name_assemble (name : String) (operation : Operator × List Char)
    (fallback : Option Datum) : (assemble name operation fallback).name = name := by
  obtain ⟨operator, operand⟩ := operation
  cases operator <;> rfl

/-- The name of a block is made of the text in front of its first operator. -/
theorem name_eq_of_parse? {inner : String} {block : Block} (parsed : parse? inner = some block) :
    block.name = normalizeName (String.ofList (namePart inner.toList)) := by
  rw [parse?_eq] at parsed
  dsimp only at parsed
  split at parsed
  next => cases parsed
  next =>
    cases parsed
    exact name_assemble _ _ _

theorem mem_namePart {inner : List Char} {character : Char} (member : character ∈ namePart inner) :
    isOperatorStart character = false ∧ character ≠ '|' := by
  have noOperator : isOperatorStart character = false := by
    simpa using List.mem_takeWhile_imp member
  have inBody := (List.takeWhile_sublist _).mem member
  cases split : splitOnce? '|' inner with
  | none =>
      rw [split] at inBody
      exact ⟨noOperator, splitOnce?_eq_none_iff.mp split character inBody⟩
  | some parts =>
      rw [split] at inBody
      exact ⟨noOperator, (mem_of_splitOnce? split inBody).2⟩

theorem isNameCharacter_of_parse? {inner : String} {block : Block}
    (parsed : parse? inner = some block) :
    ∀ character ∈ block.name.toList, isNameCharacter character = true := by
  intro character member
  rw [name_eq_of_parse? parsed] at member
  obtain ⟨solid, inside⟩ := mem_of_mem_normalizeName member
  rcases inside with rfl | inside
  · decide
  · rw [String.toList_ofList] at inside
    obtain ⟨noOperator, noBar⟩ := mem_namePart inside
    simp [isNameCharacter, solid, noOperator, noBar]

theorem solid_of_isNameCharacter {text : List Char}
    (characters : ∀ character ∈ text, isNameCharacter character = true) : Solid text := by
  intro character member
  have allowed := characters character member
  simp only [isNameCharacter, Bool.and_eq_true, Bool.not_eq_true'] at allowed
  exact allowed.1.1

/-- Every text of such characters is the name of a block, which refers to it. -/
theorem parse?_of_isNameCharacter {name : String} (nonempty : name ≠ "")
    (characters : ∀ character ∈ name.toList, isNameCharacter character = true) :
    ∃ block, parse? name = some block ∧ block.name = name := by
  have noBar : splitOnce? '|' name.toList = none := by
    refine splitOnce?_eq_none_iff.mpr fun character member => ?_
    have allowed := characters character member
    simp only [isNameCharacter, Bool.and_eq_true, decide_eq_true_eq] at allowed
    exact allowed.2
  have noOperator : ∀ character ∈ name.toList, (!isOperatorStart character) = true := by
    intro character member
    have allowed := characters character member
    simp only [isNameCharacter, Bool.and_eq_true] at allowed
    exact allowed.1.2
  have taken := List.takeWhile_eq_self_iff.mpr noOperator
  have dropped := List.dropWhile_eq_nil_iff.mpr noOperator
  have normalized := normalizeName_of_solid (solid_of_isNameCharacter characters)
  simp only [parse?, noBar, taken, dropped, String.ofList_toList, normalized, nonempty, if_false]
  exact ⟨_, rfl, rfl⟩

end Block
end ChatMacro
