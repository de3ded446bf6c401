import ChatMacro.Proofs.Block
import ChatMacro.Proofs.Block.Parts
import ChatMacro.Proofs.Literal
import ChatMacro.Proofs.Repeats

/-!
# Consistent blocks

The fields of a block depend on each other: its value and its kind are those of the text that it was
written with, and its name is a name.  Every block that is read is consistent in this way, a step by
one like the others, and it stays so when it is given other operands and names.
-/

namespace ChatMacro
namespace Block

open Text

/-- A block whose fields fit each other. -/
structure Consistent (block : Block) : Prop where
  /-- The operand as it was written has no blanks around it. -/
  raw_trimmed : Trimmed block.raw.toList
  /-- The operand is the value of the literal. -/
  value_eq : block.value = Literal.datum block.raw
  /-- The kind is that of the operand. -/
  kind_eq : block.kind = block.value.kind
  /-- The kind is the one that is read off the literal. -/
  kind_eq_literal : block.kind = Literal.kind block.raw
  /-- A set has no element twice. -/
  repeatless : ∀ items, block.value = .set items → Atom.Repeatless items
  /-- The name has no blanks. -/
  name_solid : Solid block.name.toList
  /-- The name is its own name. -/
  name_eq : normalizeName block.name = block.name

variable {block : Block}

/-- Value and kind of the operand's text, together with a name, make a block consistent. -/
theorem consistent_of_raw (raw_trimmed : Trimmed block.raw.toList)
    (value_eq : block.value = Literal.datum block.raw) (kind_eq : block.kind = block.value.kind)
    (name_solid : Solid block.name.toList) : block.Consistent where
  raw_trimmed := raw_trimmed
  value_eq := value_eq
  kind_eq := kind_eq
  kind_eq_literal := by rw [kind_eq, value_eq, Literal.kind_datum]
  repeatless := by
    intro items same
    have repeatless := Literal.repeatless_datum block.raw
    rwa [← value_eq, same] at repeatless
  name_solid := name_solid
  name_eq := normalizeName_of_solid name_solid

theorem datum_one : Literal.datum "1" = .number 1.0 := by decide +kernel

theorem trimmed_one : Trimmed "1".toList := by
  have single : "1".toList = ['1'] := by decide +kernel
  rw [single]
  constructor
  · rintro _ ⟨⟩
    decide
  · rintro _ ⟨⟩
    decide

theorem raw_setValue (block : Block) (raw : String) :
    (block.setValue raw).raw = String.ofList (trim raw.toList) := by
  simp only [setValue]

theorem name_setValue (block : Block) (raw : String) :
    (block.setValue raw).name = block.name := by
  simp only [setValue]

theorem kind_setValue (block : Block) (raw : String) :
    (block.setValue raw).kind = (block.setValue raw).value.kind := by
  simp only [setValue]

/-- A new operand makes a block with a name consistent. -/
theorem consistent_setValue (raw : String) (name_solid : Solid block.name.toList) :
    (block.setValue raw).Consistent := by
  apply consistent_of_raw
  · rw [raw_setValue, String.toList_ofList]
    exact trimmed_trim raw.toList
  · rw [raw_setValue, value_setValue]
  · exact kind_setValue block raw
  · rwa [name_setValue]

theorem Consistent.setName (consistent : block.Consistent) (name : String) :
    (block.setName name).Consistent :=
  consistent_of_raw consistent.raw_trimmed consistent.value_eq consistent.kind_eq
    (solid_normalizeName name)

theorem consistent_assemble {name : String} (name_solid : Solid name.toList)
    (operation : Operator × List Char) (fallback : Option Datum) :
    (assemble name operation fallback).Consistent := by
  obtain ⟨operator, operand⟩ := operation
  cases operator with
  | increment | decrement => exact consistent_of_raw trimmed_one datum_one.symm rfl name_solid
  | assign | add | subtract | reference => exact consistent_setValue _ name_solid

theorem consistent_of_parse? {inner : String} (parsed : parse? inner = some block) :
    block.Consistent := by
  rw [parse?_eq] at parsed
  dsimp only at parsed
  split at parsed
  next => cases parsed
  next =>
    cases parsed
    exact consistent_assemble (solid_normalizeName _) _ _

/-- A block that is read from a text and given any operands and names after that is consistent: the
text of its operand has no blanks around it, its value and its kind are those of that text, a set
has no element twice, and its name has no blanks and is its own name. -/
theorem Edited.consistent (edited : block.Edited) : block.Consistent := by
  induction edited with
  | read parsed => exact consistent_of_parse? parsed
  | setValue raw _ ih => exact consistent_setValue raw ih.name_solid
  | setName name _ ih => exact ih.setName name

/-- A step by one. -/
def hits : Block :=
  { name := "hits", operator := .increment, value := .number 1.0, raw := "1", kind := .number,
    fallback := none, output := none }

theorem consistent_renamed :
    parse? " hits ++ " = some hits ∧ hits.Consistent ∧
      ((hits.setValue " (b, a, b) ").setName " my  tags ").Consistent := by
  have parsed : parse? " hits ++ " = some hits := by decide +kernel
  have edited : hits.Edited := .read parsed
  exact ⟨parsed, edited.consistent, (Edited.setName _ (.setValue _ edited)).consistent⟩

end Block
end ChatMacro
