import ChatMacro.Proofs.Block.Consistency

/-!
# The grammar of blocks

How blocks are written: a name, the sign of an operator, an operand and perhaps a fallback behind a
bar, with blanks around the name and the operand.  What is written in this way is read back, though
signs may occur again in the operand, and signs and bars in the fallback.  The texts that are not
read at all are those with nothing but blanks in front of the first sign or bar.
-/

namespace ChatMacro

namespace Operator

/-- The sign of an operator in a block.  A reference is written without one: its star is for
messages, and behind a name it would be a part of the name. -/
def sign : Operator → List Char
  | reference => []
  | operator => operator.symbol.toList

/-- Whether an operator moves a number by one. -/
def isStep : Operator → Bool
  | increment | decrement => true
  | assign | add | subtract | reference => false

theorem sign_eq (operator : Operator) :
    operator.sign =
      match operator with
      | assign => ['=']
      | add => ['+']
      | subtract => ['-']
      | increment => ['+', '+']
      | decrement => ['-', '-']
      | reference => [] := by
  cases operator <;> decide +kernel

theorem bar_notMem_sign (operator : Operator) : '|' ∉ operator.sign := by
  rw [sign_eq]
  cases operator <;> decide

end Operator

namespace Block

open Text

/-- The characters that end a name. -/
def delimiters : List Char := ['=', '+', '-', '|']

/-! ## Operators -/

theorem operatorOf_equals (text : List Char) : operatorOf ('=' :: text) = (.assign, text) := by
  simp [operatorOf, trimEnd_cons (show isBlank '=' = false by decide)]

theorem operatorOf_plus (text : List Char) :
    operatorOf ('+' :: text) =
      if trimEnd text = ['+'] then (.increment, []) else (.add, text) := by
  simp [operatorOf, trimEnd_cons (show isBlank '+' = false by decide)]

theorem operatorOf_minus (text : List Char) :
    operatorOf ('-' :: text) =
      if trimEnd text = ['-'] then (.decrement, []) else (.subtract, text) := by
  simp [operatorOf, trimEnd_cons (show isBlank '-' = false by decide)]

/-! ## Written forms -/

/-- What is written in a block. -/
structure Form where
  /-- The name. -/
  name : String
  /-- The operator, which is written as its sign. -/
  operator : Operator
  /-- The operand. -/
  operand : String
  /-- The fallback, if there is one. -/
  fallback : Option String
  /-- There is a name. -/
  name_ne : name ≠ ""
  /-- The name is written as it is. -/
  name_eq : normalizeName name = name
  /-- The name does not go on as an operator or a fallback. -/
  name_free : ∀ character ∈ name.toList, character ∉ delimiters
  /-- The operand has no blanks around it. -/
  operand_trimmed : Trimmed operand.toList
  /-- The operand does not go on as a fallback. -/
  operand_free : '|' ∉ operand.toList
  /-- References and steps have no operand. -/
  operand_eq : operator = .reference ∨ operator.isStep = true → operand = ""
  /-- The operand of an addition does not make it a step. -/
  add_ne : operator = .add → operand ≠ "+"
  /-- The operand of a subtraction does not make it a step. -/
  subtract_ne : operator = .subtract → operand ≠ "-"

/-- The blanks in a block. -/
structure Padding where
  /-- Blanks in front of the name. -/
  beforeName : List Char
  /-- Blanks behind the name. -/
  afterName : List Char
  /-- Blanks in front of the operand. -/
  beforeOperand : List Char
  /-- Blanks behind the operand. -/
  afterOperand : List Char
  /-- They are blank. -/
  blank : [beforeName, afterName, beforeOperand, afterOperand].all allBlank = true

namespace Form

variable (form : Form) (padding : Padding)

/-- The operand with the blanks around it. -/
def paddedOperand : List Char :=
  padding.beforeOperand ++ form.operand.toList ++ padding.afterOperand

/-- The text up to the fallback. -/
def bodyText : List Char :=
  padding.beforeName ++ form.name.toList ++ padding.afterName ++
    (form.operator.sign ++ form.paddedOperand padding)

/-- The text of a block. -/
def text : String :=
  String.ofList <|
    match form.fallback with
    | none => form.bodyText padding
    | some fallback => form.bodyText padding ++ '|' :: fallback.toList

/-- The block that is written. -/
def block : Block where
  name := form.name
  operator := form.operator
  raw := if form.operator.isStep then "1" else form.operand
  value := if form.operator.isStep then .number 1.0 else Literal.datum form.operand
  kind := if form.operator.isStep then .number else Literal.kind form.operand
  fallback := form.fallback.map Literal.datum
  output := none

variable {form padding}

theorem mem_delimiters_iff {character : Char} :
    character ∈ delimiters ↔ isOperatorStart character = true ∨ character = '|' := by
  simp [delimiters, isOperatorStart, or_assoc]

theorem not_delimiter_of_isBlank {character : Char} (blank : isBlank character = true) :
    character ∉ delimiters := by
  simp only [delimiters, List.mem_cons, List.not_mem_nil, or_false]
  rintro (rfl | rfl | rfl | rfl) <;> exact absurd blank (by decide)

theorem blank_padding (padding : Padding) :
    allBlank padding.beforeName = true ∧ allBlank padding.afterName = true ∧
      allBlank padding.beforeOperand = true ∧ allBlank padding.afterOperand = true := by
  simpa [List.all_cons, Bool.and_eq_true] using padding.blank

theorem trim_paddedOperand : trim (form.paddedOperand padding) = form.operand.toList := by
  obtain ⟨-, -, before, after⟩ := blank_padding padding
  rw [paddedOperand, trim_around before _ after, form.operand_trimmed.trim_eq]

theorem paddedOperand_of_empty (empty : form.operand = "") :
    allBlank (form.paddedOperand padding) = true := by
  obtain ⟨-, -, before, after⟩ := blank_padding padding
  have nothing : form.operand.toList = [] := String.toList_eq_nil_iff.mpr empty
  rw [paddedOperand, nothing, List.append_nil, allBlank, List.all_append]
  exact Bool.and_eq_true_iff.mpr ⟨before, after⟩

/-- The name with the blanks around it holds no delimiter. -/
theorem not_delimiter_of_mem_name {character : Char}
    (member : character ∈ padding.beforeName ++ form.name.toList ++ padding.afterName) :
    character ∉ delimiters := by
  obtain ⟨before, after, -⟩ := blank_padding padding
  rcases List.mem_append.mp member with inFront | inBack
  · rcases List.mem_append.mp inFront with inBlanks | inName
    · exact not_delimiter_of_isBlank (allBlank_iff.mp before character inBlanks)
    · exact form.name_free character inName
  · exact not_delimiter_of_isBlank (allBlank_iff.mp after character inBack)

/-- Only the fallback starts with a bar. -/
theorem ne_bar_of_mem_bodyText {character : Char} (member : character ∈ form.bodyText padding) :
    character ≠ '|' := by
  obtain ⟨-, -, before, after⟩ := blank_padding padding
  have bar : '|' ∈ delimiters := by decide
  rintro rfl
  simp only [bodyText, paddedOperand, List.mem_append] at member
  rcases member with inName | inSign | (inBlanks | inOperand) | inBlanks
  · exact not_delimiter_of_mem_name (by simpa only [List.mem_append] using inName) bar
  · exact form.operator.bar_notMem_sign inSign
  · exact not_delimiter_of_isBlank (allBlank_iff.mp before _ inBlanks) bar
  · exact form.operand_free inOperand
  · exact not_delimiter_of_isBlank (allBlank_iff.mp after _ inBlanks) bar

theorem splitOnce?_text :
    splitOnce? '|' (form.text padding).toList =
      form.fallback.map fun fallback => (form.bodyText padding, fallback.toList) := by
  rw [text, String.toList_ofList]
  cases form.fallback with
  | none => exact splitOnce?_eq_none_iff.mpr fun _ => ne_bar_of_mem_bodyText
  | some fallback => exact splitOnce?_append (fun _ => ne_bar_of_mem_bodyText) fallback.toList

theorem bodyPart_text : bodyPart (form.text padding).toList = form.bodyText padding := by
  rw [bodyPart, splitOnce?_text]
  cases hasFallback : form.fallback with
  | none => rw [text, String.toList_ofList, hasFallback]; rfl
  | some fallback => rfl

theorem fallbackPart_text :
    fallbackPart (form.text padding).toList = form.fallback.map Literal.datum := by
  rw [fallbackPart, splitOnce?_text]
  cases form.fallback with
  | none => rfl
  | some fallback => simp only [Option.map_some, String.ofList_toList]

/-! ## Reading the operator -/

/-- The sign of a step stands alone. -/
theorem trimEnd_step (step : form.operator.isStep = true) {sign : Char}
    (solid : isBlank sign = false) :
    trimEnd (sign :: form.paddedOperand padding) = [sign] ∧ form.operand.toList = [] := by
  have nothing : form.operand = "" := form.operand_eq (.inr step)
  rw [trimEnd_cons solid, trimEnd_of_blank (paddedOperand_of_empty nothing)]
  exact ⟨rfl, String.toList_eq_nil_iff.mpr nothing⟩

/-- The sign of another operator does not make a step with the operand. -/
theorem trimEnd_paddedOperand_ne {sign : Char} (solid : isBlank sign = false)
    (different : form.operand ≠ String.ofList [sign]) :
    trimEnd (form.paddedOperand padding) ≠ [sign] := by
  intro same
  have operand_eq : form.operand.toList = [sign] :=
    trim_paddedOperand.symm.trans (trim_of_trimEnd same solid)
  exact different (String.toList_inj.mp (by rw [operand_eq, String.toList_ofList]))

/-- The operator is read, and the operand behind it has the blanks around it still. -/
theorem exists_operatorOf (notReference : form.operator ≠ .reference) :
    ∃ operand, operatorOf (form.operator.sign ++ form.paddedOperand padding) =
        (form.operator, operand) ∧ trim operand = form.operand.toList := by
  rw [Operator.sign_eq]
  cases operator_eq : form.operator with
  | reference => exact absurd operator_eq notReference
  | assign => exact ⟨_, operatorOf_equals _, trim_paddedOperand⟩
  | add =>
      have noStep : trimEnd (form.paddedOperand padding) ≠ ['+'] :=
        trimEnd_paddedOperand_ne (by decide) (form.add_ne operator_eq)
      exact ⟨_, (operatorOf_plus _).trans (if_neg noStep), trim_paddedOperand⟩
  | subtract =>
      have noStep : trimEnd (form.paddedOperand padding) ≠ ['-'] :=
        trimEnd_paddedOperand_ne (by decide) (form.subtract_ne operator_eq)
      exact ⟨_, (operatorOf_minus _).trans (if_neg noStep), trim_paddedOperand⟩
  | increment =>
      obtain ⟨alone, nothing⟩ : trimEnd ('+' :: form.paddedOperand padding) = ['+'] ∧ _ :=
        trimEnd_step (by rw [operator_eq]; rfl) (by decide)
      exact ⟨[], (operatorOf_plus _).trans (if_pos alone), nothing.symm⟩
  | decrement =>
      obtain ⟨alone, nothing⟩ : trimEnd ('-' :: form.paddedOperand padding) = ['-'] ∧ _ :=
        trimEnd_step (by rw [operator_eq]; rfl) (by decide)
      exact ⟨[], (operatorOf_minus _).trans (if_pos alone), nothing.symm⟩

/-- What stands behind the name starts with an operator, or it is blank and the block a
reference. -/
theorem span_operation (form : Form) (padding : Padding) :
    let behind := form.operator.sign ++ form.paddedOperand padding
    allBlank (behind.takeWhile (!isOperatorStart ·)) = true ∧
      ∃ operand, operatorOf (behind.dropWhile (!isOperatorStart ·)) = (form.operator, operand) ∧
        trim operand = form.operand.toList := by
  intro behind
  by_cases reference : form.operator = .reference
  · have nothing : form.operand = "" := form.operand_eq (.inl reference)
    have behind_eq : behind = form.paddedOperand padding := by
      simp only [behind, reference, Operator.sign_eq, List.nil_append]
    have blank : ∀ character ∈ behind, isBlank character = true := by
      rw [behind_eq]
      exact allBlank_iff.mp (paddedOperand_of_empty nothing)
    have noOperator : ∀ character ∈ behind, (!isOperatorStart character) = true := by
      intro character member
      have noDelimiter := not_delimiter_of_isBlank (blank character member)
      rw [mem_delimiters_iff, not_or] at noDelimiter
      simpa using noDelimiter.1
    rw [List.takeWhile_eq_self_iff.mpr noOperator, List.dropWhile_eq_nil_iff.mpr noOperator,
      reference, String.toList_eq_nil_iff.mpr nothing]
    exact ⟨allBlank_iff.mpr blank, [], rfl, rfl⟩
  · obtain ⟨first, more, behind_eq, start⟩ :
        ∃ first more, behind = first :: more ∧ isOperatorStart first = true := by
      simp only [behind, Operator.sign_eq]
      cases operator_eq : form.operator with
      | reference => exact absurd operator_eq reference
      | assign | add | subtract | increment | decrement => exact ⟨_, _, rfl, by decide⟩
    have taken : behind.takeWhile (!isOperatorStart ·) = [] := by
      rw [behind_eq]
      exact List.takeWhile_cons_of_neg (by simp [start])
    have dropped : behind.dropWhile (!isOperatorStart ·) = behind := by
      rw [behind_eq]
      exact List.dropWhile_cons_of_neg (by simp [start])
    rw [taken, dropped]
    exact ⟨rfl, exists_operatorOf reference⟩

theorem not_isOperatorStart_of_mem_name {character : Char}
    (member : character ∈ padding.beforeName ++ form.name.toList ++ padding.afterName) :
    (!isOperatorStart character) = true := by
  have noDelimiter := not_delimiter_of_mem_name member
  rw [mem_delimiters_iff, not_or] at noDelimiter
  simpa using noDelimiter.1

/-- The name is read; behind the name of a reference there may be more blanks. -/
theorem normalizeName_text (form : Form) (padding : Padding) :
    normalizeName (String.ofList (namePart (form.text padding).toList)) = form.name := by
  obtain ⟨before, after, -⟩ := blank_padding padding
  have blank := (span_operation form padding).1
  have part_eq : namePart (form.text padding).toList =
      (form.bodyText padding).takeWhile (!isOperatorStart ·) :=
    congrArg _ bodyPart_text
  rw [part_eq, bodyText, List.takeWhile_append_of_pos fun _ => not_isOperatorStart_of_mem_name,
    List.append_assoc, normalizeName_around before, String.ofList_toList, form.name_eq]
  rw [allBlank, List.all_append]
  exact Bool.and_eq_true_iff.mpr ⟨after, blank⟩

theorem exists_operation_text (form : Form) (padding : Padding) :
    ∃ operand, operation (form.text padding).toList = (form.operator, operand) ∧
      trim operand = form.operand.toList := by
  rw [operation, bodyPart_text, bodyText,
    List.dropWhile_append_of_pos fun _ => not_isOperatorStart_of_mem_name]
  exact (span_operation form padding).2

/-- The parts of a written form make the block that is written. -/
theorem assemble_eq {operand : List Char} (trimmed : trim operand = form.operand.toList) :
    assemble form.name (form.operator, operand) (form.fallback.map Literal.datum) = form.block := by
  have raw_eq : String.ofList (trim operand) = form.operand := by
    rw [trimmed, String.ofList_toList]
  unfold assemble block
  cases form.operator with
  | increment | decrement => rfl
  | assign | add | subtract | reference =>
      simp only [setValue, String.toList_ofList, raw_eq, Literal.kind_datum]
      rfl

theorem parse?_text (form : Form) (padding : Padding) :
    parse? (form.text padding) = some form.block := by
  obtain ⟨operand, operation_eq, trimmed⟩ := exists_operation_text form padding
  rw [parse?_eq]
  dsimp only
  rw [normalizeName_text, if_neg form.name_ne, operation_eq, fallbackPart_text,
    assemble_eq trimmed]

end Form

/-! ## Texts that are no block -/

theorem namePart_eq (inner : List Char) : namePart inner = inner.takeWhile (· ∉ delimiters) := by
  rw [namePart, front_splitOnce?, List.takeWhile_takeWhile]
  congr 1
  funext character
  simp [delimiters, isOperatorStart, and_assoc]

theorem parse?_eq_none_iff {inner : String} :
    parse? inner = none ↔ allBlank (inner.toList.takeWhile (· ∉ delimiters)) = true := by
  rw [parse?_eq]
  dsimp only
  rw [← namePart_eq, ← String.toList_ofList (l := namePart inner.toList),
    ← normalizeName_eq_empty_iff, String.toList_ofList]
  split
  next nameless => exact iff_of_true rfl nameless
  next named => exact iff_of_false (by simp) named

/-- Blocks are read as they are written: name, sign, operand and fallback, with any blanks around
the name and the operand, give a block with that name, operator, operand and fallback.  And a text
is no block exactly if everything in front of the first sign or bar is blank. -/
theorem reads_written :
    (∀ (form : Form) (padding : Padding), parse? (form.text padding) = some form.block) ∧
    ∀ inner : String, parse? inner = none ↔
      ∀ character ∈ inner.toList.takeWhile (· ∉ delimiters), isBlank character = true :=
  ⟨Form.parse?_text, fun _ => parse?_eq_none_iff.trans allBlank_iff⟩

/-- An addition in whose operand there are signs, and in whose fallback there is a bar. -/
def crowdedForm : Form where
  name := "my.var"
  operator := .add
  operand := "+-=3"
  fallback := some "a|=b"
  name_ne := by decide
  name_eq := by decide +kernel
  name_free := fun character member =>
    of_decide_eq_true (List.all_eq_true.mp
      (show "my.var".toList.all (· ∉ delimiters) = true by decide +kernel) character member)
  operand_trimmed := by
    have operand_eq : "+-=3".toList = ['+', '-', '=', '3'] := by decide +kernel
    rw [operand_eq]
    constructor
    · rintro _ ⟨⟩
      decide
    · rintro _ ⟨⟩
      decide
  operand_free := by decide +kernel
  operand_eq := by decide
  add_ne := by decide
  subtract_ne := by decide

/-- Different blanks around the name, and one in front of the operand. -/
def crowdedPadding : Padding where
  beforeName := [' ']
  afterName := ['\t']
  beforeOperand := [' ']
  afterOperand := []
  blank := by decide

theorem reads_written_crowded :
    parse? " my.var\t+ +-=3|a|=b" =
      some { name := "my.var", operator := .add, raw := "+-=3", value := .text "+-=3",
             kind := .text, fallback := some (.text "a|=b"), output := none } := by
  have text_eq : crowdedForm.text crowdedPadding = " my.var\t+ +-=3|a|=b" := by decide +kernel
  have parsed := reads_written.1 crowdedForm crowdedPadding
  rw [text_eq] at parsed
  rw [parsed]
  decide +kernel

end Block
end ChatMacro
