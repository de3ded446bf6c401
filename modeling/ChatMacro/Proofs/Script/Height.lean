import ChatMacro.Proofs.Outcome
import ChatMacro.Script.Parser
import Mathlib.Order.Bounds.Defs
import Mathlib.Tactic.Ring
import Mathlib.Tactic.SplitIfs

/-!
# Heights of expressions

The levels of nesting that a parser counts do not bound the heights of the expressions that it
reads.  A chain of operators takes a level for each of its operators and gives all of them back at
its end, and then it may become the left operand of a looser chain or the condition of a choice,
which start from the same level again.  So each pass through the grammar can add as many operators
as there are levels left, once for each level of precedence.

Left operands and conditions are all that the parser misses.  To tell them apart from the other
parts, heights are taken with a toll on them.
-/

namespace ChatMacro
namespace Script

open Outcome (exists_of_bind_eq_ok)

section

variable (toll : Nat)

mutual

/-- The height of an expression if the step to a left operand or to a condition counts `toll` and
the step to any other part counts one.  Literals and names have no height. -/
def Expr.heightWith : Expr → Nat
  | .literal _ => 0
  | .name _ => 0
  | .template parts => partsHeight parts + 1
  | .unary _ operand => operand.heightWith + 1
  | .binary _ left right => max (left.heightWith + toll) (right.heightWith + 1)
  | .ternary condition positive negative =>
      max (condition.heightWith + toll) (max positive.heightWith negative.heightWith + 1)
  | .assign _ value => value.heightWith + 1
  | .call _ arguments => argumentsHeight arguments + 1

/-- The height of the highest part of a template literal. -/
def partsHeight : List TemplatePart → Nat
  | [] => 0
  | part :: parts => max part.heightWith (partsHeight parts)

/-- The height of a part of a template literal. -/
def TemplatePart.heightWith : TemplatePart → Nat
  | .text _ => 0
  | .expr value => value.heightWith

/-- The height of the highest argument. -/
def argumentsHeight : List Expr → Nat
  | [] => 0
  | argument :: arguments => max argument.heightWith (argumentsHeight arguments)

end

/-- The height of the expression in a statement. -/
def Statement.heightWith : Statement → Nat
  | .declare _ value => value.heightWith toll
  | .expr value => value.heightWith toll

end

/-- The height of an expression: everything but a literal or a name is one higher than its highest
part. -/
def Expr.height (expression : Expr) : Nat :=
  expression.heightWith 1

/-- The height of the expression in a statement. -/
def Statement.height (statement : Statement) : Nat :=
  statement.heightWith 1

namespace Parser

/-- The height of the highest expression that can be read with some levels left.  It is a choice
whose condition is made of a chain for each level of precedence, the innermost of which starts with
a call. -/
def tallest (toll : Nat) : Nat → Nat
  | 0 => 0
  | levels + 1 => tallest toll levels + 1 + BinaryOp.precedences * (toll * (levels + 1)) + toll

/-- The height of the highest operand that can be read with some levels left. -/
def tallestOperand (toll : Nat) : Nat → Nat
  | 0 => 0
  | levels + 1 => tallest toll levels + 1

section

variable (toll levels : Nat)

theorem tallest_eq : tallest toll levels = levels + (3 * levels ^ 2 + 4 * levels) * toll := by
  induction levels with
  | zero => simp [tallest]
  | succ levels ih =>
      rw [tallest, ih, BinaryOp.precedences]
      ring

theorem tallest_lt_succ : tallest toll levels < tallest toll (levels + 1) := by
  rw [tallest]
  omega

theorem tallestOperand_lt_succ :
    tallestOperand toll levels < tallestOperand toll (levels + 1) := by
  cases levels with
  | zero => exact Nat.succ_pos _
  | succ levels => exact Nat.succ_lt_succ (tallest_lt_succ toll levels)

theorem chains_le_tallest :
    tallestOperand toll levels + BinaryOp.precedences * (toll * levels) ≤ tallest toll levels := by
  cases levels with
  | zero => exact le_rfl
  | succ levels => exact Nat.le_add_right _ _

end

/-- With some levels left a parser reads nothing higher than the bound for them, and it gives back
the levels that it takes. -/
def ReadsWithin {Result : Type} (height : Result → Nat) (parser : Parser Result)
    (bound : Nat → Nat) : Prop :=
  ∀ ⦃cursor result after⦄, parser cursor = .ok (result, after) →
    ∀ ⦃levels⦄, maxDepth ≤ cursor.depth + levels →
      after.depth = cursor.depth ∧ height result ≤ bound levels

/-- A token that is passed over takes no level. -/
theorem behindToken_readsWithin {Result : Type} {height : Result → Nat} {parser : Parser Result}
    {bound : Nat → Nat} (within : ReadsWithin height parser bound) :
    ReadsWithin height (fun cursor => parser cursor.advance) bound :=
  fun cursor result after read levels enough =>
    @within cursor.advance result after read levels enough

/-- Whoever takes a level had one left. -/
theorem exists_of_descend {cursor below : Cursor} {levels : Nat}
    (descended : cursor.descend = .ok below) (enough : maxDepth ≤ cursor.depth + levels) :
    ∃ fewer, levels = fewer + 1 ∧ below.depth = cursor.depth + 1 ∧
      maxDepth ≤ below.depth + fewer := by
  rw [Cursor.descend] at descended
  split at descended
  · cases descended
  next within =>
    cases descended
    exact ⟨levels - 1, by omega, rfl, by dsimp only; omega⟩

theorem expect_eq_ok {symbol : Symbol} {refusal : Option Token → SyntaxError}
    {cursor after : Cursor} (expected : expect symbol refusal cursor = .ok after) :
    after.depth = cursor.depth := by
  rw [expect] at expected
  split at expected
  · cases expected
    rfl
  · cases expected

/-! ## Chains of operators -/

section

variable {toll : Nat} {operand : Parser Expr} {bound : Nat → Nat}

/-- Every operator of a chain makes its left operand higher and takes a level.  The right operands
do not count, because with fewer levels left they are lower than the first one may be. -/
theorem chainAfter_height_le (operandWithin : ReadsWithin (Expr.heightWith toll) operand bound)
    (increasing : ∀ levels, bound levels < bound (levels + 1))
    {level limit taken left cursor result after}
    (chained : chainAfter operand level limit taken left cursor = .ok (result, after))
    {most levels : Nat} (enough : maxDepth ≤ cursor.depth + levels) (low : bound levels ≤ most)
    (leftLow : left.heightWith toll ≤ most) (taken_le : taken ≤ cursor.depth) :
    after.depth + taken = cursor.depth ∧ result.heightWith toll ≤ most + toll * levels := by
  induction limit generalizing taken left cursor most levels with
  | zero =>
      cases chained
      exact ⟨Nat.sub_add_cancel taken_le, Nat.le_add_right_of_le leftLow⟩
  | succ limit ih =>
      rw [chainAfter] at chained
      split at chained
      · cases chained
        exact ⟨Nat.sub_add_cancel taken_le, Nat.le_add_right_of_le leftLow⟩
      next op found =>
        obtain ⟨below, descended, chained⟩ := exists_of_bind_eq_ok chained
        obtain ⟨⟨right, next⟩, read, chained⟩ := exists_of_bind_eq_ok chained
        obtain ⟨fewer, rfl, below_eq, enoughBelow⟩ := exists_of_descend descended enough
        have below_eq : below.depth = cursor.depth + 1 := below_eq
        obtain ⟨next_eq, rightLow⟩ := operandWithin read enoughBelow
        have lower := increasing fewer
        have higher : (Expr.binary op left right).heightWith toll ≤ most + toll := by
          rw [Expr.heightWith]
          omega
        obtain ⟨after_eq, resultLow⟩ :=
          ih chained (next_eq ▸ enoughBelow) (by omega) higher (by omega)
        refine ⟨by omega, ?_⟩
        rw [Nat.mul_succ]
        omega

theorem chain_readsWithin (operandWithin : ReadsWithin (Expr.heightWith toll) operand bound)
    (increasing : ∀ levels, bound levels < bound (levels + 1)) (level : Nat) :
    ReadsWithin (Expr.heightWith toll) (chain operand level)
      fun levels => bound levels + toll * levels := by
  intro cursor result after chained levels enough
  obtain ⟨⟨left, next⟩, read, chained⟩ := exists_of_bind_eq_ok chained
  obtain ⟨next_eq, leftLow⟩ := operandWithin read enough
  obtain ⟨after_eq, resultLow⟩ := chainAfter_height_le operandWithin increasing chained
    (next_eq ▸ enough) le_rfl leftLow (Nat.zero_le _)
  exact ⟨after_eq.trans next_eq, resultLow⟩

/-- Chains of several levels of precedence are put on top of each other. -/
theorem binary_readsWithin (operandWithin : ReadsWithin (Expr.heightWith toll) operand bound)
    (increasing : ∀ levels, bound levels < bound (levels + 1)) (precedences level : Nat) :
    ReadsWithin (Expr.heightWith toll) (binary operand precedences level)
      fun levels => bound levels + precedences * (toll * levels) := by
  induction precedences generalizing level with
  | zero =>
      simp only [Nat.zero_mul]
      exact operandWithin
  | succ precedences ih =>
      simp only [Nat.succ_mul, ← Nat.add_assoc]
      refine chain_readsWithin (ih (level + 1)) (fun levels => ?_) level
      exact Nat.add_lt_add_of_lt_of_le (increasing levels)
        (Nat.mul_le_mul_left _ (Nat.mul_le_mul_left _ (Nat.le_succ _)))

end

/-! ## Operands -/

section

variable {toll : Nat} {inner : Parser Expr}
  (innerWithin : ReadsWithin (Expr.heightWith toll) inner (tallest toll))

include innerWithin

theorem argumentsAfter_height_le {limit cursor values after levels}
    (read : argumentsAfter inner limit cursor = .ok (values, after))
    (enough : maxDepth ≤ cursor.depth + levels) :
    after.depth = cursor.depth ∧ argumentsHeight toll values ≤ tallest toll levels := by
  induction limit generalizing cursor values with
  | zero =>
      cases read
      exact ⟨rfl, Nat.zero_le _⟩
  | succ limit ih =>
      rw [argumentsAfter] at read
      split at read
      · obtain ⟨⟨value, next⟩, first, read⟩ := exists_of_bind_eq_ok read
        obtain ⟨⟨others, last⟩, rest, read⟩ := exists_of_bind_eq_ok read
        cases read
        obtain ⟨next_eq, valueLow⟩ := innerWithin first enough
        obtain ⟨last_eq, othersLow⟩ := ih rest (next_eq ▸ enough)
        exact ⟨last_eq.trans next_eq, Nat.max_le.mpr ⟨valueLow, othersLow⟩⟩
      · cases read
        exact ⟨rfl, Nat.zero_le _⟩

theorem arguments_readsWithin :
    ReadsWithin (argumentsHeight toll) (arguments inner) (tallest toll) := by
  intro cursor values after read levels enough
  rw [arguments] at read
  split at read
  · cases read
    exact ⟨rfl, Nat.zero_le _⟩
  · obtain ⟨⟨value, next⟩, first, read⟩ := exists_of_bind_eq_ok read
    obtain ⟨⟨others, last⟩, rest, read⟩ := exists_of_bind_eq_ok read
    cases read
    obtain ⟨next_eq, valueLow⟩ := innerWithin first enough
    obtain ⟨last_eq, othersLow⟩ := argumentsAfter_height_le innerWithin rest (next_eq ▸ enough)
    exact ⟨last_eq.trans next_eq, Nat.max_le.mpr ⟨valueLow, othersLow⟩⟩

theorem interpolation_height_le {depth code value levels}
    (read : interpolation inner depth code = .ok value) (enough : maxDepth ≤ depth + levels) :
    value.heightWith toll ≤ tallest toll levels := by
  obtain ⟨tokens, -, read⟩ := exists_of_bind_eq_ok read
  obtain ⟨⟨other, next⟩, first, read⟩ := exists_of_bind_eq_ok read
  obtain ⟨-, low⟩ := innerWithin first enough
  dsimp only at read
  split at read <;> cases read
  exact low

theorem templateParts_height_le {depth pieces parts levels}
    (read : templateParts inner depth pieces = .ok parts) (enough : maxDepth ≤ depth + levels) :
    partsHeight toll parts ≤ tallest toll levels := by
  induction pieces generalizing parts with
  | nil =>
      cases read
      exact Nat.zero_le _
  | cons piece pieces ih =>
      cases piece with
      | text text =>
          obtain ⟨others, rest, read⟩ := exists_of_bind_eq_ok read
          cases read
          exact Nat.max_le.mpr ⟨Nat.zero_le _, ih rest⟩
      | source code =>
          obtain ⟨value, first, read⟩ := exists_of_bind_eq_ok read
          obtain ⟨others, rest, read⟩ := exists_of_bind_eq_ok read
          cases read
          exact Nat.max_le.mpr ⟨interpolation_height_le innerWithin first enough, ih rest⟩

theorem template_readsWithin (pieces : List TemplatePiece) :
    ReadsWithin (Expr.heightWith toll) (template inner pieces) (tallestOperand toll) := by
  intro cursor result after read levels enough
  obtain ⟨below, descended, read⟩ := exists_of_bind_eq_ok read
  obtain ⟨parts, partsRead, read⟩ := exists_of_bind_eq_ok read
  obtain ⟨fewer, rfl, below_eq, enoughBelow⟩ := exists_of_descend descended enough
  have low := templateParts_height_le innerWithin partsRead enoughBelow
  cases read
  exact ⟨Nat.sub_eq_of_eq_add below_eq, Nat.succ_le_succ low⟩

theorem parenthesized_readsWithin :
    ReadsWithin (Expr.heightWith toll) (parenthesized inner) (tallestOperand toll) := by
  intro cursor result after read levels enough
  obtain ⟨below, descended, read⟩ := exists_of_bind_eq_ok read
  obtain ⟨⟨value, next⟩, first, read⟩ := exists_of_bind_eq_ok read
  obtain ⟨closed, expected, read⟩ := exists_of_bind_eq_ok read
  obtain ⟨fewer, rfl, below_eq, enoughBelow⟩ := exists_of_descend descended enough
  obtain ⟨next_eq, low⟩ := innerWithin first enoughBelow
  have closed_eq := (expect_eq_ok expected).trans (next_eq.trans below_eq)
  cases read
  exact ⟨Nat.sub_eq_of_eq_add closed_eq, Nat.le_succ_of_le low⟩

theorem call_readsWithin (function : String) :
    ReadsWithin (Expr.heightWith toll) (call inner function) (tallestOperand toll) := by
  intro cursor result after read levels enough
  obtain ⟨below, descended, read⟩ := exists_of_bind_eq_ok read
  obtain ⟨⟨values, next⟩, given, read⟩ := exists_of_bind_eq_ok read
  obtain ⟨closed, expected, read⟩ := exists_of_bind_eq_ok read
  obtain ⟨fewer, rfl, below_eq, enoughBelow⟩ := exists_of_descend descended enough
  obtain ⟨next_eq, low⟩ := arguments_readsWithin innerWithin given enoughBelow
  have closed_eq := (expect_eq_ok expected).trans (next_eq.trans below_eq)
  cases read
  exact ⟨Nat.sub_eq_of_eq_add closed_eq, Nat.succ_le_succ low⟩

theorem word_readsWithin (name : String) :
    ReadsWithin (Expr.heightWith toll) (word inner name) (tallestOperand toll) := by
  intro cursor result after read levels enough
  rw [word] at read
  split_ifs at read with true false null undefined declarator called
  · cases read
    exact ⟨rfl, Nat.zero_le _⟩
  · cases read
    exact ⟨rfl, Nat.zero_le _⟩
  · cases read
    exact ⟨rfl, Nat.zero_le _⟩
  · cases read
    exact ⟨rfl, Nat.zero_le _⟩
  · exact behindToken_readsWithin (call_readsWithin innerWithin name) read enough
  · cases read
    exact ⟨rfl, Nat.zero_le _⟩

theorem primary_readsWithin :
    ReadsWithin (Expr.heightWith toll) (primary inner) (tallestOperand toll) := by
  intro cursor result after read levels enough
  rw [primary] at read
  split at read
  · cases read
    exact ⟨rfl, Nat.zero_le _⟩
  · cases read
    exact ⟨rfl, Nat.zero_le _⟩
  · exact behindToken_readsWithin (template_readsWithin innerWithin _) read enough
  · exact behindToken_readsWithin (word_readsWithin innerWithin _) read enough
  · exact behindToken_readsWithin (parenthesized_readsWithin innerWithin) read enough
  · cases read

omit innerWithin in
/-- Unary operators are no higher than calls, because every one of them takes a level as well. -/
theorem unary_readsWithin {basic : Parser Expr}
    (basicWithin : ReadsWithin (Expr.heightWith toll) basic (tallestOperand toll)) (limit : Nat) :
    ReadsWithin (Expr.heightWith toll) (unary basic limit) (tallestOperand toll) := by
  induction limit with
  | zero => exact basicWithin
  | succ limit ih =>
      intro cursor result after read levels enough
      rw [unary] at read
      split at read
      · exact basicWithin read enough
      next op found =>
        obtain ⟨below, descended, read⟩ := exists_of_bind_eq_ok read
        obtain ⟨⟨value, next⟩, first, read⟩ := exists_of_bind_eq_ok read
        obtain ⟨fewer, rfl, below_eq, enoughBelow⟩ := exists_of_descend descended enough
        obtain ⟨next_eq, low⟩ := ih first enoughBelow
        cases read
        exact ⟨Nat.sub_eq_of_eq_add (next_eq.trans below_eq),
          (Nat.succ_le_succ low).trans (tallestOperand_lt_succ toll fewer)⟩

theorem operand_readsWithin :
    ReadsWithin (Expr.heightWith toll) (operand inner) (tallestOperand toll) :=
  fun _ _ _ read _ enough =>
    unary_readsWithin (primary_readsWithin innerWithin) _ read enough

/-! ## Whole expressions -/

theorem ternary_readsWithin :
    ReadsWithin (Expr.heightWith toll) (ternary inner) (tallest toll) := by
  intro cursor result after read levels enough
  obtain ⟨⟨condition, next⟩, first, read⟩ := exists_of_bind_eq_ok read
  obtain ⟨next_eq, low⟩ := binary_readsWithin (operand_readsWithin innerWithin)
    (tallestOperand_lt_succ toll) _ _ first enough
  dsimp only at read
  split at read
  · obtain ⟨below, descended, read⟩ := exists_of_bind_eq_ok read
    obtain ⟨⟨positive, middle⟩, second, read⟩ := exists_of_bind_eq_ok read
    obtain ⟨passed, expected, read⟩ := exists_of_bind_eq_ok read
    obtain ⟨⟨negative, last⟩, third, read⟩ := exists_of_bind_eq_ok read
    obtain ⟨fewer, rfl, below_eq, enoughBelow⟩ :=
      exists_of_descend descended (next_eq.symm ▸ enough)
    obtain ⟨middle_eq, positiveLow⟩ := innerWithin second enoughBelow
    have passed_eq := (expect_eq_ok expected).trans middle_eq
    obtain ⟨last_eq, negativeLow⟩ := innerWithin third (passed_eq.symm ▸ enoughBelow)
    have low : condition.heightWith toll ≤
        tallest toll fewer + 1 + BinaryOp.precedences * (toll * (fewer + 1)) := low
    have higher : (Expr.ternary condition positive negative).heightWith toll ≤
        tallest toll (fewer + 1) := by
      rw [Expr.heightWith, tallest]
      omega
    cases read
    exact ⟨(Nat.sub_eq_of_eq_add ((last_eq.trans passed_eq).trans below_eq)).trans next_eq, higher⟩
  · cases read
    exact ⟨next_eq, low.trans (chains_le_tallest toll levels)⟩

theorem assignment_readsWithin :
    ReadsWithin (Expr.heightWith toll) (assignment inner) (tallest toll) := by
  intro cursor result after read levels enough
  rw [assignment] at read
  split at read
  · exact ternary_readsWithin innerWithin read enough
  next name found =>
    obtain ⟨below, descended, read⟩ := exists_of_bind_eq_ok read
    obtain ⟨⟨value, next⟩, first, read⟩ := exists_of_bind_eq_ok read
    obtain ⟨fewer, rfl, below_eq, enoughBelow⟩ := exists_of_descend descended enough
    obtain ⟨next_eq, low⟩ := innerWithin first enoughBelow
    cases read
    exact ⟨Nat.sub_eq_of_eq_add (next_eq.trans below_eq),
      (Nat.succ_le_succ low).trans (tallest_lt_succ toll fewer)⟩

end

section

variable (toll : Nat)

theorem expression_readsWithin (passes : Nat) :
    ReadsWithin (Expr.heightWith toll) (expression passes) (tallest toll) := by
  induction passes with
  | zero => exact fun _ _ _ read => nomatch read
  | succ passes ih => exact assignment_readsWithin ih

theorem anyExpression_height_le {cursor result after}
    (read : anyExpression cursor = .ok (result, after)) :
    result.heightWith toll ≤ tallest toll maxDepth :=
  (expression_readsWithin toll (maxDepth + 1) read (Nat.le_add_left _ _)).2

theorem declaration_height_le {cursor result after}
    (read : declaration cursor = .ok (result, after)) :
    result.heightWith toll ≤ tallest toll maxDepth := by
  rw [declaration] at read
  split at read
  next name found =>
    split_ifs at read
    · obtain ⟨⟨value, next⟩, first, read⟩ := exists_of_bind_eq_ok read
      cases read
      exact anyExpression_height_le toll first
    · cases read
      exact Nat.zero_le _
  next => cases read

theorem statement_height_le {cursor result after}
    (read : statement cursor = .ok (result, after)) :
    result.heightWith toll ≤ tallest toll maxDepth := by
  rw [statement] at read
  split at read
  · exact declaration_height_le toll read
  · obtain ⟨⟨value, next⟩, first, read⟩ := exists_of_bind_eq_ok read
    cases read
    exact anyExpression_height_le toll first

theorem statements_height_le {limit cursor statements}
    (read : Parser.statements limit cursor = .ok statements) :
    ∀ statement ∈ statements, statement.heightWith toll ≤ tallest toll maxDepth := by
  induction limit generalizing cursor statements with
  | zero =>
      cases read
      simp
  | succ limit ih =>
      simp only [Parser.statements] at read
      split at read
      · cases read
        simp
      · obtain ⟨⟨first, next⟩, firstRead, read⟩ := exists_of_bind_eq_ok read
        dsimp only at read
        split at read
        · obtain ⟨others, othersRead, read⟩ := exists_of_bind_eq_ok read
          cases read
          exact List.forall_mem_cons.mpr ⟨statement_height_le toll firstRead, ih othersRead⟩
        · cases read

/-- No expression of a script is higher than the highest one that all levels allow. -/
theorem program_height_le {code : String} {statements : List Statement}
    (read : program code = .ok statements) :
    ∀ statement ∈ statements, statement.heightWith toll ≤ tallest toll maxDepth := by
  obtain ⟨tokens, -, read⟩ := exists_of_bind_eq_ok read
  exact statements_height_le toll read

end

end Parser
end Script
end ChatMacro
