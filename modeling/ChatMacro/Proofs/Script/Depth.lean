import ChatMacro.Proofs.Outcome
import ChatMacro.Script.Parser
import Mathlib.Tactic.SplitIfs

/-!
# Parsing at a depth

How deep a parser stands decides only whether it goes on.  Started with more levels taken, and with
more or fewer passes through the grammar, it reads the same, or it refuses the script as too deep.
-/

namespace ChatMacro
namespace Script

open Outcome (exists_of_bind_eq_ok)

/-- An outcome is a given result, or the refusal of what is too deep. -/
def Yields {Result : Type} (outcome : Except Error Result) (result : Result) : Prop :=
  outcome = .ok result ∨ outcome = .error .tooDeep

section

variable {First Second : Type}

theorem yields_ok (result : First) : Yields (.ok result) result := .inl rfl

theorem Yields.of_eq {outcome other : Except Error First} {result : First}
    (yields : Yields outcome result) (same : other = outcome) : Yields other result :=
  same ▸ yields

/-- What goes on with a result does so unless the result is refused. -/
theorem Yields.bind_eq_or {outcome : Except Error First} {first : First}
    (yields : Yields outcome first) (next : First → Except Error Second) :
    outcome >>= next = next first ∨ outcome >>= next = .error .tooDeep := by
  rcases yields with rfl | rfl
  · exact .inl rfl
  · exact .inr rfl

theorem Yields.bind {outcome : Except Error First} {next : First → Except Error Second}
    {first : First} {second : Second} (yields : Yields outcome first)
    (continued : Yields (next first) second) : Yields (outcome >>= next) second :=
  (yields.bind_eq_or next).elim (fun same => continued.of_eq same) .inr

end

theorem Cursor.yields_descend (tokens : List Token) (depth : Nat) :
    Yields (descend ⟨tokens, depth⟩) ⟨tokens, depth + 1⟩ := by
  rw [descend]
  split
  · exact .inr rfl
  · exact .inl rfl

/-- The same place with more levels taken. -/
def Cursor.deepen (levels : Nat) (cursor : Cursor) : Cursor :=
  { cursor with depth := cursor.depth + levels }

namespace Parser

variable {levels : Nat}

/-- A parser gives back the levels that it takes, and another one, with more levels taken, reads the
same unless it gets too deep. -/
def Deepens {Result : Type} (levels : Nat) (parser other : Parser Result) : Prop :=
  ∀ ⦃cursor result after⦄, parser cursor = .ok (result, after) →
    after.depth = cursor.depth ∧
      Yields (other (cursor.deepen levels)) (result, after.deepen levels)

theorem descend_deepens (levels : Nat) {cursor below : Cursor}
    (descended : cursor.descend = .ok below) :
    below.depth = cursor.depth + 1 ∧
      Yields (cursor.deepen levels).descend (below.deepen levels) := by
  rw [Cursor.descend] at descended
  split at descended
  · cases descended
  · cases descended
    refine ⟨rfl, (Cursor.yields_descend cursor.tokens (cursor.depth + levels)).imp_left ?_⟩
    rintro deeper
    rw [Cursor.deepen, deeper, Nat.add_right_comm]
    rfl

theorem ascend_deepen {taken : Nat} {cursor : Cursor} (taken_le : taken ≤ cursor.depth) :
    (cursor.deepen levels).ascend taken = (cursor.ascend taken).deepen levels := by
  simp only [Cursor.ascend, Cursor.deepen, Cursor.mk.injEq, true_and]
  omega

theorem expect_deepens (levels : Nat) {symbol : Symbol}
    {refusal : Option Token → SyntaxError} {cursor after : Cursor}
    (expected : expect symbol refusal cursor = .ok after) :
    after.depth = cursor.depth ∧
      Yields (expect symbol refusal (cursor.deepen levels)) (after.deepen levels) := by
  rw [expect] at expected
  split at expected
  next met =>
    cases expected
    exact ⟨rfl, .inl (if_pos met)⟩
  next => cases expected

/-- A token may be passed over first. -/
theorem Deepens.advance {Result : Type} {parser other : Parser Result}
    (deepens : Deepens levels parser other) :
    Deepens levels (fun cursor => parser cursor.advance) (fun cursor => other cursor.advance) :=
  fun cursor result after read => @deepens cursor.advance result after read

/-! ## Chains of operators -/

section

variable {operand deeper : Parser Expr} (operandDeepens : Deepens levels operand deeper)

include operandDeepens

theorem chainAfter_deepens {level limit taken left cursor result after}
    (chained : chainAfter operand level limit taken left cursor = .ok (result, after))
    (taken_le : taken ≤ cursor.depth) :
    after.depth + taken = cursor.depth ∧
      Yields (chainAfter deeper level limit taken left (cursor.deepen levels))
        (result, after.deepen levels) := by
  induction limit generalizing taken left cursor with
  | zero =>
      cases chained
      refine ⟨Nat.sub_add_cancel taken_le, .inl ?_⟩
      rw [chainAfter, ascend_deepen taken_le]
  | succ limit ih =>
      rw [chainAfter] at chained
      split at chained
      next noOperator =>
        cases chained
        refine ⟨Nat.sub_add_cancel taken_le, .inl ?_⟩
        have noOperator : (cursor.deepen levels).next?.bind (BinaryOp.ofToken? level) = none :=
          noOperator
        rw [chainAfter, noOperator, ascend_deepen taken_le]
      next op found =>
        obtain ⟨below, descended, chained⟩ := exists_of_bind_eq_ok chained
        obtain ⟨⟨right, next⟩, read, chained⟩ := exists_of_bind_eq_ok chained
        obtain ⟨below_eq, descends⟩ := descend_deepens levels descended
        obtain ⟨next_eq, reads⟩ := operandDeepens read
        have below_eq : below.depth = cursor.depth + 1 := below_eq
        obtain ⟨after_eq, chains⟩ := ih chained (by omega)
        have found : (cursor.deepen levels).next?.bind (BinaryOp.ofToken? level) = some op := found
        refine ⟨by omega, ?_⟩
        rw [chainAfter, found]
        exact descends.bind (reads.bind chains)

theorem chain_deepens (level : Nat) :
    Deepens levels (chain operand level) (chain deeper level) := by
  intro cursor result after chained
  obtain ⟨⟨left, next⟩, read, chained⟩ := exists_of_bind_eq_ok chained
  obtain ⟨next_eq, reads⟩ := operandDeepens read
  obtain ⟨after_eq, chains⟩ := chainAfter_deepens operandDeepens chained (Nat.zero_le _)
  exact ⟨after_eq.trans next_eq, reads.bind chains⟩

theorem binary_deepens (precedences level : Nat) :
    Deepens levels (binary operand precedences level) (binary deeper precedences level) := by
  induction precedences generalizing level with
  | zero => exact operandDeepens
  | succ precedences ih => exact chain_deepens (ih (level + 1)) level

theorem unary_deepens (limit : Nat) :
    Deepens levels (unary operand limit) (unary deeper limit) := by
  induction limit with
  | zero => exact operandDeepens
  | succ limit ih =>
      intro cursor result after read
      rw [unary] at read
      split at read
      next noOperator =>
        have noOperator : (cursor.deepen levels).next?.bind UnaryOp.ofToken? = none := noOperator
        rw [unary, noOperator]
        exact operandDeepens read
      next op found =>
        obtain ⟨below, descended, read⟩ := exists_of_bind_eq_ok read
        obtain ⟨⟨value, next⟩, first, read⟩ := exists_of_bind_eq_ok read
        obtain ⟨below_eq, descends⟩ := descend_deepens levels descended
        obtain ⟨next_eq, reads⟩ := ih first
        have below_eq : below.depth = cursor.depth + 1 := below_eq
        have found : (cursor.deepen levels).next?.bind UnaryOp.ofToken? = some op := found
        cases read
        refine ⟨Nat.sub_eq_of_eq_add (next_eq.trans below_eq), ?_⟩
        rw [unary, found, ← ascend_deepen (by omega)]
        exact descends.bind (reads.bind (yields_ok _))

end

/-! ## Operands -/

section

variable {inner deeper : Parser Expr} (innerDeepens : Deepens levels inner deeper)

include innerDeepens

theorem argumentsAfter_deepens (limit : Nat) :
    Deepens levels (argumentsAfter inner limit) (argumentsAfter deeper limit) := by
  induction limit with
  | zero =>
      intro cursor values after read
      cases read
      exact ⟨rfl, yields_ok _⟩
  | succ limit ih =>
      intro cursor values after read
      rw [argumentsAfter] at read
      split at read
      next met =>
        obtain ⟨⟨value, next⟩, first, read⟩ := exists_of_bind_eq_ok read
        obtain ⟨⟨others, last⟩, rest, read⟩ := exists_of_bind_eq_ok read
        obtain ⟨next_eq, reads⟩ := innerDeepens first
        obtain ⟨last_eq, readsOthers⟩ := ih rest
        have met : (cursor.deepen levels).meets .comma = true := met
        cases read
        refine ⟨last_eq.trans next_eq, ?_⟩
        rw [argumentsAfter, if_pos met]
        exact reads.bind (readsOthers.bind (yields_ok _))
      next notMet =>
        have notMet : ¬ (cursor.deepen levels).meets .comma = true := notMet
        cases read
        refine ⟨rfl, ?_⟩
        rw [argumentsAfter, if_neg notMet]
        exact yields_ok _

theorem arguments_deepens : Deepens levels (arguments inner) (arguments deeper) := by
  intro cursor values after read
  rw [arguments] at read
  split at read
  next met =>
    have met : (cursor.deepen levels).meets .rightParen = true := met
    cases read
    refine ⟨rfl, ?_⟩
    rw [arguments, if_pos met]
    exact yields_ok _
  next notMet =>
    obtain ⟨⟨value, next⟩, first, read⟩ := exists_of_bind_eq_ok read
    obtain ⟨⟨others, last⟩, rest, read⟩ := exists_of_bind_eq_ok read
    obtain ⟨next_eq, reads⟩ := innerDeepens first
    obtain ⟨last_eq, readsOthers⟩ := argumentsAfter_deepens innerDeepens _ rest
    have notMet : ¬ (cursor.deepen levels).meets .rightParen = true := notMet
    cases read
    refine ⟨last_eq.trans next_eq, ?_⟩
    rw [arguments, if_neg notMet]
    exact reads.bind (readsOthers.bind (yields_ok _))

theorem interpolation_deepens {depth : Nat} {code : String} {value : Expr}
    (read : interpolation inner depth code = .ok value) :
    Yields (interpolation deeper (depth + levels) code) value := by
  obtain ⟨tokens, lexed, read⟩ := exists_of_bind_eq_ok read
  obtain ⟨⟨other, next⟩, first, read⟩ := exists_of_bind_eq_ok read
  obtain ⟨-, reads⟩ := innerDeepens first
  rw [interpolation, lexed]
  refine (yields_ok tokens).bind (reads.bind ?_)
  dsimp only at read
  split at read
  next ended =>
    have ended : (next.deepen levels).next? = none := ended
    cases read
    dsimp only
    rw [ended]
    exact yields_ok _
  next => cases read

theorem templateParts_deepens {depth : Nat} {pieces : List TemplatePiece}
    {parts : List TemplatePart} (read : templateParts inner depth pieces = .ok parts) :
    Yields (templateParts deeper (depth + levels) pieces) parts := by
  induction pieces generalizing parts with
  | nil =>
      cases read
      exact yields_ok _
  | cons piece pieces ih =>
      cases piece with
      | text text =>
          obtain ⟨others, rest, read⟩ := exists_of_bind_eq_ok read
          cases read
          exact (ih rest).bind (yields_ok _)
      | source code =>
          obtain ⟨value, first, read⟩ := exists_of_bind_eq_ok read
          obtain ⟨others, rest, read⟩ := exists_of_bind_eq_ok read
          cases read
          exact (interpolation_deepens innerDeepens first).bind ((ih rest).bind (yields_ok _))

theorem template_deepens (pieces : List TemplatePiece) :
    Deepens levels (template inner pieces) (template deeper pieces) := by
  intro cursor result after read
  obtain ⟨below, descended, read⟩ := exists_of_bind_eq_ok read
  obtain ⟨parts, partsRead, read⟩ := exists_of_bind_eq_ok read
  obtain ⟨below_eq, descends⟩ := descend_deepens levels descended
  have reads := templateParts_deepens innerDeepens partsRead
  cases read
  refine ⟨Nat.sub_eq_of_eq_add below_eq, ?_⟩
  rw [← ascend_deepen (by omega)]
  exact descends.bind (reads.bind (yields_ok _))

theorem parenthesized_deepens :
    Deepens levels (parenthesized inner) (parenthesized deeper) := by
  intro cursor result after read
  obtain ⟨below, descended, read⟩ := exists_of_bind_eq_ok read
  obtain ⟨⟨value, next⟩, first, read⟩ := exists_of_bind_eq_ok read
  obtain ⟨closed, expected, read⟩ := exists_of_bind_eq_ok read
  obtain ⟨below_eq, descends⟩ := descend_deepens levels descended
  obtain ⟨next_eq, reads⟩ := innerDeepens first
  obtain ⟨closed_eq, closes⟩ := expect_deepens levels expected
  have depth_eq := closed_eq.trans (next_eq.trans below_eq)
  cases read
  refine ⟨Nat.sub_eq_of_eq_add depth_eq, ?_⟩
  rw [← ascend_deepen (by omega)]
  exact descends.bind (reads.bind (closes.bind (yields_ok _)))

theorem call_deepens (function : String) :
    Deepens levels (call inner function) (call deeper function) := by
  intro cursor result after read
  obtain ⟨below, descended, read⟩ := exists_of_bind_eq_ok read
  obtain ⟨⟨values, next⟩, given, read⟩ := exists_of_bind_eq_ok read
  obtain ⟨closed, expected, read⟩ := exists_of_bind_eq_ok read
  obtain ⟨below_eq, descends⟩ := descend_deepens levels descended
  obtain ⟨next_eq, reads⟩ := arguments_deepens innerDeepens given
  obtain ⟨closed_eq, closes⟩ := expect_deepens levels expected
  have depth_eq := closed_eq.trans (next_eq.trans below_eq)
  cases read
  refine ⟨Nat.sub_eq_of_eq_add depth_eq, ?_⟩
  rw [← ascend_deepen (by omega)]
  exact descends.bind (reads.bind (closes.bind (yields_ok _)))

theorem word_deepens (name : String) :
    Deepens levels (word inner name) (word deeper name) := by
  intro cursor result after read
  have meets_eq : (cursor.deepen levels).meets .leftParen = cursor.meets .leftParen := rfl
  rw [word] at read ⊢
  rw [meets_eq]
  split_ifs at read ⊢ with true false null undefined declarator called
  · cases read
    exact ⟨rfl, yields_ok _⟩
  · cases read
    exact ⟨rfl, yields_ok _⟩
  · cases read
    exact ⟨rfl, yields_ok _⟩
  · cases read
    exact ⟨rfl, yields_ok _⟩
  · exact (call_deepens innerDeepens name).advance read
  · cases read
    exact ⟨rfl, yields_ok _⟩

theorem primary_deepens : Deepens levels (primary inner) (primary deeper) := by
  intro cursor result after read
  have next_eq : (cursor.deepen levels).next? = cursor.next? := rfl
  rw [primary] at read ⊢
  rw [next_eq]
  split at read
  · cases read
    exact ⟨rfl, yields_ok _⟩
  · cases read
    exact ⟨rfl, yields_ok _⟩
  · exact (template_deepens innerDeepens _).advance read
  · exact (word_deepens innerDeepens _).advance read
  · exact (parenthesized_deepens innerDeepens).advance read
  · cases read

theorem operand_deepens : Deepens levels (operand inner) (operand deeper) :=
  fun _ _ _ read => unary_deepens (primary_deepens innerDeepens) _ read

/-! ## Whole expressions -/

theorem ternary_deepens : Deepens levels (ternary inner) (ternary deeper) := by
  intro cursor result after read
  obtain ⟨⟨condition, next⟩, first, read⟩ := exists_of_bind_eq_ok read
  obtain ⟨next_eq, reads⟩ := binary_deepens (operand_deepens innerDeepens) _ _ first
  dsimp only at read
  split at read
  next met =>
    obtain ⟨below, descended, read⟩ := exists_of_bind_eq_ok read
    obtain ⟨⟨positive, middle⟩, second, read⟩ := exists_of_bind_eq_ok read
    obtain ⟨passed, expected, read⟩ := exists_of_bind_eq_ok read
    obtain ⟨⟨negative, last⟩, third, read⟩ := exists_of_bind_eq_ok read
    obtain ⟨below_eq, descends⟩ := descend_deepens levels descended
    obtain ⟨middle_eq, readsPositive⟩ := innerDeepens second
    obtain ⟨passed_eq, passes⟩ := expect_deepens levels expected
    obtain ⟨last_eq, readsNegative⟩ := innerDeepens third
    have depth_eq := last_eq.trans (passed_eq.trans (middle_eq.trans below_eq))
    have met : (next.deepen levels).meets .question = true := met
    cases read
    refine ⟨(Nat.sub_eq_of_eq_add depth_eq).trans next_eq, reads.bind ?_⟩
    dsimp only
    rw [if_pos met, ← ascend_deepen (by omega)]
    exact descends.bind (readsPositive.bind
      (passes.bind (readsNegative.bind (yields_ok _))))
  next notMet =>
    have notMet : ¬ (next.deepen levels).meets .question = true := notMet
    cases read
    refine ⟨next_eq, reads.bind ?_⟩
    dsimp only
    rw [if_neg notMet]
    exact yields_ok _

theorem assignment_deepens : Deepens levels (assignment inner) (assignment deeper) := by
  intro cursor result after read
  have assigned_eq : assigned? (cursor.deepen levels) = assigned? cursor := rfl
  rw [assignment] at read ⊢
  rw [assigned_eq]
  split at read
  · exact ternary_deepens innerDeepens read
  next name found =>
    obtain ⟨below, descended, read⟩ := exists_of_bind_eq_ok read
    obtain ⟨⟨value, next⟩, first, read⟩ := exists_of_bind_eq_ok read
    obtain ⟨below_eq, descends⟩ := descend_deepens levels descended
    obtain ⟨next_eq, reads⟩ := innerDeepens first
    have depth_eq := next_eq.trans below_eq
    cases read
    refine ⟨Nat.sub_eq_of_eq_add depth_eq, ?_⟩
    rw [← ascend_deepen (by omega)]
    exact descends.bind (reads.bind (yields_ok _))

end

/-- The passes through the grammar that are left do not matter either: whoever has none left is too
deep. -/
theorem expression_deepens (levels passes otherPasses : Nat) :
    Deepens levels (expression passes) (expression otherPasses) := by
  induction otherPasses generalizing passes with
  | zero =>
      induction passes with
      | zero => exact fun _ _ _ read => nomatch read
      | succ passes ih =>
          intro cursor result after read
          exact ⟨(assignment_deepens ih read).1, .inr rfl⟩
  | succ otherPasses ih =>
      cases passes with
      | zero => exact fun _ _ _ read => nomatch read
      | succ passes => exact assignment_deepens (ih passes)

end Parser
end Script
end ChatMacro
