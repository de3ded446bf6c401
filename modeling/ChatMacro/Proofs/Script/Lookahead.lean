import ChatMacro.Proofs.Outcome
import ChatMacro.Script.Parser
import Mathlib.Tactic.SplitIfs

/-!
# Parsing in front of a semicolon

No expression goes on with a semicolon.  So what is read at the end of the tokens is read in the
same way if a semicolon and more follow, and the semicolon and the rest are left.
-/

namespace ChatMacro
namespace Script

open Outcome (exists_of_bind_eq_ok bind_eq_ok)

namespace Cursor

variable (more : List Token) {cursor : Cursor}

/-- The same place if a semicolon and more tokens follow those that are left. -/
def before (more : List Token) (cursor : Cursor) : Cursor :=
  { cursor with tokens := cursor.tokens ++ .symbol .semi :: more }

theorem next?_before {token : Token} (found : cursor.next? = some token) :
    (cursor.before more).next? = some token := by
  obtain ⟨_ | ⟨first, tokens⟩, depth⟩ := cursor
  · cases found
  · exact found

theorem advance_before {token : Token} (found : cursor.next? = some token) :
    (cursor.before more).advance = cursor.advance.before more ∧
      cursor.advance.tokens.length + 1 = cursor.tokens.length := by
  obtain ⟨_ | ⟨first, tokens⟩, depth⟩ := cursor
  · cases found
  · exact ⟨rfl, rfl⟩

/-- Whoever has no use for a semicolon does not see it. -/
theorem bind_next?_before {Result : Type} {use : Token → Option Result}
    (useless : use (.symbol .semi) = none) :
    (cursor.before more).next?.bind use = cursor.next?.bind use := by
  obtain ⟨_ | ⟨first, tokens⟩, depth⟩ := cursor
  · exact useless
  · rfl

theorem meets_before {symbol : Symbol} (other : symbol ≠ .semi) :
    (cursor.before more).meets symbol = cursor.meets symbol := by
  obtain ⟨_ | ⟨first, tokens⟩, depth⟩ := cursor
  · have apart : Token.symbol .semi ≠ .symbol symbol := fun same => other (by cases same; rfl)
    simp [meets, before, next?, apart]
  · rfl

theorem next?_of_meets {symbol : Symbol} (met : cursor.meets symbol = true) :
    cursor.next? = some (.symbol symbol) :=
  of_decide_eq_true met

theorem descend_before {below : Cursor} (descended : cursor.descend = .ok below) :
    below.tokens = cursor.tokens ∧ (cursor.before more).descend = .ok (below.before more) := by
  rw [descend] at descended
  split at descended
  next => cases descended
  next shallow =>
    cases descended
    exact ⟨rfl, if_neg shallow⟩

end Cursor

namespace Parser

/-- A parser takes at least so many tokens, and reads the same in front of a semicolon. -/
def Consumes {Result : Type} (least : Nat) (more : List Token) (parser : Parser Result) : Prop :=
  ∀ ⦃cursor result after⦄, parser cursor = .ok (result, after) →
    after.tokens.length + least ≤ cursor.tokens.length ∧
      parser (cursor.before more) = .ok (result, after.before more)

variable {more : List Token}

/-- A parser that may start behind a token takes one token more. -/
theorem Consumes.next {Result : Type} {parser : Parser Result} (consumes : Consumes 0 more parser)
    {cursor after : Cursor} {result : Result}
    (advanced : cursor.advance.tokens.length + 1 = cursor.tokens.length)
    (read : parser cursor.advance = .ok (result, after)) :
    after.tokens.length + 1 ≤ cursor.tokens.length ∧
      parser (cursor.advance.before more) = .ok (result, after.before more) := by
  obtain ⟨after_le, reads⟩ := consumes read
  exact ⟨by omega, reads⟩

theorem expect_before (more : List Token) {symbol : Symbol} {refusal : Option Token → SyntaxError}
    {cursor after : Cursor} (expected : expect symbol refusal cursor = .ok after) :
    after.tokens.length + 1 = cursor.tokens.length ∧
      expect symbol refusal (cursor.before more) = .ok (after.before more) := by
  rw [expect] at expected
  split at expected
  next met =>
    cases expected
    have found := Cursor.next?_of_meets met
    obtain ⟨advanced, length_eq⟩ := Cursor.advance_before more found
    have met : (cursor.before more).meets symbol = true :=
      decide_eq_true (Cursor.next?_before more found)
    exact ⟨length_eq, by rw [expect, if_pos met, advanced]⟩
  next => cases expected

theorem assigned?_before (cursor : Cursor) :
    assigned? (cursor.before more) = assigned? cursor := by
  obtain ⟨_ | ⟨first, _ | ⟨second, tokens⟩⟩, depth⟩ := cursor
  · rfl
  · cases first <;> rfl
  · cases first with
    | name name =>
        cases second with
        | symbol symbol => cases symbol <;> rfl
        | _ => rfl
    | _ => rfl

theorem eq_of_assigned? {cursor : Cursor} {name : String} (found : assigned? cursor = some name) :
    ∃ tokens, cursor.tokens = .name name :: .symbol .assign :: tokens := by
  rw [assigned?] at found
  split at found
  next other tokens tokens_eq =>
    split_ifs at found
    cases found
    exact ⟨tokens, tokens_eq⟩
  next => cases found

/-! ## Chains of operators -/

theorem chainAfter_of_none {operand : Parser Expr} {level : Nat} {cursor : Cursor}
    (noOperator : cursor.next?.bind (BinaryOp.ofToken? level) = none) (limit taken : Nat)
    (left : Expr) :
    chainAfter operand level limit taken left cursor = .ok (left, cursor.ascend taken) := by
  cases limit with
  | zero => rfl
  | succ limit => rw [chainAfter, noOperator]

theorem unary_of_none {operand : Parser Expr} {cursor : Cursor}
    (noOperator : cursor.next?.bind UnaryOp.ofToken? = none) (limit : Nat) :
    unary operand limit cursor = operand cursor := by
  cases limit with
  | zero => rfl
  | succ limit => rw [unary, noOperator]

section

variable {operand : Parser Expr} (consumes : Consumes 1 more operand)

include consumes

/-- A chain gets as many operands as there are tokens, which is more than enough. -/
theorem chainAfter_before {level limit other taken left cursor result after}
    (chained : chainAfter operand level limit taken left cursor = .ok (result, after))
    (enough : cursor.tokens.length ≤ limit) (otherEnough : cursor.tokens.length ≤ other) :
    after.tokens.length ≤ cursor.tokens.length ∧
      chainAfter operand level other taken left (cursor.before more) =
        .ok (result, after.before more) := by
  have before_eq {cursor : Cursor} : (cursor.before more).next?.bind (BinaryOp.ofToken? level) =
      cursor.next?.bind (BinaryOp.ofToken? level) := Cursor.bind_next?_before more rfl
  induction limit generalizing other taken left cursor with
  | zero =>
      obtain ⟨tokens, depth⟩ := cursor
      obtain rfl : tokens = [] := List.length_eq_zero_iff.mp (Nat.le_zero.mp enough)
      cases chained
      exact ⟨Nat.le_refl _, chainAfter_of_none before_eq _ _ _⟩
  | succ limit ih =>
      rw [chainAfter] at chained
      split at chained
      next noOperator =>
        cases chained
        exact ⟨Nat.le_refl _, chainAfter_of_none (before_eq.trans noOperator) _ _ _⟩
      next op found =>
        obtain ⟨below, descended, chained⟩ := exists_of_bind_eq_ok chained
        obtain ⟨⟨right, next⟩, read, chained⟩ := exists_of_bind_eq_ok chained
        obtain ⟨token, next_eq, -⟩ := Option.bind_eq_some_iff.mp found
        obtain ⟨advanced, length_eq⟩ := Cursor.advance_before more next_eq
        obtain ⟨tokens_eq, descends⟩ := Cursor.descend_before more descended
        obtain ⟨next_le, reads⟩ := consumes read
        rw [tokens_eq] at next_le
        obtain ⟨other, rfl⟩ : ∃ fewer, other = fewer + 1 := Nat.exists_eq_add_one.mpr (by omega)
        have otherLeft : next.tokens.length ≤ other := by omega
        obtain ⟨after_le, chains⟩ := ih chained (by omega) otherLeft
        refine ⟨by omega, ?_⟩
        rw [chainAfter, before_eq, found]
        dsimp only
        rw [advanced]
        exact bind_eq_ok descends (bind_eq_ok reads chains)

theorem chain_consumes (level : Nat) : Consumes 1 more (chain operand level) := by
  intro cursor result after chained
  obtain ⟨⟨left, next⟩, read, chained⟩ := exists_of_bind_eq_ok chained
  obtain ⟨next_le, reads⟩ := consumes read
  have longer : next.tokens.length ≤ (next.before more).tokens.length := by
    simp [Cursor.before]
  obtain ⟨after_le, chains⟩ := chainAfter_before consumes chained (Nat.le_refl _) longer
  exact ⟨by omega, bind_eq_ok reads chains⟩

theorem binary_consumes (precedences level : Nat) :
    Consumes 1 more (binary operand precedences level) := by
  induction precedences generalizing level with
  | zero => exact consumes
  | succ precedences ih => exact chain_consumes (ih (level + 1)) level

theorem unary_before {limit other cursor result after}
    (read : unary operand limit cursor = .ok (result, after))
    (enough : cursor.tokens.length ≤ limit) (otherEnough : cursor.tokens.length ≤ other) :
    after.tokens.length + 1 ≤ cursor.tokens.length ∧
      unary operand other (cursor.before more) = .ok (result, after.before more) := by
  have before_eq {cursor : Cursor} : (cursor.before more).next?.bind UnaryOp.ofToken? =
      cursor.next?.bind UnaryOp.ofToken? := Cursor.bind_next?_before more rfl
  induction limit generalizing other cursor result after with
  | zero =>
      have after_le := (consumes read).1
      omega
  | succ limit ih =>
      rw [unary] at read
      split at read
      next noOperator =>
        rw [unary_of_none (before_eq.trans noOperator)]
        exact consumes read
      next op found =>
        obtain ⟨below, descended, read⟩ := exists_of_bind_eq_ok read
        obtain ⟨⟨value, next⟩, first, read⟩ := exists_of_bind_eq_ok read
        obtain ⟨token, next_eq, -⟩ := Option.bind_eq_some_iff.mp found
        obtain ⟨advanced, length_eq⟩ := Cursor.advance_before more next_eq
        obtain ⟨tokens_eq, descends⟩ := Cursor.descend_before more descended
        have below_eq := congrArg List.length tokens_eq
        obtain ⟨other, rfl⟩ : ∃ fewer, other = fewer + 1 := Nat.exists_eq_add_one.mpr (by omega)
        have otherLeft : below.tokens.length ≤ other := by omega
        obtain ⟨next_le, reads⟩ := ih first (by omega) otherLeft
        cases read
        refine ⟨?_, ?_⟩
        · change next.tokens.length + 1 ≤ _
          omega
        · rw [unary, before_eq, found]
          dsimp only
          rw [advanced]
          exact bind_eq_ok descends (bind_eq_ok reads rfl)

end

/-! ## Operands -/

theorem argumentsAfter_of_absent (inner : Parser Expr) {cursor : Cursor}
    (absent : ¬ cursor.meets .comma = true) (limit : Nat) :
    argumentsAfter inner limit cursor = .ok ([], cursor) := by
  cases limit with
  | zero => rfl
  | succ limit =>
      rw [argumentsAfter, if_neg absent]
      rfl

theorem template_consumes (inner : Parser Expr) (pieces : List TemplatePiece) :
    Consumes 0 more (template inner pieces) := by
  intro cursor result after read
  obtain ⟨below, descended, read⟩ := exists_of_bind_eq_ok read
  obtain ⟨parts, partsRead, read⟩ := exists_of_bind_eq_ok read
  obtain ⟨tokens_eq, descends⟩ := Cursor.descend_before more descended
  cases read
  exact ⟨Nat.le_of_eq (congrArg List.length tokens_eq),
    bind_eq_ok descends (bind_eq_ok partsRead rfl)⟩

section

variable {inner : Parser Expr} (consumes : Consumes 1 more inner)

include consumes

theorem argumentsAfter_before {limit other cursor values after}
    (read : argumentsAfter inner limit cursor = .ok (values, after))
    (enough : cursor.tokens.length ≤ limit) (otherEnough : cursor.tokens.length ≤ other) :
    after.tokens.length ≤ cursor.tokens.length ∧
      argumentsAfter inner other (cursor.before more) = .ok (values, after.before more) := by
  have before_eq {cursor : Cursor} : (cursor.before more).meets .comma = cursor.meets .comma :=
    Cursor.meets_before more (by decide)
  induction limit generalizing other cursor values after with
  | zero =>
      cases read
      refine ⟨Nat.le_refl _, argumentsAfter_of_absent inner (fun met => ?_) other⟩
      rw [before_eq] at met
      have length_eq := (Cursor.advance_before more (Cursor.next?_of_meets met)).2
      omega
  | succ limit ih =>
      rw [argumentsAfter] at read
      split at read
      next met =>
        obtain ⟨⟨value, next⟩, first, read⟩ := exists_of_bind_eq_ok read
        obtain ⟨⟨others, last⟩, rest, read⟩ := exists_of_bind_eq_ok read
        obtain ⟨advanced, length_eq⟩ :=
          Cursor.advance_before more (Cursor.next?_of_meets met)
        obtain ⟨next_le, reads⟩ := consumes first
        obtain ⟨other, rfl⟩ : ∃ fewer, other = fewer + 1 := Nat.exists_eq_add_one.mpr (by omega)
        have otherLeft : next.tokens.length ≤ other := by omega
        obtain ⟨last_le, readsOthers⟩ := ih rest (by omega) otherLeft
        cases read
        refine ⟨by omega, ?_⟩
        rw [argumentsAfter, before_eq, if_pos met, advanced]
        exact bind_eq_ok reads (bind_eq_ok readsOthers rfl)
      next absent =>
        cases read
        refine ⟨Nat.le_refl _, argumentsAfter_of_absent inner ?_ other⟩
        rw [before_eq]
        exact absent

theorem arguments_consumes : Consumes 0 more (arguments inner) := by
  intro cursor values after read
  have before_eq : (cursor.before more).meets .rightParen = cursor.meets .rightParen :=
    Cursor.meets_before more (by decide)
  rw [arguments] at read ⊢
  rw [before_eq]
  split at read
  next met =>
    cases read
    exact ⟨Nat.le_refl _, if_pos met⟩
  next absent =>
    obtain ⟨⟨value, next⟩, first, read⟩ := exists_of_bind_eq_ok read
    obtain ⟨⟨others, last⟩, rest, read⟩ := exists_of_bind_eq_ok read
    obtain ⟨next_le, reads⟩ := consumes first
    have longer : next.tokens.length ≤ (next.before more).tokens.length := by
      simp [Cursor.before]
    obtain ⟨last_le, readsOthers⟩ := argumentsAfter_before consumes rest (Nat.le_refl _) longer
    cases read
    refine ⟨by omega, ?_⟩
    rw [if_neg absent]
    exact bind_eq_ok reads (bind_eq_ok readsOthers rfl)

theorem parenthesized_consumes : Consumes 0 more (parenthesized inner) := by
  intro cursor result after read
  obtain ⟨below, descended, read⟩ := exists_of_bind_eq_ok read
  obtain ⟨⟨value, next⟩, first, read⟩ := exists_of_bind_eq_ok read
  obtain ⟨closed, expected, read⟩ := exists_of_bind_eq_ok read
  obtain ⟨tokens_eq, descends⟩ := Cursor.descend_before more descended
  obtain ⟨next_le, reads⟩ := consumes first
  obtain ⟨closed_le, closes⟩ := expect_before more expected
  rw [tokens_eq] at next_le
  cases read
  refine ⟨?_, bind_eq_ok descends (bind_eq_ok reads (bind_eq_ok closes rfl))⟩
  change closed.tokens.length + 0 ≤ _
  omega

theorem call_consumes (function : String) : Consumes 0 more (call inner function) := by
  intro cursor result after read
  obtain ⟨below, descended, read⟩ := exists_of_bind_eq_ok read
  obtain ⟨⟨values, next⟩, given, read⟩ := exists_of_bind_eq_ok read
  obtain ⟨closed, expected, read⟩ := exists_of_bind_eq_ok read
  obtain ⟨tokens_eq, descends⟩ := Cursor.descend_before more descended
  obtain ⟨next_le, reads⟩ := arguments_consumes consumes given
  obtain ⟨closed_le, closes⟩ := expect_before more expected
  rw [tokens_eq] at next_le
  cases read
  refine ⟨?_, bind_eq_ok descends (bind_eq_ok reads (bind_eq_ok closes rfl))⟩
  change closed.tokens.length + 0 ≤ _
  omega

theorem word_consumes (name : String) : Consumes 0 more (word inner name) := by
  intro cursor result after read
  have before_eq : (cursor.before more).meets .leftParen = cursor.meets .leftParen :=
    Cursor.meets_before more (by decide)
  rw [word] at read ⊢
  rw [before_eq]
  split_ifs at read ⊢ with true false null undefined declarator called
  · cases read
    exact ⟨Nat.le_refl _, rfl⟩
  · cases read
    exact ⟨Nat.le_refl _, rfl⟩
  · cases read
    exact ⟨Nat.le_refl _, rfl⟩
  · cases read
    exact ⟨Nat.le_refl _, rfl⟩
  · obtain ⟨after_le, calls⟩ := call_consumes consumes name read
    obtain ⟨advanced, length_eq⟩ :=
      Cursor.advance_before more (Cursor.next?_of_meets called)
    exact ⟨by omega, advanced ▸ calls⟩
  · cases read
    exact ⟨Nat.le_refl _, rfl⟩

theorem primary_consumes : Consumes 1 more (primary inner) := by
  intro cursor result after read
  cases found : cursor.next? with
  | none =>
      rw [primary, found] at read
      cases read
  | some token =>
      have ended := (Cursor.advance_before more found).2
      rw [primary, found] at read
      rw [primary, Cursor.next?_before more found, (Cursor.advance_before more found).1]
      split at read
      · cases read
        exact ⟨Nat.le_of_eq ended, rfl⟩
      · cases read
        exact ⟨Nat.le_of_eq ended, rfl⟩
      next pieces same =>
        cases same
        exact (template_consumes inner pieces).next ended read
      next name same =>
        cases same
        exact (word_consumes consumes name).next ended read
      next same =>
        cases same
        exact (parenthesized_consumes consumes).next ended read
      · cases read

theorem operand_consumes : Consumes 1 more (operand inner) := by
  intro cursor result after read
  have longer : cursor.tokens.length ≤ (cursor.before more).tokens.length := by
    simp [Cursor.before]
  exact unary_before (primary_consumes consumes) read (Nat.le_refl _) longer

/-! ## Whole expressions -/

theorem ternary_consumes : Consumes 1 more (ternary inner) := by
  intro cursor result after read
  obtain ⟨⟨condition, next⟩, first, read⟩ := exists_of_bind_eq_ok read
  obtain ⟨next_le, reads⟩ := binary_consumes (operand_consumes consumes) _ _ first
  have before_eq : (next.before more).meets .question = next.meets .question :=
    Cursor.meets_before more (by decide)
  dsimp only at read
  split at read
  next met =>
    obtain ⟨below, descended, read⟩ := exists_of_bind_eq_ok read
    obtain ⟨⟨positive, middle⟩, second, read⟩ := exists_of_bind_eq_ok read
    obtain ⟨passed, expected, read⟩ := exists_of_bind_eq_ok read
    obtain ⟨⟨negative, last⟩, third, read⟩ := exists_of_bind_eq_ok read
    obtain ⟨advanced, length_eq⟩ :=
      Cursor.advance_before more (Cursor.next?_of_meets met)
    obtain ⟨tokens_eq, descends⟩ := Cursor.descend_before more descended
    obtain ⟨middle_le, readsPositive⟩ := consumes second
    obtain ⟨passed_eq, passes⟩ := expect_before more expected
    obtain ⟨last_le, readsNegative⟩ := consumes third
    have passed_eq : passed.tokens.length + 1 = middle.tokens.length := passed_eq
    rw [tokens_eq] at middle_le
    cases read
    refine ⟨?_, bind_eq_ok reads ?_⟩
    · change last.tokens.length + 1 ≤ _
      omega
    · dsimp only
      rw [before_eq, if_pos met, advanced]
      exact bind_eq_ok descends (bind_eq_ok readsPositive
        (bind_eq_ok passes (bind_eq_ok readsNegative rfl)))
  next absent =>
    cases read
    refine ⟨next_le, bind_eq_ok reads ?_⟩
    dsimp only
    rw [before_eq, if_neg absent]
    rfl

theorem assignment_consumes : Consumes 1 more (assignment inner) := by
  intro cursor result after read
  rw [assignment] at read ⊢
  rw [assigned?_before]
  split at read
  · exact ternary_consumes consumes read
  next name found =>
    obtain ⟨below, descended, read⟩ := exists_of_bind_eq_ok read
    obtain ⟨⟨value, next⟩, first, read⟩ := exists_of_bind_eq_ok read
    obtain ⟨tokens, tokens_eq⟩ := eq_of_assigned? found
    obtain ⟨below_eq, descends⟩ := Cursor.descend_before more descended
    obtain ⟨next_le, reads⟩ := consumes first
    have length_eq : below.tokens.length + 2 = cursor.tokens.length := by
      rw [below_eq, Cursor.advance, Cursor.advance, tokens_eq]
      rfl
    have advanced : (cursor.before more).advance.advance = cursor.advance.advance.before more := by
      simp [Cursor.before, Cursor.advance, tokens_eq]
    cases read
    refine ⟨?_, ?_⟩
    · change next.tokens.length + 1 ≤ _
      omega
    · rw [advanced]
      exact bind_eq_ok descends (bind_eq_ok reads rfl)

end

theorem expression_consumes (levels : Nat) : Consumes 1 more (expression levels) := by
  induction levels with
  | zero => exact fun _ _ _ read => nomatch read
  | succ levels ih => exact assignment_consumes ih

end Parser
end Script
end ChatMacro
