import ChatMacro.Proofs.Script.Lookahead
import ChatMacro.Proofs.Script.Tracking

/-!
# Levels are given back

Each rule of the grammar gives back the levels that it takes, and but for template literals, whose
tokens have been passed over, it goes on in the tokens.  All recursion takes a level, so a rule is
open at most once for each level and once before the first, whatever the tokens are.
-/

namespace ChatMacro
namespace Script

/-! ## Tokens -/

/-- At least so many tokens have been passed over, and the rest is left. -/
structure Passed (least : Nat) (tokens left : List Token) : Prop where
  /-- The rest is a part of the tokens. -/
  isSuffix : left <:+ tokens
  /-- So many are missing. -/
  length_le : left.length + least ≤ tokens.length

namespace Passed

variable {least more : Nat} {tokens middle left : List Token} {cursor : Cursor}

theorem refl (tokens : List Token) : Passed 0 tokens tokens :=
  ⟨List.suffix_refl tokens, Nat.le_refl _⟩

theorem trans (first : Passed least tokens middle) (second : Passed more middle left) :
    Passed (least + more) tokens left := by
  refine ⟨second.isSuffix.trans first.isSuffix, ?_⟩
  have first_le := first.length_le
  have second_le := second.length_le
  omega

theorem mono (passed : Passed more tokens left) (least_le : least ≤ more) :
    Passed least tokens left :=
  ⟨passed.isSuffix, Nat.le_trans (Nat.add_le_add_left least_le _) passed.length_le⟩

theorem of_next? {token : Token} (found : cursor.next? = some token) :
    Passed 1 cursor.tokens cursor.advance.tokens :=
  ⟨List.tail_suffix _, Nat.le_of_eq (Cursor.advance_before [] found).2⟩

theorem of_meets {symbol : Symbol} (met : cursor.meets symbol = true) :
    Passed 1 cursor.tokens cursor.advance.tokens :=
  of_next? (Cursor.next?_of_meets met)

theorem of_expect {symbol : Symbol} {refusal : Option Token → SyntaxError} {after : Cursor}
    (expected : Parser.expect symbol refusal cursor = .ok after) :
    after.depth = cursor.depth ∧ Passed 1 cursor.tokens after.tokens := by
  rw [Parser.expect] at expected
  split at expected
  next met =>
    cases expected
    exact ⟨rfl, of_meets met⟩
  next => cases expected

end Passed

/-- A cursor is where a parser has to leave it. -/
structure Lands (depth least : Nat) (tokens : List Token) (after : Cursor) : Prop where
  /-- All levels have been given back. -/
  depth_eq : after.depth = depth
  /-- So many tokens have been passed over. -/
  passed : Passed least tokens after.tokens

/-! ## Parsers -/

/-- How many rules may be open at a depth: each rule once for each level that is left, and `rank`
more. -/
def openRules (rank depth : Nat) : Nat :=
  rank + Rule.number * (maxDepth - depth)

section

variable {rank depth deeper : Nat}

theorem openRules_succ : openRules (rank + 1) depth = openRules rank depth + 1 :=
  Nat.add_right_comm rank 1 _

theorem openRules_le (depth_le : depth ≤ deeper) : openRules rank deeper ≤ openRules rank depth :=
  Nat.add_le_add_left (Nat.mul_le_mul_left _ (Nat.sub_le_sub_left depth_le _)) _

theorem openRules_mono {more : Nat} (rank_le : rank ≤ more) :
    openRules rank depth ≤ openRules more depth :=
  Nat.add_le_add_right rank_le _

/-- A level that is taken is enough for all rules once more. -/
theorem openRules_below (deeper_eq : deeper = depth + 1) (shallow : deeper ≤ maxDepth) :
    openRules Rule.number deeper = openRules 0 depth := by
  obtain ⟨left, left_eq⟩ : ∃ left, maxDepth = depth + 1 + left := ⟨maxDepth - (depth + 1), by omega⟩
  have shallowLeft : maxDepth - depth = left + 1 := by omega
  have deepLeft : maxDepth - deeper = left := by omega
  rw [openRules, openRules, shallowLeft, deepLeft, Nat.mul_succ, Nat.zero_add, Nat.add_comm]

/-- Whichever rules are open below a level that is taken, they count as nothing above it. -/
theorem openRules_below_le {below : Nat} (rank_le : below ≤ Rule.number)
    (deeper_eq : deeper = depth + 1) (shallow : deeper ≤ maxDepth) :
    openRules below deeper ≤ openRules rank depth :=
  calc
    openRules below deeper ≤ openRules Rule.number deeper := openRules_mono rank_le
    _ = openRules 0 depth := openRules_below deeper_eq shallow
    _ ≤ openRules rank depth := openRules_mono (Nat.zero_le _)

theorem openRules_number_le : openRules Rule.number depth ≤ Rule.number * (maxDepth + 1) := by
  rw [openRules, Nat.mul_succ, Nat.add_comm]
  exact Nat.add_le_add_right (Nat.mul_le_mul_left _ (Nat.sub_le _ _)) _

end

/-- From the depth `least` on, a parser gives back all levels that it takes and passes over so many
tokens, and opens no more than `rank` rules and those below the levels that it takes. -/
def Steady {Result : Type} (least rank passed : Nat) (watcher : Watcher Result)
    (parser : Parser Result) : Prop :=
  ∀ cursor : Cursor, least ≤ cursor.depth → cursor.depth ≤ maxDepth →
    Tracks cursor.depth cursor.depth (openRules rank cursor.depth)
      (fun result => Lands cursor.depth passed cursor.tokens result.2) (watcher cursor)
      (parser cursor)

namespace Steady

variable {Result Next : Type} {least rank passed most last : Nat} {watcher : Watcher Result}
  {parser : Parser Result}

theorem of_rule (steady : Steady least rank passed watcher parser) :
    Steady least (rank + 1) passed (fun cursor => Watched.rule (watcher cursor)) parser := by
  intro cursor deep shallow
  rw [openRules_succ]
  exact (steady cursor deep shallow).of_rule

/-- What is left behind a parser is gone on with at the same depth. -/
theorem bind (steady : Steady least rank passed watcher parser) (cursor : Cursor)
    (deep : least ≤ cursor.depth) (shallow : cursor.depth ≤ maxDepth)
    (enough : openRules rank cursor.depth ≤ most) {wanted : Next → Prop}
    {next : Result × Cursor → Watched Next} {goesOn : Result × Cursor → Except Error Next}
    (later : ∀ result after, after.depth = cursor.depth →
      Passed passed cursor.tokens after.tokens →
      Tracks after.depth last most wanted (next (result, after)) (goesOn (result, after))) :
    Tracks cursor.depth last most wanted (watcher cursor >>= next) (parser cursor >>= goesOn) := by
  refine ((steady cursor deep shallow).mono enough).bind ?_
  rintro ⟨result, after⟩ lands
  have continued := later result after lands.depth_eq lands.passed
  rwa [lands.depth_eq] at continued

end Steady

namespace Parser

/-! ## Chains of operators -/

section

variable {least rank : Nat} {watcher : Watcher Expr} {operand : Parser Expr}
  (steady : Steady least rank 1 watcher operand)

include steady

/-- A chain keeps the levels of its operators until it ends, and then gives back all of them. -/
theorem chainAfter_tracks (level : Nat) {base : Nat} (deep : least ≤ base) {limit taken : Nat}
    {left : Expr} {cursor : Cursor} (depth_eq : cursor.depth = base + taken)
    (shallow : cursor.depth ≤ maxDepth) :
    Tracks cursor.depth base (openRules rank base)
      (fun result => Lands base 0 cursor.tokens result.2)
      (Watcher.chainAfter watcher level limit taken left cursor)
      (chainAfter operand level limit taken left cursor) := by
  have lands (cursor : Cursor) (taken : Nat) (depth_eq : cursor.depth = base + taken) :
      Lands base 0 cursor.tokens (cursor.ascend taken) :=
    ⟨Nat.sub_eq_of_eq_add depth_eq, .refl _⟩
  induction limit generalizing taken left cursor with
  | zero => exact Tracks.of_finish depth_eq (lands cursor taken depth_eq)
  | succ limit ih =>
      rw [Watcher.chainAfter, chainAfter]
      cases found : cursor.next?.bind (BinaryOp.ofToken? level) with
      | none => exact Tracks.of_finish depth_eq (lands cursor taken depth_eq)
      | some op =>
          obtain ⟨token, next_eq, -⟩ := Option.bind_eq_some_iff.mp found
          have operator := Passed.of_next? next_eq
          refine Tracks.descend_bind cursor.advance fun below tokens_eq below_eq below_le => ?_
          have below_eq : below.depth = cursor.depth + 1 := below_eq
          have enough : openRules rank below.depth ≤ openRules rank base := openRules_le (by omega)
          refine steady.bind below (by omega) below_le enough fun right after after_eq read => ?_
          have after_eq : after.depth = base + (taken + 1) := by omega
          refine (ih after_eq (by omega)).weaken fun result lands => ⟨lands.depth_eq, ?_⟩
          rw [tokens_eq] at read
          exact ((operator.trans read).trans lands.passed).mono (Nat.zero_le _)

theorem chain_steady (level : Nat) :
    Steady least (rank + 1) 1 (Watcher.chain watcher level) (chain operand level) := by
  refine Steady.of_rule fun cursor deep shallow => ?_
  refine steady.bind cursor deep shallow (Nat.le_refl _) fun left after after_eq read => ?_
  have start_eq : after.depth = cursor.depth + 0 := after_eq
  refine Tracks.weaken (chainAfter_tracks steady level deep start_eq (by omega)) ?_
  exact fun result lands => ⟨lands.depth_eq, read.trans lands.passed⟩

/-- Each level of operators is a rule of its own. -/
theorem binary_steady (levels level : Nat) :
    Steady least (levels + rank) 1 (Watcher.binary watcher levels level)
      (binary operand levels level) := by
  induction levels generalizing level with
  | zero =>
      rw [Nat.zero_add]
      exact steady
  | succ levels ih =>
      rw [Nat.succ_add]
      exact chain_steady (ih (level + 1)) level

/-- However many unary operators there are, each of them takes a level before the next one. -/
theorem unary_steady (rank_lt : rank < Rule.number) (limit : Nat) :
    Steady least (rank + 1) 1 (Watcher.unary watcher limit) (unary operand limit) := by
  induction limit with
  | zero => exact steady.of_rule
  | succ limit ih =>
      refine Steady.of_rule fun cursor deep shallow => ?_
      rw [unary]
      dsimp only
      cases found : cursor.next?.bind UnaryOp.ofToken? with
      | none => exact steady cursor deep shallow
      | some op =>
          obtain ⟨token, next_eq, -⟩ := Option.bind_eq_some_iff.mp found
          have operator := Passed.of_next? next_eq
          refine Tracks.descend_bind cursor.advance fun below tokens_eq below_eq below_le => ?_
          have below_eq : below.depth = cursor.depth + 1 := below_eq
          have enough : openRules (rank + 1) below.depth ≤ openRules rank cursor.depth :=
            openRules_below_le rank_lt below_eq below_le
          refine ih.bind below (by omega) below_le enough fun value after after_eq read => ?_
          rw [tokens_eq] at read
          have returned : after.depth = cursor.depth + 1 := after_eq.trans below_eq
          refine Tracks.of_finish returned ⟨Nat.sub_eq_of_eq_add returned, ?_⟩
          exact (operator.trans read).mono (Nat.le_add_left _ _)

end

/-! ## Operands -/

section

variable {least : Nat} {watcher : Watcher Expr} {inner : Parser Expr}

section

variable (steady : Steady least Rule.number 1 watcher inner)

include steady

theorem argumentsAfter_steady (limit : Nat) :
    Steady least Rule.number 0 (Watcher.argumentsAfter watcher limit)
      (argumentsAfter inner limit) := by
  induction limit with
  | zero => exact fun cursor _ _ => Tracks.done ⟨rfl, .refl _⟩
  | succ limit ih =>
      intro cursor deep shallow
      rw [Watcher.argumentsAfter, argumentsAfter]
      by_cases met : cursor.meets .comma = true
      · rw [if_pos met, if_pos met]
        refine steady.bind cursor.advance deep shallow (Nat.le_refl _) ?_
        intro value next next_eq first
        have next_eq : next.depth = cursor.depth := next_eq
        have enough : openRules Rule.number next.depth ≤ openRules Rule.number cursor.depth :=
          openRules_le (by omega)
        refine ih.bind next (by omega) (by omega) enough fun values after after_eq rest => ?_
        have comma := Passed.of_meets met
        have depth_eq : after.depth = cursor.depth := after_eq.trans next_eq
        rw [depth_eq]
        exact Tracks.done ⟨depth_eq, ((comma.trans first).trans rest).mono (Nat.zero_le _)⟩
      · rw [if_neg met, if_neg met]
        exact Tracks.done ⟨rfl, .refl _⟩

theorem arguments_steady :
    Steady least Rule.number 0 (Watcher.arguments watcher) (arguments inner) := by
  intro cursor deep shallow
  rw [Watcher.arguments, arguments]
  by_cases met : cursor.meets .rightParen = true
  · rw [if_pos met, if_pos met]
    exact Tracks.done ⟨rfl, .refl _⟩
  · rw [if_neg met, if_neg met]
    refine steady.bind cursor deep shallow (Nat.le_refl _) fun value next next_eq first => ?_
    have enough : openRules Rule.number next.depth ≤ openRules Rule.number cursor.depth :=
      openRules_le (by omega)
    refine (argumentsAfter_steady steady next.tokens.length).bind next (by omega) (by omega) enough
      fun values after after_eq rest => ?_
    have depth_eq : after.depth = cursor.depth := after_eq.trans next_eq
    rw [depth_eq]
    exact Tracks.done ⟨depth_eq, (first.trans rest).mono (Nat.zero_le _)⟩

/-- The cursor of an interpolation starts at the depth of the template literal and ends there. -/
theorem interpolation_tracks {depth : Nat} (deep : least ≤ depth) (shallow : depth ≤ maxDepth)
    (code : String) :
    Tracks depth depth (openRules Rule.number depth) (fun _ => True)
      (Watcher.interpolation watcher depth code) (interpolation inner depth code) := by
  refine Tracks.still_bind fun tokens _ => ?_
  let cursor : Cursor := { tokens, depth }
  refine steady.bind cursor deep shallow (Nat.le_refl _) fun value after after_eq _ => ?_
  have after_eq : after.depth = depth := after_eq
  rw [after_eq]
  dsimp only
  cases after.next? with
  | none => exact Tracks.done trivial
  | some token => exact Tracks.refused _

theorem templateParts_tracks {depth : Nat} (deep : least ≤ depth) (shallow : depth ≤ maxDepth)
    (pieces : List TemplatePiece) :
    Tracks depth depth (openRules Rule.number depth) (fun _ => True)
      (Watcher.templateParts watcher depth pieces) (templateParts inner depth pieces) := by
  induction pieces with
  | nil => exact Tracks.done trivial
  | cons piece pieces ih =>
      cases piece with
      | text value => exact ih.bind fun parts _ => Tracks.done trivial
      | source code =>
          exact (interpolation_tracks steady deep shallow code).bind fun value _ =>
            ih.bind fun parts _ => Tracks.done trivial

end

/-- What stands in parentheses, the first of which lies behind the cursor, takes one level. -/
theorem enclosed_steady {Content : Type} {passed : Nat} {contentWatcher : Watcher Content}
    {content : Parser Content}
    (contentSteady : Steady (least + 1) Rule.number passed contentWatcher content)
    (refusal : Option Token → SyntaxError) (make : Content → Expr) :
    Steady least 0 0
      (fun cursor => do
        let cursor ← Watched.descend cursor
        let (value, cursor) ← contentWatcher cursor
        let cursor ← Watched.still (expect .rightParen refusal cursor)
        Watched.finish 1 (make value) cursor)
      (fun cursor => do
        let cursor ← cursor.descend
        let (value, cursor) ← content cursor
        let cursor ← expect .rightParen refusal cursor
        return (make value, cursor.ascend 1)) := by
  intro cursor deep shallow
  refine Tracks.descend_bind cursor fun below tokens_eq below_eq below_le => ?_
  refine contentSteady.bind below (by omega) below_le
    (Nat.le_of_eq (openRules_below below_eq below_le)) fun value next next_eq read => ?_
  refine Tracks.still_bind fun after expected => ?_
  obtain ⟨after_eq, closing⟩ := Passed.of_expect expected
  have depth_eq : after.depth = cursor.depth + 1 := after_eq.trans (next_eq.trans below_eq)
  rw [← after_eq]
  rw [tokens_eq] at read
  refine Tracks.of_finish depth_eq ⟨Nat.sub_eq_of_eq_add depth_eq, ?_⟩
  exact (read.trans closing).mono (Nat.zero_le _)

-- What is inside is started only below a level that has been taken.
variable (steady : Steady (least + 1) Rule.number 1 watcher inner)

include steady

/-- A template literal leaves the cursor as it is. -/
theorem template_tracks (pieces : List TemplatePiece) (cursor : Cursor)
    (deep : least ≤ cursor.depth) :
    Tracks cursor.depth cursor.depth (openRules 1 cursor.depth)
      (fun result => result.2 = cursor) (Watcher.template watcher pieces cursor)
      (template inner pieces cursor) := by
  rw [openRules_succ]
  refine Tracks.of_rule ?_
  refine Tracks.descend_bind cursor fun below tokens_eq below_eq below_le => ?_
  have parts := templateParts_tracks steady (by omega) below_le pieces
  rw [openRules_below below_eq below_le] at parts
  refine parts.bind fun parts _ => Tracks.of_finish below_eq ?_
  rw [Cursor.ascend, tokens_eq, below_eq]
  rfl

theorem template_steady (pieces : List TemplatePiece) :
    Steady least 1 0 (Watcher.template watcher pieces) (template inner pieces) := by
  intro cursor deep shallow
  refine (template_tracks steady pieces cursor deep).weaken ?_
  rintro ⟨value, after⟩ rfl
  exact ⟨rfl, .refl _⟩

theorem parenthesized_steady :
    Steady least 0 0 (Watcher.parenthesized watcher) (parenthesized inner) :=
  enclosed_steady steady .expectedParenthesis id

theorem call_steady (function : String) :
    Steady least 0 0 (Watcher.call watcher function) (call inner function) :=
  enclosed_steady (arguments_steady steady) (.expectedArgumentsEnd function) (.call function)

theorem word_steady (name : String) :
    Steady least 0 0 (Watcher.word watcher name) (word inner name) := by
  intro cursor deep shallow
  rw [Watcher.word, word]
  split_ifs with true false null undefined declarator called
  · exact Tracks.done ⟨rfl, .refl _⟩
  · exact Tracks.done ⟨rfl, .refl _⟩
  · exact Tracks.done ⟨rfl, .refl _⟩
  · exact Tracks.done ⟨rfl, .refl _⟩
  · exact Tracks.refused _
  · have opening := Passed.of_meets called
    refine (call_steady steady name cursor.advance deep shallow).weaken fun result lands => ?_
    exact ⟨lands.depth_eq, (opening.trans lands.passed).mono (Nat.zero_le _)⟩
  · exact Tracks.done ⟨rfl, .refl _⟩

theorem primary_steady : Steady least 2 1 (Watcher.primary watcher) (primary inner) := by
  refine Steady.of_rule fun cursor deep shallow => ?_
  rw [primary]
  cases found : cursor.next? with
  | none => exact Tracks.refused _
  | some token =>
      have first := Passed.of_next? found
      have behind {result : Expr × Cursor}
          (lands : Lands cursor.depth 0 cursor.advance.tokens result.2) :
          Lands cursor.depth 1 cursor.tokens result.2 :=
        ⟨lands.depth_eq, first.trans lands.passed⟩
      have deeper : openRules 0 cursor.depth ≤ openRules 1 cursor.depth :=
        openRules_mono (Nat.zero_le _)
      cases token with
      | number value => exact Tracks.done ⟨rfl, first⟩
      | string value => exact Tracks.done ⟨rfl, first⟩
      | template pieces =>
          exact (template_steady steady pieces cursor.advance deep shallow).weaken fun _ => behind
      | name name =>
          exact ((word_steady steady name cursor.advance deep shallow).mono deeper).weaken
            fun _ => behind
      | symbol symbol =>
          cases symbol with
          | leftParen =>
              exact ((parenthesized_steady steady cursor.advance deep shallow).mono deeper).weaken
                fun _ => behind
          | _ => exact Tracks.refused _

theorem operand_steady : Steady least 3 1 (Watcher.operand watcher) (operand inner) :=
  fun cursor => unary_steady (primary_steady steady) (by decide) cursor.tokens.length cursor

/-! ## Whole expressions -/

theorem ternary_steady :
    Steady least (BinaryOp.precedences + 4) 1 (Watcher.ternary watcher) (ternary inner) := by
  refine Steady.of_rule fun cursor deep shallow => ?_
  refine (binary_steady (operand_steady steady) BinaryOp.precedences 0).bind cursor deep shallow
    (Nat.le_refl _) fun condition next next_eq first => ?_
  dsimp only
  by_cases met : next.meets .question = true
  · rw [if_pos met, if_pos met]
    have question := Passed.of_meets met
    refine Tracks.descend_bind next.advance fun below tokens_eq below_eq below_le => ?_
    have below_eq : below.depth = cursor.depth + 1 := below_eq.trans (congrArg (· + 1) next_eq)
    have enough {deeper : Nat} (deeper_eq : deeper = below.depth) :
        openRules Rule.number deeper ≤ openRules (BinaryOp.precedences + 3) cursor.depth :=
      openRules_below_le (Nat.le_refl _) (deeper_eq.trans below_eq) (deeper_eq ▸ below_le)
    refine steady.bind below (by omega) below_le (enough rfl)
      fun positive middle middle_eq second => ?_
    refine Tracks.still_bind fun behind expected => ?_
    obtain ⟨behind_eq, colon⟩ := Passed.of_expect expected
    have behind_below : behind.depth = below.depth := behind_eq.trans middle_eq
    rw [← behind_eq]
    refine steady.bind behind (by omega) (by omega) (enough behind_below)
      fun negative after after_eq third => ?_
    have depth_eq : after.depth = cursor.depth + 1 :=
      after_eq.trans (behind_below.trans below_eq)
    rw [tokens_eq] at second
    refine Tracks.of_finish depth_eq ⟨Nat.sub_eq_of_eq_add depth_eq, ?_⟩
    exact ((((first.trans question).trans second).trans colon).trans third).mono (by decide)
  · rw [if_neg met, if_neg met, next_eq]
    exact Tracks.done ⟨next_eq, first⟩

theorem assignment_steady :
    Steady least Rule.number 1 (Watcher.assignment watcher) (assignment inner) := by
  refine Steady.of_rule fun cursor deep shallow => ?_
  rw [assignment]
  cases found : assigned? cursor with
  | none => exact ternary_steady steady cursor deep shallow
  | some name =>
      obtain ⟨tokens, tokens_eq⟩ := eq_of_assigned? found
      have first : Passed 1 cursor.tokens cursor.advance.tokens :=
        .of_next? (by rw [Cursor.next?, tokens_eq]; rfl)
      have second : Passed 1 cursor.advance.tokens cursor.advance.advance.tokens :=
        .of_next? (by rw [Cursor.next?, Cursor.advance, tokens_eq]; rfl)
      refine Tracks.descend_bind cursor.advance.advance
        fun below below_tokens below_eq below_le => ?_
      have below_eq : below.depth = cursor.depth + 1 := below_eq
      have enough : openRules Rule.number below.depth ≤
          openRules (BinaryOp.precedences + 4) cursor.depth :=
        openRules_below_le (Nat.le_refl _) below_eq below_le
      refine steady.bind below (by omega) below_le enough fun value after after_eq read => ?_
      have depth_eq : after.depth = cursor.depth + 1 := after_eq.trans below_eq
      rw [below_tokens] at read
      refine Tracks.of_finish depth_eq ⟨Nat.sub_eq_of_eq_add depth_eq, ?_⟩
      exact ((first.trans second).trans read).mono (by decide)

end

/-- It does not matter how many passes through the grammar there are, as long as one is left for
each level and one more. -/
theorem expression_steady {least passes others : Nat} (enough : maxDepth < least + passes)
    (othersEnough : maxDepth < least + others) :
    Steady least Rule.number 1 (Watcher.expression passes) (expression others) := by
  -- One pass is used up for each level; without any the depth would be beyond the greatest one.
  induction passes generalizing least others with
  | zero => exact fun cursor deep shallow => absurd shallow (by omega)
  | succ passes ih =>
      cases others with
      | zero => exact fun cursor deep shallow => absurd shallow (by omega)
      | succ others => exact assignment_steady (ih (by omega) (by omega))

end Parser

/-! ## Rules -/

namespace Rule

/-- How many rules there are from a rule on to the next level, itself included. -/
def rank : Rule → Nat
  | assignment => number
  | ternary => BinaryOp.precedences + 4
  | chain level => BinaryOp.precedences - level + 3
  | unary => 3
  | primary => 2
  | template _ => 1

theorem rank_le : (rule : Rule) → rule.rank ≤ number
  | assignment => Nat.le_refl _
  | ternary => by decide
  | chain level => by
      rw [rank, number]
      omega
  | unary => by decide
  | primary => by decide
  | template _ => Nat.le_add_left 1 (BinaryOp.precedences + 4)

/-- Where a rule leaves the cursor. -/
def Leaves (cursor after : Cursor) : Rule → Prop
  | template _ => after = cursor
  | _ => Lands cursor.depth 1 cursor.tokens after

theorem tracks (rule : Rule) (cursor : Cursor) {watcher : Watcher Expr} {inner : Parser Expr}
    (steady : Steady (cursor.depth + 1) number 1 watcher inner)
    (shallow : cursor.depth ≤ maxDepth) :
    Tracks cursor.depth cursor.depth (openRules rule.rank cursor.depth)
      (fun result => rule.Leaves cursor result.2) (rule.watcher watcher cursor)
      (rule.parser inner cursor) := by
  have here : cursor.depth ≤ cursor.depth := Nat.le_refl _
  cases rule with
  | assignment => exact Parser.assignment_steady steady cursor here shallow
  | ternary => exact Parser.ternary_steady steady cursor here shallow
  | chain level =>
      exact Parser.binary_steady (Parser.operand_steady steady) _ _ cursor here shallow
  | unary => exact Parser.operand_steady steady cursor here shallow
  | primary => exact Parser.primary_steady steady cursor here shallow
  | template pieces => exact Parser.template_tracks steady pieces cursor here

theorem exists_further {rule : Rule} {tokens : List Token} {position depth : Nat} {after : Cursor}
    (inside : position ≤ tokens.length) (leaves : rule.Leaves ⟨tokens.drop position, depth⟩ after) :
    ∃ further, after = ⟨tokens.drop further, depth⟩ ∧ further ≤ tokens.length ∧
      rule.Moves position further := by
  have ahead (lands : Lands depth 1 (tokens.drop position) after) :
      ∃ further, after = ⟨tokens.drop further, depth⟩ ∧ further ≤ tokens.length ∧
        position < further := by
    obtain ⟨left, _⟩ := after
    obtain ⟨rfl, isSuffix, length_le⟩ := lands
    have left_eq := List.suffix_iff_eq_drop.mp (isSuffix.trans (List.drop_suffix position tokens))
    have left_le : left.length + 1 ≤ tokens.length - position := by
      rwa [List.length_drop] at length_le
    exact ⟨tokens.length - left.length, by rw [← left_eq], Nat.sub_le _ _, by omega⟩
  cases rule with
  | template pieces => exact ⟨position, leaves, inside, rfl⟩
  | _ => exact ahead leaves

/-- The run of a rule, watched. -/
def watched (passes : Nat) (rule : Rule) (cursor : Cursor) : Watched (Expr × Cursor) :=
  rule.watcher (Watcher.expression passes) cursor

/-- Each rule of the grammar, started at a position and a depth, refuses the tokens or ends at the
same depth and further on; only a template literal, whose token has been passed over, ends where it
starts.  At every moment of a run, also of one that ends with an error, no more levels have been
given back than were taken, and the counter is at most the greatest depth.  The rules that are open
at the same time are bounded by a number that depends neither on the tokens nor on how many passes
through the grammar are allowed, and passes beyond the levels that are left make no difference. -/
theorem gives_levels_back (rule : Rule) (tokens : List Token) {position depth passes : Nat}
    (inside : position ≤ tokens.length) (shallow : depth ≤ maxDepth)
    (enough : maxDepth ≤ depth + passes) :
    let cursor : Cursor := ⟨tokens.drop position, depth⟩
    let run := rule.watched passes cursor
    (∀ others, maxDepth ≤ depth + others →
        rule.parser (Parser.expression others) cursor = run.outcome) ∧
      (∀ value after, run.outcome = .ok (value, after) →
        Counts depth run.moves depth ∧
          ∃ further, after = ⟨tokens.drop further, depth⟩ ∧ further ≤ tokens.length ∧
            rule.Moves position further) ∧
      (∀ made, made <+: run.moves → ∃ current ≤ maxDepth, Counts depth made current) ∧
      run.nesting ≤ number * (maxDepth + 1) := by
  intro cursor run
  have steady {others : Nat} (othersEnough : maxDepth ≤ depth + others) :
      Steady (depth + 1) number 1 (Watcher.expression passes) (Parser.expression others) :=
    Parser.expression_steady (by omega) (by omega)
  obtain ⟨outcome_eq, nesting_le, reached, counts, ends⟩ :=
    rule.tracks cursor (steady enough) shallow
  refine ⟨fun others othersEnough => ?_, fun value after ended => ?_, fun made isPrefix => ?_, ?_⟩
  -- The same watched run is followed with as many passes as one likes.
  · exact (rule.tracks cursor (steady othersEnough) shallow).outcome_eq.symm
  · obtain ⟨rfl, leaves⟩ := ends _ (outcome_eq.symm.trans ended)
    exact ⟨counts, exists_further inside leaves⟩
  · obtain ⟨current, made⟩ := counts.exists_of_isPrefix isPrefix
    exact ⟨current, made.le_maxDepth shallow, made⟩
  · calc
      run.nesting ≤ openRules rule.rank depth := nesting_le
      _ ≤ openRules number depth := openRules_mono rule.rank_le
      _ ≤ number * (maxDepth + 1) := openRules_number_le

/-- The tokens of `;-(a)*b`. -/
def product : List Token :=
  [.symbol .semi, .symbol .minus, .symbol .leftParen, .name "a", .symbol .rightParen,
    .symbol .star, .name "b"]

theorem gives_levels_back_product :
    1 ≤ product.length ∧ 62 ≤ maxDepth ∧ maxDepth ≤ 62 + maxDepth ∧
      assignment.parser (Parser.expression maxDepth) ⟨product.drop 1, 62⟩ =
        .ok (.binary .mul (.unary .neg (.name "a")) (.name "b"), ⟨[], 62⟩) ∧
      Counts 62 [.take, .take, .give 0, .give 0, .give 0, .give 0, .give 0, .give 0, .give 1,
        .give 1, .take, .give 1, .give 0, .give 0, .give 0, .give 0, .give 0] 62 := by
  have inside : 1 ≤ product.length := by decide
  have shallow : 62 ≤ maxDepth := by decide
  have enough : maxDepth ≤ 62 + maxDepth := by decide
  obtain ⟨same, ends, -, -⟩ := gives_levels_back assignment product inside shallow enough
  have ended : (assignment.watched maxDepth ⟨product.drop 1, 62⟩).outcome =
      .ok (.binary .mul (.unary .neg (.name "a")) (.name "b"), ⟨[], 62⟩) := rfl
  exact ⟨inside, shallow, enough, (same maxDepth enough).trans ended, (ends _ _ ended).1⟩

end Rule

end Script
end ChatMacro
