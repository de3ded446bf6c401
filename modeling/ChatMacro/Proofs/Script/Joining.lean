import ChatMacro.Proofs.Script.Depth
import ChatMacro.Proofs.Script.Lookahead
import ChatMacro.Proofs.Script.Separation

/-!
# Scripts with semicolons between them

A statement gives back the levels that it takes and does not look behind its semicolon.  So scripts
with semicolons between them are one script, which has the statements of each.
-/

namespace ChatMacro
namespace Script
namespace Parser

open Outcome (exists_of_bind_eq_ok bind_eq_ok)

variable (more : List Token)

/-! ## Single statements -/

theorem anyExpression_before {cursor after : Cursor} {value : Expr}
    (read : anyExpression cursor = .ok (value, after)) :
    after.depth = cursor.depth ∧ after.tokens.length < cursor.tokens.length ∧
      anyExpression (cursor.before more) = .ok (value, after.before more) :=
  ⟨(expression_deepens 0 _ 0 read).1, expression_consumes _ read⟩

theorem declaration_before {cursor after : Cursor} {result : Statement}
    (read : declaration cursor = .ok (result, after)) :
    after.depth = cursor.depth ∧ after.tokens.length < cursor.tokens.length ∧
      declaration (cursor.before more) = .ok (result, after.before more) := by
  cases found : cursor.next? with
  | none =>
      rw [declaration, found] at read
      cases read
  | some token =>
      obtain ⟨advanced, length_eq⟩ := Cursor.advance_before more found
      rw [declaration, found] at read
      rw [declaration, Cursor.next?_before more found, advanced]
      split at read
      next name same =>
        cases same
        split at read
        next => cases read
        next noKeyword =>
          have meets_eq :
              (cursor.advance.before more).meets .assign = cursor.advance.meets .assign :=
            Cursor.meets_before more (by decide)
          dsimp only
          rw [if_neg noKeyword, meets_eq]
          split at read
          next met =>
            obtain ⟨⟨value, next⟩, first, read⟩ := exists_of_bind_eq_ok read
            obtain ⟨passed, passed_eq⟩ :=
              Cursor.advance_before more (Cursor.next?_of_meets met)
            obtain ⟨depth_eq, next_lt, reads⟩ := anyExpression_before more first
            cases read
            refine ⟨depth_eq, by omega, ?_⟩
            rw [if_pos met, passed]
            exact bind_eq_ok reads rfl
          next absent =>
            cases read
            refine ⟨rfl, by omega, ?_⟩
            rw [if_neg absent]
            rfl
      next => cases read

theorem startsDeclaration_before (cursor : Cursor) :
    startsDeclaration (cursor.before more) = startsDeclaration cursor := by
  obtain ⟨_ | ⟨first, tokens⟩, depth⟩ := cursor <;> rfl

/-- A statement gives its levels back, takes a token, and does not look behind a semicolon. -/
theorem statement_before {cursor after : Cursor} {result : Statement}
    (read : statement cursor = .ok (result, after)) :
    after.depth = cursor.depth ∧ after.tokens.length < cursor.tokens.length ∧
      statement (cursor.before more) = .ok (result, after.before more) := by
  rw [statement] at read ⊢
  rw [startsDeclaration_before]
  split at read
  next starts =>
    cases found : cursor.next? with
    | none => simp [startsDeclaration, found] at starts
    | some token =>
        obtain ⟨advanced, length_eq⟩ := Cursor.advance_before more found
        obtain ⟨depth_eq, after_lt, reads⟩ := declaration_before more read
        refine ⟨depth_eq, by omega, ?_⟩
        rw [if_pos starts, advanced]
        exact reads
  next absent =>
    obtain ⟨⟨value, next⟩, first, read⟩ := exists_of_bind_eq_ok read
    obtain ⟨depth_eq, next_lt, reads⟩ := anyExpression_before more first
    cases read
    refine ⟨depth_eq, next_lt, ?_⟩
    rw [if_neg absent]
    exact bind_eq_ok reads rfl

/-- Behind a statement there are fewer tokens at the same depth. -/
theorem after_of_statement {tokens : List Token} {depth : Nat} {result : Statement} {after : Cursor}
    (read : statement ⟨tokens, depth⟩ = .ok (result, after)) :
    after = ⟨after.tokens, depth⟩ ∧ after.tokens.length < tokens.length := by
  obtain ⟨depth_eq, after_lt, -⟩ := statement_before [] read
  exact ⟨congrArg (Cursor.mk after.tokens) depth_eq, after_lt⟩

theorem ends_before {cursor : Cursor}
    (ends : (cursor.meets .semi || cursor.tokens.isEmpty) = true) :
    ((cursor.before more).meets .semi || (cursor.before more).tokens.isEmpty) = true := by
  obtain ⟨_ | ⟨first, tokens⟩, depth⟩ := cursor
  · rfl
  · exact ends

/-! ## Statements one after the other -/

/-- Whether a token is a semicolon. -/
def isSemicolon (token : Token) : Bool :=
  token = .symbol .semi

/-- Tokens are parsed at a depth into statements one by one. -/
inductive Stated (depth : Nat) : List Token → List Statement → Prop where
  | ended {tokens : List Token} (semicolons : tokens.dropWhile isSemicolon = []) :
      Stated depth tokens []
  | next {tokens tail : List Token} {token : Token} {first : Statement} {after : Cursor}
      {others : List Statement} (starts : tokens.dropWhile isSemicolon = token :: tail)
      (read : statement ⟨token :: tail, depth⟩ = .ok (first, after))
      (ends : (after.meets .semi || after.tokens.isEmpty) = true)
      (later : Stated depth after.tokens others) : Stated depth tokens (first :: others)

section

variable {depth : Nat} {tokens : List Token} {results : List Statement}

theorem statements_of_nil (ended : tokens.dropWhile isSemicolon = []) (limit : Nat) :
    statements limit ⟨tokens, depth⟩ = .ok [] := by
  have skipped : skipSemicolons ⟨tokens, depth⟩ = ⟨[], depth⟩ := congrArg (Cursor.mk · depth) ended
  cases limit with
  | zero => rfl
  | succ limit =>
      rw [statements, skipped]
      rfl

theorem statements_of_cons {token : Token} {tail : List Token}
    (starts : tokens.dropWhile isSemicolon = token :: tail) (limit : Nat) :
    statements (limit + 1) ⟨tokens, depth⟩ = (do
      let (first, after) ← statement ⟨token :: tail, depth⟩
      if after.meets .semi || after.tokens.isEmpty then
        let others ← statements limit after
        return first :: others
      else
        .error (.parsing (.expectedSemicolon after.next?))) := by
  have skipped : skipSemicolons ⟨tokens, depth⟩ = ⟨token :: tail, depth⟩ :=
    congrArg (Cursor.mk · depth) starts
  rw [statements, skipped]
  rfl

/-- As many statements as there are tokens are enough, since a statement takes a token. -/
theorem statements_eq_ok_iff {limit : Nat} (enough : tokens.length ≤ limit) :
    statements limit ⟨tokens, depth⟩ = .ok results ↔ Stated depth tokens results := by
  constructor
  · intro read
    induction limit generalizing tokens results with
    | zero =>
        obtain rfl := List.length_eq_zero_iff.mp (Nat.le_zero.mp enough)
        cases read
        exact .ended rfl
    | succ limit ih =>
        have shorter := (List.length_dropWhile_le isSemicolon tokens).trans enough
        cases starts : tokens.dropWhile isSemicolon with
        | nil =>
            rw [statements_of_nil starts] at read
            cases read
            exact .ended starts
        | cons token tail =>
            rw [statements_of_cons starts] at read
            obtain ⟨⟨first, after⟩, taken, read⟩ := exists_of_bind_eq_ok read
            dsimp only at read
            split at read
            next ends =>
              obtain ⟨others, later, read⟩ := exists_of_bind_eq_ok read
              obtain ⟨after_eq, after_lt⟩ := after_of_statement taken
              rw [starts] at shorter
              rw [after_eq] at later
              cases read
              exact .next starts taken ends
                (ih (Nat.le_of_lt_succ (after_lt.trans_le shorter)) later)
            next => cases read
  · intro stated
    induction stated generalizing limit with
    | ended semicolons => exact statements_of_nil semicolons limit
    | @next tokens tail token first after others starts taken ends _ ih =>
        have shorter := (List.length_dropWhile_le isSemicolon tokens).trans enough
        obtain ⟨after_eq, after_lt⟩ := after_of_statement taken
        rw [starts] at shorter
        obtain ⟨limit, rfl⟩ := Nat.exists_eq_add_one.mpr (Nat.zero_lt_of_lt shorter)
        have left_le : after.tokens.length ≤ limit :=
          Nat.le_of_lt_succ (after_lt.trans_le shorter)
        have later := ih left_le
        rw [← after_eq] at later
        rw [statements_of_cons starts]
        refine bind_eq_ok taken ?_
        dsimp only
        rw [if_pos ends]
        exact bind_eq_ok later rfl

/-- Semicolons in front of the tokens do not matter. -/
theorem Stated.of_dropWhile_eq {others : List Token} (stated : Stated depth tokens results)
    (same : others.dropWhile isSemicolon = tokens.dropWhile isSemicolon) :
    Stated depth others results := by
  cases stated with
  | ended semicolons => exact .ended (same.trans semicolons)
  | next starts read ends later => exact .next (same.trans starts) read ends later

/-- The statements of some tokens and those of others are the statements of both with a semicolon
between them. -/
theorem Stated.join {more : List Token} {others : List Statement}
    (stated : Stated depth tokens results) (moreStated : Stated depth more others) :
    Stated depth (tokens ++ .symbol .semi :: more) (results ++ others) := by
  induction stated with
  | @ended tokens semicolons =>
      refine moreStated.of_dropWhile_eq ?_
      rw [List.dropWhile_append, semicolons]
      rfl
  | @next tokens tail token first after results starts read ends later ih =>
      obtain ⟨-, -, reads⟩ := statement_before more read
      have startsToo : (tokens ++ .symbol .semi :: more).dropWhile isSemicolon =
          token :: (tail ++ .symbol .semi :: more) := by
        rw [List.dropWhile_append, starts]
        rfl
      exact .next startsToo reads (ends_before more ends) ih

end

/-! ## Whole scripts -/

theorem program_eq_ok_iff {code : String} {results : List Statement} :
    program code = .ok results ↔
      ∃ tokens, Lexer.Lexed code.toList tokens ∧ Stated 0 tokens results := by
  constructor
  · intro read
    obtain ⟨tokens, lexed, stated⟩ := exists_of_bind_eq_ok read
    cases lexed_eq : Lexer.tokens code.toList with
    | error error => simp [lexed_eq, Except.mapError] at lexed
    | ok others =>
        rw [lexed_eq] at lexed
        cases lexed
        exact ⟨tokens, Lexer.tokens_eq_ok_iff.mp lexed_eq,
          (statements_eq_ok_iff (Nat.le_refl _)).mp stated⟩
  · rintro ⟨tokens, lexed, stated⟩
    rw [program, Lexer.tokens_eq_ok_iff.mpr lexed]
    exact (statements_eq_ok_iff (Nat.le_refl _)).mpr stated

/-- Two scripts with a semicolon between them have the statements of both. -/
theorem program_append {first second : String} {firsts seconds : List Statement}
    (firstRead : program first = .ok firsts) (secondRead : program second = .ok seconds) :
    program (first ++ ";" ++ second) = .ok (firsts ++ seconds) := by
  obtain ⟨tokens, lexed, stated⟩ := program_eq_ok_iff.mp firstRead
  obtain ⟨others, othersLexed, othersStated⟩ := program_eq_ok_iff.mp secondRead
  refine program_eq_ok_iff.mpr ⟨tokens ++ .symbol .semi :: others, ?_, stated.join othersStated⟩
  have joined := lexed.join othersLexed
  simpa using joined

/-- Any number of scripts with semicolons between them have the statements of all. -/
theorem program_intercalate {codes : List String} {results : List (List Statement)}
    (read : List.Forall₂ (fun code statements => program code = .ok statements) codes results) :
    program (";".intercalate codes) = .ok results.flatten := by
  induction read with
  | nil => rfl
  | @cons code statements codes results first others ih =>
      cases others with
      | nil => simpa using first
      | cons second others =>
          have joined := program_append first ih
          simpa using joined

/-- Scripts with semicolons between them do not disturb each other: a script is read behind another
as it is read alone, since every statement gives back all levels that it takes, and any number of
scripts that are accepted one by one are accepted together. -/
theorem scripts_independent :
    (∀ {first second : String} {firsts seconds : List Statement},
      program first = .ok firsts → program second = .ok seconds →
        program (first ++ ";" ++ second) = .ok (firsts ++ seconds)) ∧
    (∀ {cursor after : Cursor} {result : Statement},
      statement cursor = .ok (result, after) → after.depth = cursor.depth) ∧
    ∀ {codes : List String} {results : List (List Statement)},
      List.Forall₂ (fun code statements => program code = .ok statements) codes results →
        program (";".intercalate codes) = .ok results.flatten :=
  ⟨program_append, fun read => (statement_before [] read).1, program_intercalate⟩

/-- A declaration, nothing, and an assignment. -/
theorem scripts_independent_three :
    program (";".intercalate ["var x = (y)", "", "x = -x"]) =
      .ok [.declare "x" (.name "y"), .expr (.assign "x" (.unary .neg (.name "x")))] := by
  have declared : program "var x = (y)" = .ok [.declare "x" (.name "y")] := by
    have lexed : Lexer.tokens "var x = (y)".toList = .ok [.name "var", .name "x", .symbol .assign,
        .symbol .leftParen, .name "y", .symbol .rightParen] := by decide +kernel
    rw [program, lexed]
    rfl
  have empty : program "" = .ok [] := by rfl
  have assigned : program "x = -x" = .ok [.expr (.assign "x" (.unary .neg (.name "x")))] := by
    have lexed : Lexer.tokens "x = -x".toList =
        .ok [.name "x", .symbol .assign, .symbol .minus, .name "x"] := by decide +kernel
    rw [program, lexed]
    rfl
  exact scripts_independent.2.2 (.cons declared (.cons empty (.cons assigned .nil)))

end Parser
end Script
end ChatMacro
