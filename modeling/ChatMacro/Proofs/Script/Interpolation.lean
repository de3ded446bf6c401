import ChatMacro.Proofs.Script.Nesting

/-!
# Interpolated expressions

A text that is one whole expression may be interpolated in a template literal.  The literal is read
as its one interpolation if and only if nothing is open behind the text, and then the expression is
read at one level more, so it stays the same or gets too deep.
-/

namespace ChatMacro
namespace Script
namespace Parser

open Lexer (Balanced Shallow interpolate)
open Outcome (exists_of_bind_eq_ok)

/-! ## Reading template literals -/

section

variable {parser : Parser Expr} {cursor after : Cursor} {parts : List TemplatePart}

theorem template_of_chainAfter {level limit taken : Nat} {left : Expr}
    (read : chainAfter parser level limit taken left cursor = .ok (.template parts, after)) :
    left = .template parts ∧ after = cursor.ascend taken := by
  induction limit generalizing taken left cursor with
  | zero =>
      cases read
      exact ⟨rfl, rfl⟩
  | succ limit ih =>
      rw [chainAfter] at read
      split at read
      next =>
        cases read
        exact ⟨rfl, rfl⟩
      next op _ =>
        obtain ⟨below, -, read⟩ := exists_of_bind_eq_ok read
        obtain ⟨⟨right, next⟩, -, read⟩ := exists_of_bind_eq_ok read
        cases (ih read).1

theorem template_of_binary {precedences level : Nat}
    (read : binary parser precedences level cursor = .ok (.template parts, after)) :
    parser cursor = .ok (.template parts, after) := by
  induction precedences generalizing level after with
  | zero => exact read
  | succ precedences ih =>
      obtain ⟨⟨left, next⟩, first, read⟩ := exists_of_bind_eq_ok read
      obtain ⟨rfl, rfl⟩ := template_of_chainAfter read
      exact ih first

theorem template_of_unary {limit : Nat}
    (read : unary parser limit cursor = .ok (.template parts, after)) :
    parser cursor = .ok (.template parts, after) := by
  cases limit with
  | zero => exact read
  | succ limit =>
      rw [unary] at read
      split at read
      next => exact read
      next =>
        obtain ⟨below, -, read⟩ := exists_of_bind_eq_ok read
        obtain ⟨⟨value, next⟩, -, read⟩ := exists_of_bind_eq_ok read
        cases read

/-- A template literal is read as a primary expression. -/
theorem template_of_assignment
    (read : assignment parser cursor = .ok (.template parts, after)) :
    primary parser cursor = .ok (.template parts, after) := by
  rw [assignment] at read
  split at read
  next =>
    obtain ⟨⟨condition, next⟩, first, read⟩ := exists_of_bind_eq_ok read
    dsimp only at read
    split at read
    · obtain ⟨below, -, read⟩ := exists_of_bind_eq_ok read
      obtain ⟨⟨positive, middle⟩, -, read⟩ := exists_of_bind_eq_ok read
      obtain ⟨passed, -, read⟩ := exists_of_bind_eq_ok read
      obtain ⟨⟨negative, last⟩, -, read⟩ := exists_of_bind_eq_ok read
      cases read
    · cases read
      have operandRead : operand parser cursor = .ok (.template parts, after) :=
        template_of_binary first
      exact template_of_unary operandRead
  next =>
    obtain ⟨below, -, read⟩ := exists_of_bind_eq_ok read
    obtain ⟨⟨value, next⟩, -, read⟩ := exists_of_bind_eq_ok read
    cases read

end

section

variable {inner : Parser Expr} {code : String} {value : Expr} {pieces : List TemplatePiece}
  {more : List Token} {depth : Nat}

/-- The interpolation of a text is read from its tokens. -/
theorem interpolation_of_tokens {tokens : List Token}
    (lexed : Lexer.tokens code.toList = .ok tokens) (after : Nat)
    (read : inner ⟨tokens, depth⟩ = .ok (value, ⟨[], after⟩)) :
    interpolation inner depth code = .ok value := by
  rw [interpolation, lexed]
  change (inner ⟨tokens, depth⟩ >>= _) = _
  rw [read]
  rfl

theorem length_of_templateParts {parts : List TemplatePart}
    (read : templateParts inner depth pieces = .ok parts) : parts.length = pieces.length := by
  induction pieces generalizing parts with
  | nil =>
      cases read
      rfl
  | cons piece pieces ih =>
      cases piece with
      | text text =>
          obtain ⟨others, rest, read⟩ := exists_of_bind_eq_ok read
          cases read
          exact congrArg Nat.succ (ih rest)
      | source source =>
          obtain ⟨first, -, read⟩ := exists_of_bind_eq_ok read
          obtain ⟨others, rest, read⟩ := exists_of_bind_eq_ok read
          cases read
          exact congrArg Nat.succ (ih rest)

/-- Only an interpolation is read as one. -/
theorem source_of_templateParts
    (read : templateParts inner depth pieces = .ok [.expr value]) :
    ∃ source, pieces = [.source source] := by
  obtain ⟨piece, rfl⟩ := List.length_eq_one_iff.mp (length_of_templateParts read).symm
  cases piece with
  | text text => cases read
  | source source => exact ⟨source, rfl⟩

theorem semicolons_of_statements {limit : Nat} {cursor : Cursor}
    (read : statements limit cursor = .ok []) (enough : cursor.tokens.length ≤ limit) :
    ∀ token ∈ cursor.tokens, token = .symbol .semi := by
  cases limit with
  | zero =>
      rw [List.length_eq_zero_iff.mp (Nat.le_zero.mp enough)]
      exact List.forall_mem_nil _
  | succ limit =>
      simp only [statements] at read
      split at read
      next ended =>
        have dropped := List.dropWhile_eq_nil_iff.mp (List.isEmpty_iff.mp ended)
        exact fun token member => of_decide_eq_true (dropped token member)
      next =>
        obtain ⟨⟨first, next⟩, -, read⟩ := exists_of_bind_eq_ok read
        dsimp only at read
        split at read
        · obtain ⟨others, -, read⟩ := exists_of_bind_eq_ok read
          cases read
        · cases read

/-- If a script that starts with a template literal is just one interpolation in it, only semicolons
follow the literal. -/
theorem source_of_statements
    (read : statements (Token.template pieces :: more).length ⟨.template pieces :: more, 0⟩ =
      .ok [.expr (.template [.expr value])]) :
    (∃ source, pieces = [.source source]) ∧ ∀ token ∈ more, token = .symbol .semi := by
  have unskipped :
      skipSemicolons ⟨.template pieces :: more, 0⟩ = ⟨.template pieces :: more, 0⟩ := by
    simp [skipSemicolons]
  rw [List.length_cons, statements] at read
  dsimp only at read
  rw [unskipped, if_neg (by simp)] at read
  obtain ⟨⟨first, next⟩, firstRead, read⟩ := exists_of_bind_eq_ok read
  dsimp only at read
  split at read
  next =>
    obtain ⟨others, othersRead, read⟩ := exists_of_bind_eq_ok read
    cases read
    obtain ⟨⟨value, last⟩, assigned, firstRead⟩ := exists_of_bind_eq_ok firstRead
    cases firstRead
    have assigned : assignment (expression maxDepth) ⟨.template pieces :: more, 0⟩ =
        .ok (.template [.expr value], next) := assigned
    have primaryRead : template (expression maxDepth) pieces ⟨more, 0⟩ =
        .ok (.template [.expr value], next) := template_of_assignment assigned
    obtain ⟨below, descended, templateRead⟩ := exists_of_bind_eq_ok primaryRead
    obtain ⟨parts, partsRead, templateRead⟩ := exists_of_bind_eq_ok templateRead
    cases descended
    cases templateRead
    exact ⟨source_of_templateParts partsRead, semicolons_of_statements othersRead le_rfl⟩
  next => cases read

end

/-! ## Scripts of one interpolation -/

section

variable {code : String} {value : Expr}

theorem yields_template (whole : interpolation anyExpression 0 code = .ok value) :
    Yields (anyExpression ⟨[.template [.source code]], 0⟩) (.template [.expr value], ⟨[], 0⟩) := by
  have inside : Yields (interpolation (expression maxDepth) 1 code) value :=
    interpolation_deepens (expression_deepens 1 (maxDepth + 1) maxDepth) whole
  have parts : Yields (templateParts (expression maxDepth) 1 [.source code]) [.expr value] :=
    inside.bind ((yields_ok []).bind (yields_ok _))
  have basic : Yields (parserAt (expression maxDepth) 9 ⟨[.template [.source code]], 0⟩)
      (.template [.expr value], ⟨[], 0⟩) :=
    (Cursor.yields_descend [] 0).bind (parts.bind (yields_ok _))
  exact yields_parserAt_of_le (Nat.zero_le 9) le_rfl basic (fun _ => rfl) (ends_nil 0) fun _ => rfl

theorem yields_program_interpolate (whole : interpolation anyExpression 0 code = .ok value)
    (balanced : Balanced code.toList) :
    Yields (program (interpolate code)) [.expr (.template [.expr value])] := by
  rw [program, (Lexer.tokens_interpolate_iff code).mpr balanced]
  have noSemicolon : Token.template [.source code] ≠ .symbol .semi := by simp
  exact (yields_ok _).bind (yields_statements noSemicolon rfl (yields_template whole))

theorem balanced_of_program_interpolate
    (read : program (interpolate code) = .ok [.expr (.template [.expr value])]) :
    Balanced code.toList := by
  cases lexed : Lexer.tokens (interpolate code).toList with
  | error error =>
      rw [program, lexed] at read
      cases read
  | ok tokens =>
      have read : statements tokens.length ⟨tokens, 0⟩ = .ok [.expr (.template [.expr value])] := by
        rw [program, lexed] at read
        exact read
      have parted := lexed
      rw [Lexer.tokens_interpolate] at parted
      obtain ⟨⟨pieces, rest⟩, -, parted⟩ := exists_of_bind_eq_ok parted
      obtain ⟨more, -, tokens_eq⟩ := exists_of_bind_eq_ok parted
      cases tokens_eq
      obtain ⟨⟨source, rfl⟩, semicolons⟩ := source_of_statements read
      exact Lexer.balanced_of_tokens_interpolate lexed semicolons

/-- Let a text be one whole expression when it is read on its own.  The source of the interpolation
that it is written into is this text if and only if nothing is open behind it.  Then the script is
the one interpolation of this expression, or it is refused as too deep; otherwise the script is
something else.  Nothing is open behind a text whose template literals have no backquotes in their
interpolations. -/
theorem captures_source (whole : interpolation anyExpression 0 code = .ok value) :
    (Lexer.tokens (interpolate code).toList = .ok [.template [.source code]] ↔
        Balanced code.toList) ∧
      (Balanced code.toList →
        program (interpolate code) = .ok [.expr (.template [.expr value])] ∨
          program (interpolate code) = .error .tooDeep) ∧
      (program (interpolate code) = .ok [.expr (.template [.expr value])] →
        Balanced code.toList) ∧
      ∀ tokens, Lexer.tokens code.toList = .ok tokens → (∀ token ∈ tokens, Shallow token) →
        Balanced code.toList :=
  ⟨Lexer.tokens_interpolate_iff code, yields_program_interpolate whole,
    balanced_of_program_interpolate, fun _ => Lexer.balanced_of_tokens⟩

end

/-- A sum of a string and a template literal, with braces and quotes in both. -/
def quotedSum : String :=
  "'\x7d' + \x60\x7b$\x7b'\\'\x7b'\x7d\x60"

theorem captures_source_quotedSum :
    let value : Expr :=
      .binary .add (.literal (.text "\x7d"))
        (.template [.text "\x7b", .expr (.literal (.text "'\x7b"))])
    interpolation anyExpression 0 quotedSum = .ok value ∧
      (program (interpolate quotedSum) = .ok [.expr (.template [.expr value])] ∨
        program (interpolate quotedSum) = .error .tooDeep) := by
  intro value
  have lexed : Lexer.tokens quotedSum.toList =
      .ok [.string "\x7d", .symbol .plus, .template [.text "\x7b", .source "'\\'\x7b'"]] := by
    decide +kernel
  have whole : interpolation anyExpression 0 quotedSum = .ok value :=
    interpolation_of_tokens lexed 0 (by rfl)
  obtain ⟨-, captured, -, balanced⟩ := captures_source whole
  exact ⟨whole, captured (balanced _ lexed (by simp [Shallow]))⟩

/-- A template literal in an interpolation of a template literal, with a closing brace in it. -/
def nestedBrace : String :=
  "\x60$\x7b\x60\x7d\x60\x7d\x60"

theorem not_captured_nestedBrace :
    interpolation anyExpression 0 nestedBrace = .ok (.template [.expr (.template [.text "\x7d"])]) ∧
      program (interpolate nestedBrace) = .error (.parsing (.unexpectedCharacter '\x7d')) := by
  have lexed : Lexer.tokens nestedBrace.toList = .ok [.template [.source "\x60\x7d\x60"]] := by
    decide +kernel
  have refused : Lexer.tokens (interpolate nestedBrace).toList =
      .error (.unexpectedCharacter '\x7d') := by
    decide +kernel
  refine ⟨interpolation_of_tokens lexed 0 (by rfl), ?_⟩
  rw [program, refused]
  rfl

end Parser
end Script
end ChatMacro
