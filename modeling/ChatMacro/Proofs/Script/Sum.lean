import ChatMacro.Script.Run

/-!
# Template literals as sums

A template literal is run like the sum of its parts, added from left to right to the empty text.
Both run the interpolated expressions in the same order and check the length after each part, so
they give the same text or fail at the same part, and they leave the same scope.
-/

namespace ChatMacro
namespace Script

/-- A part of a template literal as an operand. -/
def TemplatePart.operand : TemplatePart → Expr
  | .text value => .literal (.text value)
  | .expr value => value

/-- Parts of a template literal, added one by one to an expression. -/
def Expr.plus (left : Expr) (parts : List TemplatePart) : Expr :=
  parts.foldl (fun left part => .binary .add left part.operand) left

/-- The parts of a template literal, added one by one to the empty text. -/
def Expr.sum (parts : List TemplatePart) : Expr :=
  Expr.plus (.literal (.text "")) parts

/-- A template literal and a sum end alike: with the same text, or with the same error.  Only the
error for a text that is too long names what was to build it. -/
inductive EndAlike : Except Error Value → Except Error Value → Prop where
  | text (value : String) : EndAlike (.ok (.text value)) (.ok (.text value))
  | failed (error : Error) : EndAlike (.error error) (.error error)
  | tooLong : EndAlike (.error (.running (.tooLong "template literal")))
      (.error (.running (.tooLong "string concatenation")))

section

variable (outcomes : Outcomes) {scope middle : Scope}

/-- What follows a step runs on the scope that the step leaves, unless the step fails. -/
theorem Run.bind_apply {First Second : Type} (first : Run First) (next : First → Run Second)
    (scope : Scope) :
    (first >>= next) scope =
      match first scope with
      | (.ok result, scope) => next result scope
      | (.error error, scope) => (.error error, scope) := rfl

/-- The operand of a part has the text that the part adds to a template literal. -/
theorem TemplatePart.run_eq (part : TemplatePart) (scope : Scope) :
    part.run outcomes scope =
      ((part.operand.run outcomes scope).1.map Value.display,
        (part.operand.run outcomes scope).2) := by
  cases part with
  | text value => simp only [TemplatePart.run, operand, Expr.run, Run.done]; rfl
  | expr value =>
      rw [TemplatePart.run, operand, Run.bind_apply]
      rcases value.run outcomes scope with ⟨_ | result, after⟩ <;> rfl

/-- Nothing is added to an expression that fails. -/
theorem Expr.run_plus_of_error {left : Expr} {error : Error}
    (failed : left.run outcomes scope = (.error error, middle)) (parts : List TemplatePart) :
    (left.plus parts).run outcomes scope = (.error error, middle) := by
  induction parts generalizing left with
  | nil => exact failed
  | cons part parts ih =>
      apply ih
      rw [Expr.run, Run.bind_apply, failed]

/-- Adding a part to a text runs the part and checks the length of the result. -/
theorem Expr.run_add_operand {left : Expr} {text : String}
    (ran : left.run outcomes scope = (.ok (.text text), middle)) (part : TemplatePart) :
    (Expr.binary .add left part.operand).run outcomes scope =
      match part.run outcomes middle with
      | (.ok addition, after) => (Value.bounded "string concatenation" (text ++ addition), after)
      | (.error error, after) => (.error error, after) := by
  have undecided : ¬ BinaryOp.decidedBy .add (.text text) = true := Bool.false_ne_true
  rw [Expr.run, Run.bind_apply, ran, TemplatePart.run_eq]
  dsimp only
  rw [if_neg undecided, Run.bind_apply]
  rcases part.operand.run outcomes middle with ⟨_ | value, after⟩ <;> rfl

/-- The sum of a text and the parts of a template literal is run like a template literal that has
come as far as the text. -/
theorem Expr.plus_endsAlike {left : Expr} {text : String}
    (ran : left.run outcomes scope = (.ok (.text text), middle)) (parts : List TemplatePart) :
    EndAlike ((runParts outcomes text parts middle).1.map Value.text)
        ((left.plus parts).run outcomes scope).1 ∧
      (runParts outcomes text parts middle).2 = ((left.plus parts).run outcomes scope).2 := by
  induction parts generalizing left text middle with
  | nil =>
      have plus_nil : left.plus [] = left := rfl
      rw [runParts, plus_nil, ran]
      exact ⟨.text text, rfl⟩
  | cons part parts ih =>
      have plus_cons : left.plus (part :: parts) = (binary .add left part.operand).plus parts := rfl
      have added := run_add_operand outcomes ran part
      rw [runParts, Run.bind_apply, plus_cons]
      rcases partRan : part.run outcomes middle with ⟨error | addition, after⟩
      · rw [partRan] at added
        rw [run_plus_of_error outcomes added]
        exact ⟨.failed error, rfl⟩
      · rw [partRan] at added
        dsimp only at added ⊢
        rw [Run.bind_apply, Run.ofExcept, extendTemplate]
        by_cases long : maxLength < (text ++ addition).length
        · rw [Value.bounded, if_pos long] at added
          rw [if_pos long, run_plus_of_error outcomes added]
          exact ⟨.tooLong, rfl⟩
        · rw [Value.bounded, if_neg long] at added
          rw [if_neg long]
          exact ih added

/-- A template literal and the sum of its parts, grouped to the left and starting with the empty
text, end with the same text or both fail, and they leave the same scope. -/
theorem Expr.template_like_sum (parts : List TemplatePart) (scope : Scope) :
    EndAlike ((Expr.template parts).run outcomes scope).1 ((Expr.sum parts).run outcomes scope).1 ∧
      ((Expr.template parts).run outcomes scope).2 = ((Expr.sum parts).run outcomes scope).2 := by
  have ran : (Expr.literal (.text "")).run outcomes scope = (.ok (.text ""), scope) := by
    rw [Expr.run]
    rfl
  have alike := plus_endsAlike outcomes ran parts
  rw [Expr.run, Run.bind_apply]
  rcases extended : runParts outcomes "" parts scope with ⟨error | text, after⟩ <;>
    rwa [extended] at alike

end

end Script
end ChatMacro
