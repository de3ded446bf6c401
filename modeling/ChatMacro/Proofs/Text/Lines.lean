import ChatMacro.Proofs.Text.Trim
import ChatMacro.Text.Lines

/-!
# Lines put together

A text that is put together from lines, each with its end, has these lines again.  Lines can be
emptied in their places, and the others stay as they are.
-/

namespace ChatMacro
namespace Text

/-! ## Parts of a text -/

theorem splitOn_eq (separator : Char) (text : List Char) :
    splitOn separator text = text.splitOn separator := by
  induction text with
  | nil => rfl
  | cons character tail ih =>
      rw [splitOn, ih, List.splitOn_cons_eq_if_modifyHead]
      cases parts_eq : tail.splitOn separator with
      | nil => exact absurd parts_eq (List.splitOn_ne_nil separator tail)
      | cons part parts => simp

/-- The first separator ends the first part. -/
theorem splitOn_append {separator : Char} {part : List Char} (free : separator ∉ part)
    (rest : List Char) :
    splitOn separator (part ++ separator :: rest) = part :: splitOn separator rest := by
  rw [splitOn_eq, splitOn_eq]
  exact List.splitOn_append_cons_self_of_not_mem free rest

theorem not_mem_of_mem_splitOn {separator : Char} {text part : List Char}
    (isPart : part ∈ splitOn separator text) : separator ∉ part := by
  induction text generalizing part with
  | nil => simp_all [splitOn]
  | cons character tail ih =>
      rw [splitOn] at isPart
      split at isPart
      next =>
        rcases List.mem_cons.mp isPart with rfl | later
        · exact List.not_mem_nil
        · exact ih later
      next different =>
        split at isPart
        next =>
          rw [List.mem_singleton.mp isPart]
          exact List.not_mem_cons_of_ne_of_not_mem (Ne.symm different) List.not_mem_nil
        next first parts split =>
          rcases List.mem_cons.mp isPart with rfl | later
          · have free : separator ∉ first := ih (split ▸ List.mem_cons_self)
            exact List.not_mem_cons_of_ne_of_not_mem (Ne.symm different) free
          · exact ih (split ▸ List.mem_cons_of_mem _ later)

/-- Parts without the separator are the parts of the text that they make up. -/
theorem splitOn_intercalate {separator : Char} {parts : List (List Char)}
    (free : ∀ part ∈ parts, separator ∉ part) (nonempty : parts ≠ []) :
    splitOn separator ([separator].intercalate parts) = parts := by
  rw [splitOn_eq]
  exact List.splitOn_intercalate separator free nonempty

/-! ## Lines with ends -/

theorem dropReturn_of_ne {line : List Char} (noReturn : line.getLast? ≠ some '\r') :
    dropReturn line = line :=
  if_neg noReturn

/-- A carriage return at the end of a line is blank. -/
theorem trim_dropReturn (line : List Char) : trim (dropReturn line) = trim line := by
  rw [dropReturn]
  split
  next ending =>
    have line_eq : line.dropLast ++ ['\r'] = line := List.dropLast_append_getLast? _ ending
    conv_rhs => rw [← line_eq]
    exact (@trim_around [] ['\r'] rfl line.dropLast rfl).symm
  next => rfl

/-- What is behind the last line feed of terminated lines is empty. -/
theorem linesOfParts_append_empty (parts : List (List Char)) :
    linesOfParts (parts ++ [[]]) = parts.map dropReturn := by
  induction parts with
  | nil => rfl
  | cons part parts ih =>
      cases parts with
      | nil => rfl
      | cons next parts => exact congrArg (dropReturn part :: ·) ih

/-- Lines with line feeds behind them are the lines of the text that they make up, less the carriage
returns at their ends. -/
theorem lines_terminated {parts : List (List Char)} (single : ∀ part ∈ parts, '\n' ∉ part) :
    lines (parts.flatMap (· ++ ['\n'])) = parts.map dropReturn := by
  have split : splitOn '\n' (parts.flatMap (· ++ ['\n'])) = parts ++ [[]] := by
    induction parts with
    | nil => rfl
    | cons part parts ih =>
        obtain ⟨free, later⟩ := List.forall_mem_cons.mp single
        rw [List.flatMap_cons, List.append_assoc, List.singleton_append, splitOn_append free,
          ih later, List.cons_append]
  rw [lines, split, linesOfParts_append_empty]

/-! ## Lines emptied -/

/-- What is left of a line that is emptied, whose carriage return may stay. -/
def emptied (returns : Bool) (line : List Char) : List Char :=
  if returns && line.getLast? = some '\r' then ['\r'] else []

/-- Parts of a text, the first of which has a given number, with those emptied whose numbers are
listed. -/
def emptyParts (returns : Bool) (numbers : List Nat) (number : Nat) :
    List (List Char) → List (List Char)
  | [] => []
  | part :: parts =>
      (if number ∈ numbers then emptied returns part else part) ::
        emptyParts returns numbers (number + 1) parts

/-- A text with the lines emptied whose numbers are listed, counted from one. -/
def emptyLines (returns : Bool) (numbers : List Nat) (text : List Char) : List Char :=
  ['\n'].intercalate (emptyParts returns numbers 1 (splitOn '\n' text))

theorem emptied_eq_or (returns : Bool) (line : List Char) :
    emptied returns line = ['\r'] ∨ emptied returns line = [] := by
  rw [emptied]
  split
  · exact .inl rfl
  · exact .inr rfl

theorem emptyParts_free {returns : Bool} {numbers : List Nat} {number : Nat}
    {parts : List (List Char)} (free : ∀ part ∈ parts, '\n' ∉ part) :
    ∀ part ∈ emptyParts returns numbers number parts, '\n' ∉ part := by
  induction parts generalizing number with
  | nil => exact free
  | cons part parts ih =>
      obtain ⟨here, later⟩ := List.forall_mem_cons.mp free
      refine List.forall_mem_cons.mpr ⟨?_, ih later⟩
      split
      · rcases emptied_eq_or returns part with left | left <;> rw [left] <;> decide
      · exact here

/-- The parts of a text with emptied lines are its parts with these emptied. -/
theorem splitOn_emptyLines (returns : Bool) (numbers : List Nat) (text : List Char) :
    splitOn '\n' (emptyLines returns numbers text) =
      emptyParts returns numbers 1 (splitOn '\n' text) := by
  refine splitOn_intercalate (emptyParts_free fun part isPart => not_mem_of_mem_splitOn isPart) ?_
  cases parts_eq : splitOn '\n' text with
  | nil => exact absurd (splitOn_eq '\n' text ▸ parts_eq) (List.splitOn_ne_nil '\n' text)
  | cons part parts => exact List.cons_ne_nil _ _

end Text
end ChatMacro
