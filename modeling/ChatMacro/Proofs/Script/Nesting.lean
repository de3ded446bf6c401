import ChatMacro.Proofs.Script.Capture

/-!
# Template literals in interpolations

While the lexer looks for the end of an interpolation, a template literal in it counts as a string.
This is right as long as no backquote stands in an interpolation of that literal: the literal closes
the one quote that it opens, as strings do, and no other token opens or closes anything.
-/

namespace ChatMacro
namespace Script
namespace Lexer

/-- No backquote stands in an interpolation of a token. -/
def Shallow : Token → Prop
  | .template pieces => ∀ code, .source code ∈ pieces → '\x60' ∉ code.toList
  | _ => True

/-- The characters that open or close something in the source of an interpolation. -/
def marks : List Char := ['\'', '"', '\x60', '\x7b', '\x7d']

section

variable {braces : Nat} {character : Char} {text rest : List Char}

theorem openBehind_cons (plain : character ∉ marks) :
    openBehind braces none (character :: text) = openBehind braces none text := by
  simp only [marks, List.mem_cons, List.not_mem_nil, or_false, not_or] at plain
  have opened : openAfter braces character = some (braces, none) := by
    cases braces <;> simp [openAfter, isQuote, plain]
  rw [openBehind, opened]

theorem openBehind_quote (opens : isQuote character = true) :
    openBehind braces none (character :: text) = openBehind braces (some character) text := by
  have opened : openAfter braces character = some (braces, some character) := by
    cases braces <;> simp [openAfter, opens]
  rw [openBehind, opened]

/-- Characters of a kind to which no mark belongs change nothing. -/
theorem openBehind_dropWhile {kind : Char → Bool} (apart : marks.any kind = false)
    (text : List Char) :
    openBehind braces none (text.dropWhile kind) = openBehind braces none text := by
  induction text with
  | nil => rfl
  | cons character text ih =>
      rw [List.dropWhile_cons]
      split
      next included =>
        have plain : character ∉ marks := fun member =>
          List.any_eq_false.mp apart character member included
        rw [ih, openBehind_cons plain]
      next => rfl

/-- A string closes the quote that it opens. -/
theorem openBehind_of_readString {quote : Char} {content : List Char}
    (read : readString quote text = .ok (content, rest)) :
    openBehind braces (some quote) text = openBehind braces none rest := by
  fun_induction readString quote text generalizing content with
  | case1 | case2 | case3 => cases read
  | case4 next tail ih =>
      obtain ⟨⟨others, last⟩, later, read⟩ := Outcome.exists_of_bind_eq_ok read
      cases read
      exact ih later
  | case5 tail _ notLast notEscaping =>
      cases read
      rw [openBehind_quoted (ne_escape_of_unescaped notLast notEscaping), if_pos rfl]
  | case6 next tail _ notLast notEscaping different ih =>
      obtain ⟨⟨others, last⟩, later, read⟩ := Outcome.exists_of_bind_eq_ok read
      cases read
      rw [openBehind_quoted (ne_escape_of_unescaped notLast notEscaping), if_neg different]
      exact ih later

theorem openBehind_escape (mark : Char) :
    openBehind braces (some mark) ('\\' :: character :: text) =
      openBehind braces (some mark) text := by
  rw [openBehind]

theorem openBehind_inside (noEscape : character ≠ '\\') (noEnd : character ≠ '\x60') :
    openBehind braces (some '\x60') (character :: text) = openBehind braces (some '\x60') text := by
  rw [openBehind_quoted noEscape, if_neg noEnd]

/-- Outside strings in an interpolation of the literal, a backslash escapes nothing, but the reader
passes over the next character. -/
theorem openBehind_unquoted (character : Char) {after : Option (Nat × Option Char)}
    (noEnd : character ≠ '\x60')
    (same : openBehind braces (some '\x60') text = after)
    (escaped : character = '\\' → openBehind braces (some '\x60') ('\\' :: text) = after) :
    openBehind braces (some '\x60') (character :: text) = after ∧
      openBehind braces (some '\x60') ('\\' :: character :: text) = after := by
  refine ⟨?_, (openBehind_escape _).trans same⟩
  by_cases escape : character = '\\'
  · rw [escape]
    exact escaped escape
  · exact (openBehind_inside escape noEnd).trans same

section

variable {pieces result : List TemplatePiece}

theorem ne_of_shallow {collected : List Char} {inner : Nat} {quote : Option Char}
    (shallow : Shallow (.template result))
    (read : readTemplate pieces (.source (character :: collected) inner quote) text =
      .ok (result, rest)) : character ≠ '\x60' := by
  rintro rfl
  obtain ⟨code, member, includes⟩ := exists_source_of_readTemplate read
  exact shallow code member (includes _ List.mem_cons_self)

/-- Whether the reading stands outside strings in an interpolation. -/
def TemplateMode.unquoted : TemplateMode → Bool
  | .source _ _ none => true
  | _ => false

/-- A template literal closes the backquote that it opens. -/
theorem openBehind_of_literal {mode : TemplateMode}
    (read : readTemplate pieces mode text = .ok (result, rest))
    (shallow : Shallow (.template result)) :
    openBehind braces (some '\x60') text = openBehind braces none rest ∧
      (mode.unquoted = true →
        openBehind braces (some '\x60') ('\\' :: text) = openBehind braces none rest) := by
  -- The second part is for a backslash outside strings: it is a character of the source like any
  -- other one, while the reader of the outer literal skips what comes next.
  fun_induction readTemplate pieces mode text with
  | case1 | case3 | case7 => cases read
  | case2 pieces collected tail =>
      cases read
      refine ⟨?_, fun unquoted => absurd unquoted Bool.false_ne_true⟩
      rw [openBehind_quoted (by decide), if_pos rfl]
  | case4 pieces collected character tail ih =>
      refine ⟨?_, fun unquoted => absurd unquoted Bool.false_ne_true⟩
      exact (openBehind_escape _).trans (ih read).1
  | case5 pieces collected tail ih =>
      refine ⟨?_, fun unquoted => absurd unquoted Bool.false_ne_true⟩
      rw [openBehind_inside (by decide) (by decide), openBehind_inside (by decide) (by decide)]
      exact (ih read).1
  | case6 pieces collected character tail noEnd notLast notEscaping _ ih =>
      refine ⟨?_, fun unquoted => absurd unquoted Bool.false_ne_true⟩
      have noEscape := ne_escape_of_unescaped notLast notEscaping
      exact (openBehind_inside noEscape noEnd).trans (ih read).1
  | case8 pieces collected inner quote character tail ih =>
      refine ⟨?_, fun unquoted => absurd unquoted Bool.false_ne_true⟩
      exact (openBehind_escape _).trans (ih read).1
  | case9 pieces collected inner quote character tail notLast notEscaping ih =>
      refine ⟨?_, fun unquoted => absurd unquoted Bool.false_ne_true⟩
      have noEscape := ne_escape_of_unescaped notLast notEscaping
      exact (openBehind_inside noEscape (ne_of_shallow shallow read)).trans (ih read).1
  | case10 pieces collected inner character tail opens ih =>
      have step := openBehind_unquoted _ (ne_of_shallow shallow read) (ih read).1 (by
        rintro rfl
        cases opens)
      exact step.imp_right fun escaped _ => escaped
  | case12 pieces collected tail _ _ ih =>
      have step := openBehind_unquoted '\x7d' (by decide) (ih read).1
        fun escape => absurd escape (by decide)
      exact step.imp_right fun escaped _ => escaped
  | _ =>
      rename_i ih
      have noEnd := ne_of_shallow shallow read
      have step := openBehind_unquoted _ noEnd (ih read).1 fun _ => (ih read).2 rfl
      exact step.imp_right fun escaped _ => escaped

end

/-- Numbers open and close nothing. -/
theorem openBehind_of_readNumber {value : Float} (read : readNumber text = (value, rest)) :
    openBehind braces none text = openBehind braces none rest := by
  have apart : marks.any Char.isDigit = false := by decide
  rw [← openBehind_dropWhile apart text]
  rcases readNumber_cases read with rfl | ⟨tail, after, rfl⟩
  · rfl
  · rw [after, openBehind_cons (by decide), openBehind_dropWhile apart]

/-- Symbols open and close nothing. -/
theorem openBehind_spellSymbol (symbol : Symbol) :
    openBehind braces none (spellSymbol symbol ++ rest) = openBehind braces none rest := by
  cases symbol <;> simp only [spellSymbol, List.cons_append, List.nil_append] <;>
    (repeat rw [openBehind_cons (by decide)])

/-- A token closes what it opens, if its interpolations hold no template literals. -/
theorem openBehind_of_readToken {tail : List Char} {token : Token}
    (read : readToken character tail = .ok (token, rest)) (shallow : Shallow token) :
    openBehind braces none (character :: tail) = openBehind braces none rest := by
  cases takes_of_readToken read with
  | number digit numeral => exact openBehind_of_readNumber numeral
  | string quote content =>
      have opens : isQuote character = true := by
        rcases quote with rfl | rfl <;> decide
      rw [openBehind_quote opens, openBehind_of_readString content]
  | template backquote literal =>
      subst backquote
      rw [openBehind_quote (by decide), (openBehind_of_literal literal shallow).1]
  | name start rest_eq =>
      have apart : marks.any isNamePart = false := by decide
      rw [← openBehind_dropWhile apart,
        List.dropWhile_cons_of_pos (isNamePart_of_isNameStart start), rest_eq]
  | symbol found => rw [eq_of_symbol? found, openBehind_spellSymbol]

theorem Lexed.openBehind_eq {tokens : List Token} (lexed : Lexed text tokens)
    (shallow : ∀ token ∈ tokens, Shallow token) :
    openBehind braces none text = some (braces, none) := by
  have apart : marks.any Text.isBlank = false := by decide
  induction lexed with
  | ended blank =>
      rw [← openBehind_dropWhile apart, blank]
      rfl
  | next starts read later ih =>
      obtain ⟨first, others⟩ := List.forall_mem_cons.mp shallow
      rw [← openBehind_dropWhile apart, starts, openBehind_of_readToken read first]
      exact ih others

/-- A text is balanced if its interpolations hold no template literals. -/
theorem balanced_of_tokens {tokens : List Token} (lexed : Lexer.tokens text = .ok tokens)
    (shallow : ∀ token ∈ tokens, Shallow token) : Balanced text :=
  (lexed_of_tokensUpTo lexed le_rfl).openBehind_eq shallow

end

end Lexer
end Script
end ChatMacro
