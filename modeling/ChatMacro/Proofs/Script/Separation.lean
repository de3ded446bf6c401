import ChatMacro.Proofs.Script.Capture

/-!
# Tokens on both sides of a semicolon

No token goes on with a semicolon, except for strings and template literals, which have their own
ends.  So a token in front of a semicolon is read as at the end of a text, and the tokens of two
texts with a semicolon between them are those of the one, a semicolon, and those of the other.
-/

namespace ChatMacro
namespace Script
namespace Lexer

/-! ## Characters of a kind -/

section

variable {kind : Char → Bool} {stop : Char} (stops : kind stop = false) (text more : List Char)

include stops

theorem dropWhile_append_stop :
    (text ++ stop :: more).dropWhile kind = text.dropWhile kind ++ stop :: more := by
  rw [List.dropWhile_append]
  split
  next nothing =>
    rw [List.isEmpty_iff.mp nothing, List.dropWhile_cons_of_neg (by simp [stops])]
    rfl
  next => rfl

theorem takeWhile_append_stop :
    (text ++ stop :: more).takeWhile kind = text.takeWhile kind := by
  rw [List.takeWhile_append]
  split
  next everything =>
    have taken : text.takeWhile kind = text := (List.takeWhile_prefix kind).eq_of_length everything
    rw [List.takeWhile_cons_of_neg (by simp [stops]), List.append_nil, taken]
  next => rfl

end

/-! ## Single tokens -/

section

variable {text rest : List Char} (more : List Char)

theorem readString_append {quote : Char} {content : List Char}
    (read : readString quote text = .ok (content, rest)) :
    readString quote (text ++ more) = .ok (content, rest ++ more) := by
  fun_induction readString quote text generalizing content with
  | case1 | case2 | case3 => cases read
  | case4 next tail ih =>
      obtain ⟨⟨others, last⟩, later, read⟩ := Outcome.exists_of_bind_eq_ok read
      cases read
      rw [List.cons_append, List.cons_append, readString, ih later]
      rfl
  | case5 tail noBreak notLast notEscaping =>
      cases read
      have noEscape := ne_escape_of_unescaped notLast notEscaping
      rw [List.cons_append, readString, if_pos rfl]
      · rfl
      · exact noBreak
      · exact fun escape _ => noEscape escape
      · exact fun _ _ escape _ => noEscape escape
  | case6 next tail noBreak notLast notEscaping other ih =>
      obtain ⟨⟨others, last⟩, later, read⟩ := Outcome.exists_of_bind_eq_ok read
      cases read
      have noEscape := ne_escape_of_unescaped notLast notEscaping
      rw [List.cons_append, readString, if_neg other, ih later]
      · rfl
      · exact noBreak
      · exact fun escape _ => noEscape escape
      · exact fun _ _ escape _ => noEscape escape

theorem readTemplate_append {pieces result : List TemplatePiece} {mode : TemplateMode}
    (read : readTemplate pieces mode text = .ok (result, rest)) :
    readTemplate pieces mode (text ++ more) = .ok (result, rest ++ more) := by
  fun_induction readTemplate pieces mode text with
  | case1 | case3 | case7 => cases read
  | case2 pieces collected tail =>
      cases read
      rfl
  | case4 pieces collected character tail ih =>
      rw [List.cons_append, List.cons_append, readTemplate]
      exact ih read
  | case5 pieces collected tail ih =>
      rw [List.cons_append, List.cons_append, readTemplate]
      exact ih read
  | case6 pieces collected character tail noEnd notLast notEscaping notOpening ih =>
      cases tail with
      | nil => cases read
      | cons next tail =>
          have noEscape := ne_escape_of_unescaped notLast notEscaping
          rw [List.cons_append, readTemplate]
          · exact ih read
          · exact noEnd
          · exact fun escape _ => noEscape escape
          · exact fun _ _ escape _ => noEscape escape
          · rintro others dollar opening
            cases opening
            exact notOpening tail dollar rfl
  | case8 pieces collected braces mark character tail ih =>
      rw [List.cons_append, List.cons_append, readTemplate]
      exact ih read
  | case9 pieces collected braces mark character tail notLast notEscaping ih =>
      rw [List.cons_append, readTemplate_quoted (ne_escape_of_unescaped notLast notEscaping)]
      exact ih read
  | case10 pieces collected braces character tail quoted ih =>
      have opened : openAfter braces character = some (braces, some character) := if_pos quoted
      rw [List.cons_append, readTemplate_unquoted opened]
      exact ih read
  | case11 pieces collected braces tail _ ih =>
      rw [List.cons_append, readTemplate_unquoted (by rfl)]
      exact ih read
  | case12 pieces collected tail _ _ ih =>
      rw [List.cons_append, readTemplate_end (by rfl)]
      exact ih read
  | case13 pieces collected tail braces _ _ ih =>
      rw [List.cons_append, readTemplate_unquoted (by rfl)]
      exact ih read
  | case14 pieces collected braces character tail unquoted noOpening noClosing ih =>
      have opened : openAfter braces character = some (braces, none) :=
        (if_neg unquoted).trans ((if_neg noOpening).trans (if_neg noClosing))
      rw [List.cons_append, readTemplate_unquoted opened]
      exact ih read

theorem spanDigits_semicolon (text : List Char) :
    Numeral.spanDigits (text ++ ';' :: more) =
      ((Numeral.spanDigits text).1, (Numeral.spanDigits text).2 ++ ';' :: more) :=
  Prod.ext (takeWhile_append_stop (by decide) text more)
    (dropWhile_append_stop (by decide) text more)

/-- A semicolon, neither a digit nor a point, ends a number. -/
theorem readNumber_semicolon {value : Float} (read : readNumber text = (value, rest)) :
    readNumber (text ++ ';' :: more) = (value, rest ++ ';' :: more) := by
  rw [readNumber, spanDigits_semicolon]
  rw [readNumber] at read
  generalize Numeral.spanDigits text = spanned at read ⊢
  obtain ⟨digits, after⟩ := spanned
  dsimp only at read ⊢
  split at read
  next tail =>
    simp only [List.cons_append, spanDigits_semicolon]
    generalize Numeral.spanDigits tail = spanned at read ⊢
    obtain ⟨_ | ⟨digit, fraction⟩, behind⟩ := spanned <;> cases read <;> rfl
  next noPoint =>
    cases read
    cases rest with
    | nil => rfl
    | cons character rest =>
        have ne_point : character ≠ '.' := fun point => noPoint rest (point ▸ rfl)
        simp [ne_point]

/-- No longer symbol has a semicolon behind its first character. -/
theorem symbol?_semicolon {symbol : Symbol} (found : symbol? text = some (symbol, rest)) :
    symbol? (text ++ ';' :: more) = some (symbol, rest ++ ';' :: more) := by
  unfold symbol? at found
  split at found <;> cases found <;> cases rest <;> simp_all [symbol?]

/-- A token ends in front of a semicolon as at the end of a text. -/
theorem readToken_semicolon {character : Char} {token : Token}
    (read : readToken character text = .ok (token, rest)) :
    readToken character (text ++ ';' :: more) = .ok (token, rest ++ ';' :: more) := by
  rw [readToken] at read ⊢
  split_ifs at read ⊢ with digit quote backquote start
  · cases numeral : readNumber (character :: text) with
    | mk value after =>
        rw [numeral] at read
        cases read
        rw [← List.cons_append, readNumber_semicolon more numeral]
  · cases content : readString character text <;> rw [content] at read <;> cases read
    rw [readString_append _ content]
    rfl
  · cases literal : readTemplate [] (.text []) text <;> rw [literal] at read <;> cases read
    rw [readTemplate_append _ literal]
    rfl
  · cases read
    have unnamed : isNamePart ';' = false := by decide
    rw [takeWhile_append_stop unnamed, dropWhile_append_stop unnamed]
  · split at read
    next symbol after found =>
      cases read
      rw [← List.cons_append, symbol?_semicolon more found]
    next => cases read

end

/-! ## Whole texts -/

/-- The tokens of a text, a semicolon, and the tokens of another text are those of both texts with a
semicolon between them. -/
theorem Lexed.join {first second : List Char} {firsts seconds : List Token}
    (lexed : Lexed first firsts) (secondLexed : Lexed second seconds) :
    Lexed (first ++ ';' :: second) (firsts ++ .symbol .semi :: seconds) := by
  have solid : Text.isBlank ';' = false := by decide
  induction lexed with
  | @ended text blank =>
      have starts : (text ++ ';' :: second).dropWhile Text.isBlank = ';' :: second := by
        rw [dropWhile_append_stop solid, blank, List.nil_append]
      exact .next starts rfl secondLexed
  | @next text tail rest character token others starts read _ ih =>
      have startsToo : (text ++ ';' :: second).dropWhile Text.isBlank =
          character :: (tail ++ ';' :: second) := by
        rw [dropWhile_append_stop solid, starts, List.cons_append]
      exact .next startsToo (readToken_semicolon second read) ih

theorem Lexed.tokensUpTo_eq {text : List Char} {tokens : List Token} (lexed : Lexed text tokens)
    {limit : Nat} (enough : text.length ≤ limit) : tokensUpTo limit text = .ok tokens := by
  induction lexed generalizing limit with
  | @ended text blank =>
      cases limit with
      | zero => rfl
      | succ limit => rw [tokensUpTo, blank]
  | @next text tail rest character token others starts read _ ih =>
      have shorter := (List.length_dropWhile_le Text.isBlank text).trans enough
      have rest_le := (suffix_of_readToken read).length_le
      rw [starts, List.length_cons] at shorter
      obtain ⟨limit, rfl⟩ := Nat.exists_eq_add_one.mpr (Nat.zero_lt_of_lt shorter)
      rw [tokensUpTo, starts]
      dsimp only
      rw [read]
      dsimp only [bind, Except.bind]
      rw [ih (by omega)]
      rfl

theorem tokens_eq_ok_iff {text : List Char} {tokens : List Token} :
    Lexer.tokens text = .ok tokens ↔ Lexed text tokens :=
  ⟨fun read => lexed_of_tokensUpTo read le_rfl, fun lexed => lexed.tokensUpTo_eq le_rfl⟩

end Lexer
end Script
end ChatMacro
