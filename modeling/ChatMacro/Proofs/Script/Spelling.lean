import ChatMacro.Proofs.Json.Numbers
import ChatMacro.Proofs.Script.Reading

/-!
# Spelling scripts

A style decides how the tokens of a phrase are spelled: the quotes of strings and the escapes inside
them, the numerals, and the blanks between tokens, of which there need not be any.  Lexing the text
gives the tokens back, because an operand and what may follow it never run together, and neither do
a symbol and an operand.  So a script that is written in any style holds the expression that it was
written for, unless the nesting is too deep.
-/

namespace ChatMacro

/-- The code points of some ranges. -/
def Text.codesOf (ranges : List (Nat × Nat)) : List Nat :=
  ranges.flatMap fun range => List.range' range.1 (range.2 + 1 - range.1)

theorem Text.mem_codesOf {ranges : List (Nat × Nat)} {character : Char}
    (within : inRanges ranges character = true) : character.toNat ∈ codesOf ranges := by
  obtain ⟨range, member, bounds⟩ := List.any_eq_true.mp within
  rw [Bool.and_eq_true, decide_eq_true_eq, decide_eq_true_eq] at bounds
  exact List.mem_flatMap.mpr ⟨range, member, List.mem_range'_1.mpr (by omega)⟩

namespace Script

/-- A text that stands for a character inside a string. -/
def SpellsIn (quote character : Char) (text : List Char) : Prop :=
  (text = [character] ∧ character ≠ quote ∧ character ≠ '\\' ∧ character ≠ '\n') ∨
    ∃ letter, text = ['\\', letter] ∧ Lexer.escape letter = character

/-- A way to write scripts. -/
structure Style extends Grouping where
  /-- The quote of strings. -/
  quote : Char
  /-- It is one of two. -/
  quote_eq : quote = '"' ∨ quote = '\''
  /-- What stands for a character inside a string. -/
  letter : Char → List Char
  /-- It is read as this character. -/
  letter_spells : ∀ character, SpellsIn quote character (letter character)
  /-- The numeral of a number. -/
  numeral : Float → List Char
  /-- The blanks in front of the first token and behind each token. -/
  gap : Nat → List Char
  /-- They are blank. -/
  gap_blank : ∀ place, ∀ character ∈ gap place, Text.isBlank character = true

namespace Style

variable (style : Style)

/-- The numeral of a number is read back as this number. -/
def Legible (value : Float) : Prop :=
  ∃ first tail, style.numeral value = first :: tail ∧
    Lexer.readToken first tail = .ok (.number value, [])

/-- The characters of a token.  Template literals have none. -/
def spell : Token → List Char
  | .number value => style.numeral value
  | .string value => style.quote :: (value.toList.flatMap style.letter ++ [style.quote])
  | .template _ => []
  | .name name => name.toList
  | .symbol symbol => Lexer.spellSymbol symbol

/-- The characters of some tokens with the blanks behind them. -/
def write (place : Nat) : List Token → List Char
  | [] => []
  | token :: tokens => style.spell token ++ (style.gap place ++ write (place + 1) tokens)

/-- The script that holds an expression. -/
def script (value : Expr) : String :=
  String.ofList (style.gap 0 ++ style.write 1 (style.phraseAt 0 value))

end Style

namespace Lexer

/-! ## Strings -/

theorem readString_letter {quote character : Char} {text : List Char}
    (spells : SpellsIn quote character text) {content rest tail : List Char}
    (read : readString quote tail = .ok (content, rest)) :
    readString quote (text ++ tail) = .ok (character :: content, rest) := by
  rcases spells with ⟨rfl, noQuote, noEscape, noBreak⟩ | ⟨letter, rfl, rfl⟩
  · rw [List.singleton_append, readString, if_neg noQuote, read]
    · rfl
    all_goals simp_all
  · rw [List.cons_append, List.singleton_append, readString, read]
    rfl

theorem readString_quote {quote : Char} (quote_eq : quote = '"' ∨ quote = '\'')
    (rest : List Char) : readString quote (quote :: rest) = .ok ([], rest) := by
  rcases quote_eq with rfl | rfl <;> rfl

/-- A string is read up to its closing quote. -/
theorem readString_spelled {quote : Char} (quote_eq : quote = '"' ∨ quote = '\'')
    {letter : Char → List Char}
    (spells : ∀ character, SpellsIn quote character (letter character))
    (content rest : List Char) :
    readString quote (content.flatMap letter ++ quote :: rest) = .ok (content, rest) := by
  induction content with
  | nil => exact readString_quote quote_eq rest
  | cons character content ih =>
      rw [List.flatMap_cons, List.append_assoc]
      exact readString_letter (spells character) ih

/-! ## Kinds of tokens -/

/-- How a token is taken from a text, one case for each kind. -/
inductive Takes (character : Char) (tail rest : List Char) : Token → Prop where
  | number {value : Float} (digit : character.isDigit = true)
      (numeral : readNumber (character :: tail) = (value, rest)) :
      Takes character tail rest (.number value)
  | string {content : List Char} (quote : character = '"' ∨ character = '\'')
      (read : readString character tail = .ok (content, rest)) :
      Takes character tail rest (.string (String.ofList content))
  | template {pieces : List TemplatePiece} (backquote : character = '\x60')
      (read : readTemplate [] (.text []) tail = .ok (pieces, rest)) :
      Takes character tail rest (.template pieces)
  | name (start : isNameStart character = true) (rest_eq : tail.dropWhile isNamePart = rest) :
      Takes character tail rest
        (.name (String.ofList (character :: tail.takeWhile isNamePart)))
  | symbol {symbol : Symbol} (found : symbol? (character :: tail) = some (symbol, rest)) :
      Takes character tail rest (.symbol symbol)

theorem takes_of_readToken {character : Char} {tail rest : List Char} {token : Token}
    (read : readToken character tail = .ok (token, rest)) : Takes character tail rest token := by
  rw [readToken] at read
  split_ifs at read with digit quote backquote start
  · cases numeral : readNumber (character :: tail) with
    | mk value after =>
        rw [numeral] at read
        cases read
        exact .number digit numeral
  · cases outcome : readString character tail <;> rw [outcome] at read <;> cases read
    rw [Bool.or_eq_true, decide_eq_true_eq, decide_eq_true_eq] at quote
    exact .string quote outcome
  · cases outcome : readTemplate [] (.text []) tail <;> rw [outcome] at read <;> cases read
    exact .template backquote outcome
  · cases read
    exact .name start rfl
  · split at read
    next found =>
      cases read
      exact .symbol found
    next => cases read

/-! ## Where tokens end -/

/-- No blank goes on with a word. -/
theorem isNamePart_of_isBlank {character : Char} (blank : Text.isBlank character = true) :
    isNamePart character = false := by
  have checked : ∀ code ∈ Text.codesOf Text.blankRanges,
      isNamePart (Char.ofNat code) = false := by
    decide +kernel
  have part := checked _ (Text.mem_codesOf blank)
  rwa [Char.ofNat_toNat] at part

theorem isNamePart_of_isDigit {character : Char} (digit : character.isDigit = true) :
    isNamePart character = true := by
  have small : character.toNat < 128 :=
    Nat.lt_of_le_of_lt (Char.isDigit_iff_toNat.mp digit).2 (by decide)
  simp [isNamePart, Text.isLetterOrNumber, small, Char.isAlphanum, digit]

theorem isNamePart_of_isNameStart {character : Char} (start : isNameStart character = true) :
    isNamePart character = true := by
  simp only [isNameStart, Bool.or_eq_true, Text.isLetter] at start
  simp only [isNamePart, Bool.or_eq_true, Text.isLetterOrNumber]
  refine start.imp_left (Or.imp_left fun letter => ?_)
  split at letter
  next small => simp [Char.isAlphanum, letter, small]
  next large => simp [letter, large]

theorem isDigit_of_isNameStart {character : Char} (start : isNameStart character = true) :
    character.isDigit = false := by
  by_contra digit
  have checked : ∀ code ∈ Text.codesOf [('0'.toNat, '9'.toNat)],
      isNameStart (Char.ofNat code) = false := by
    decide
  have bounds := Char.isDigit_iff_toNat.mp (Bool.not_eq_false _ ▸ digit)
  have within : Text.inRanges [('0'.toNat, '9'.toNat)] character = true := by
    simpa [Text.inRanges] using bounds
  have noStart := checked _ (Text.mem_codesOf within)
  rw [Char.ofNat_toNat, start] at noStart
  cases noStart

/-- A character that does not go on with a token. -/
def Stops : Token → Char → Prop
  | .number _, character => isNamePart character = false ∧ character ≠ '.'
  | .name _, character => isNamePart character = false
  | .symbol symbol, character => symbol = .rightParen ∨ character ≠ '='
  | _, _ => True

/-- A text in front of which a token ends. -/
def Bounds (token : Token) (rest : List Char) : Prop :=
  ∀ character tail, rest = character :: tail → Stops token character

/-- The characters of a token have it read back in front of a text that bounds it. -/
def Recovers (token : Token) (text : List Char) : Prop :=
  ∃ first tail, text = first :: tail ∧ Text.isBlank first = false ∧
    ∀ rest, Bounds token rest → readToken first (tail ++ rest) = .ok (token, rest)

theorem isBlank_of_isNamePart {character : Char} (part : isNamePart character = true) :
    Text.isBlank character = false := by
  by_contra blank
  rw [isNamePart_of_isBlank (Bool.not_eq_false _ ▸ blank)] at part
  cases part

/-! ## Words and numbers -/

theorem recovers_name {name : String} (word : IsWord name) : Recovers (.name name) name.toList := by
  obtain ⟨first, tail, name_eq, start, parts⟩ := word
  have part := isNamePart_of_isNameStart start
  have noQuote {quote : Char} (noPart : isNamePart quote = false) : first ≠ quote := by
    rintro rfl
    rw [part] at noPart
    cases noPart
  refine ⟨first, tail, name_eq, isBlank_of_isNamePart part, fun rest bounds => ?_⟩
  have taken : (tail ++ rest).takeWhile isNamePart = tail ∧
      (tail ++ rest).dropWhile isNamePart = rest := by
    rw [List.takeWhile_append_of_pos parts, List.dropWhile_append_of_pos parts]
    cases rest with
    | nil => simp
    | cons character more =>
        have stops : isNamePart character = false := bounds character more rfl
        simp [stops]
  simp only [readToken, isDigit_of_isNameStart start, noQuote (by decide : isNamePart '"' = false),
    noQuote (by decide : isNamePart '\'' = false), noQuote (by decide : isNamePart '\x60' = false),
    start, taken, decide_false, Bool.or_false, Bool.false_eq_true, if_false, if_true]
  rw [← name_eq, String.ofList_toList]

/-- Only a numeral is read as a number. -/
theorem numeral_of_readToken {first : Char} {tail : List Char} {value : Float}
    (read : readToken first tail = .ok (.number value, [])) :
    first.isDigit = true ∧ readNumber (first :: tail) = (value, []) := by
  cases takes_of_readToken read with
  | number digit numeral => exact ⟨digit, numeral⟩

theorem ended_of_bounds {value : Float} {rest : List Char} (bounds : Bounds (.number value) rest) :
    Json.Ended rest := by
  intro character tail rest_eq
  obtain ⟨noPart, noPoint⟩ : isNamePart character = false ∧ character ≠ '.' :=
    bounds character tail rest_eq
  refine ⟨?_, noPoint, ?_, ?_⟩
  · by_contra digit
    rw [isNamePart_of_isDigit (Bool.not_eq_false _ ▸ digit)] at noPart
    cases noPart
  · rintro rfl
    exact absurd noPart (by decide)
  · rintro rfl
    exact absurd noPart (by decide)

/-- A numeral stays the same in front of a text that does not go on with it. -/
theorem readNumber_append {text rest : List Char} {value : Float} (ended : Json.Ended rest)
    (read : readNumber text = (value, [])) : readNumber (text ++ rest) = (value, rest) := by
  unfold readNumber at read ⊢
  rw [Json.spanDigits_append text ended]
  cases spanned : Numeral.spanDigits text with
  | mk digits after =>
      rw [spanned] at read
      dsimp only at read ⊢
      cases after with
      | nil =>
          cases rest with
          | nil => exact read
          | cons character more =>
              obtain ⟨-, noPoint, -, -⟩ := ended character more rfl
              simpa [noPoint] using read
      | cons character tail =>
          by_cases point : character = '.'
          · subst point
            simp only [List.cons_append] at read ⊢
            rw [Json.spanDigits_append tail ended]
            cases fractionSpanned : Numeral.spanDigits tail with
            | mk fraction after =>
                rw [fractionSpanned] at read
                cases fraction with
                | nil => simp at read
                | cons digit digits =>
                    simp only [Prod.mk.injEq] at read ⊢
                    rw [read.2]
                    exact ⟨read.1, rfl⟩
          · simp [point] at read

theorem recovers_number {style : Style} {value : Float} (legible : style.Legible value) :
    Recovers (.number value) (style.numeral value) := by
  obtain ⟨first, tail, numeral_eq, read⟩ := legible
  obtain ⟨digit, numeral⟩ := numeral_of_readToken read
  refine ⟨first, tail, numeral_eq, isBlank_of_isNamePart (isNamePart_of_isDigit digit), ?_⟩
  intro rest bounds
  have appended := readNumber_append (ended_of_bounds bounds) numeral
  rw [List.cons_append] at appended
  rw [readToken, if_pos digit, appended]

/-! ## Strings and symbols -/

theorem recovers_string (style : Style) (value : String) :
    Recovers (.string value) (style.spell (.string value)) := by
  refine ⟨style.quote, value.toList.flatMap style.letter ++ [style.quote], rfl, ?_, ?_⟩
  · rcases style.quote_eq with quote | quote <;> rw [quote] <;> decide
  · intro rest _
    have read := readString_spelled style.quote_eq style.letter_spells value.toList rest
    have noDigit : style.quote.isDigit = false := by
      rcases style.quote_eq with quote | quote <;> rw [quote] <;> decide
    have opens : (style.quote = '"' || style.quote = '\'') = true := by
      rcases style.quote_eq with quote | quote <;> rw [quote] <;> decide
    rw [List.append_assoc, List.singleton_append, readToken, noDigit, if_neg Bool.false_ne_true,
      if_pos opens, read]
    change Except.ok (Token.string (String.ofList value.toList), rest) = _
    rw [String.ofList_toList]

/-- The longest symbol is taken, so only an equality sign can go on with one. -/
theorem symbol?_append (symbol : Symbol) {rest : List Char}
    (bounds : Bounds (.symbol symbol) rest) :
    symbol? (spellSymbol symbol ++ rest) = some (symbol, rest) := by
  cases rest with
  | nil => cases symbol <;> rfl
  | cons character more =>
      rcases bounds character more rfl with rfl | apart
      · rfl
      · cases symbol <;> simp [spellSymbol, symbol?, apart]

theorem recovers_symbol (symbol : Symbol) : Recovers (.symbol symbol) (spellSymbol symbol) := by
  have unworded : ∀ first tail, spellSymbol symbol = first :: tail →
      Text.isBlank first = false ∧ ∀ text rest, symbol? (first :: text) = some (symbol, rest) →
        readToken first text = .ok (.symbol symbol, rest) := by
    intro first tail spelled
    cases symbol <;> cases spelled <;>
      exact ⟨by decide, fun text rest found => by rw [readToken, found]; rfl⟩
  cases spelled : spellSymbol symbol with
  | nil => cases symbol <;> cases spelled
  | cons first tail =>
      obtain ⟨solid, read⟩ := unworded first tail spelled
      refine ⟨first, tail, rfl, solid, fun rest bounds => ?_⟩
      have found := symbol?_append symbol bounds
      rw [spelled, List.cons_append] at found
      exact read _ _ found

end Lexer

/-! ## Phrases -/

namespace Style

open Lexer (Bounds Recovers)

variable {style : Style}

/-- Tokens that alternate as in a phrase and can be spelled.  The flag tells whether an operand has
just ended, so that only a symbol may follow; a closing parenthesis ends an operand as well. -/
def Fits (style : Style) : Bool → List Token → Prop
  | _, [] => True
  | false, .number value :: tokens => style.Legible value ∧ Fits style true tokens
  | false, .string _ :: tokens => Fits style true tokens
  | false, .name name :: tokens => IsWord name ∧ Fits style true tokens
  | false, .symbol symbol :: tokens =>
      if symbol = .rightParen then Fits style true tokens
      else (symbol = .leftParen ∨ ∃ op : UnaryOp, symbol = op.symbol) ∧ Fits style false tokens
  | true, .symbol symbol :: tokens => Fits style (decide (symbol = .rightParen)) tokens
  | _, _ => False

theorem isWord_of_toList {first : Char} {tail : List Char} {name : String}
    (name_eq : name.toList = first :: tail)
    (start : Lexer.isNameStart first = true) (parts : tail.all Lexer.isNamePart = true) :
    IsWord name :=
  ⟨first, tail, name_eq, start, List.all_eq_true.mp parts⟩

theorem fits_value {value : Value} {rest : List Token}
    (legible : ∀ number, value = .number number → style.Legible number)
    (fits : style.Fits true rest) : style.Fits false (value.token :: rest) := by
  cases value with
  | undefined => exact ⟨isWord_of_toList rfl (by decide) (by decide), fits⟩
  | null => exact ⟨isWord_of_toList rfl (by decide) (by decide), fits⟩
  | boolean value =>
      cases value with
      | false => exact ⟨isWord_of_toList rfl (by decide) (by decide), fits⟩
      | true => exact ⟨isWord_of_toList rfl (by decide) (by decide), fits⟩
  | number value => exact ⟨legible value rfl, fits⟩
  | text value => exact fits

theorem fits_parenthesize {tokens : List Token}
    (inside : ∀ rest, style.Fits true rest → style.Fits false (tokens ++ rest)) (enclosed : Bool)
    {rest : List Token} (fits : style.Fits true rest) :
    style.Fits false (parenthesize enclosed tokens ++ rest) := by
  cases enclosed with
  | false => exact inside rest fits
  | true =>
      have closed : style.Fits true (.symbol .rightParen :: rest) := fits
      have tokens_eq : parenthesize true tokens ++ rest =
          .symbol .leftParen :: (tokens ++ .symbol .rightParen :: rest) := by
        simp [parenthesize]
      rw [tokens_eq]
      exact ⟨.inl rfl, inside _ closed⟩

/-- Behind every other symbol an operand may stand. -/
theorem fits_symbol {symbol : Symbol} (opens : symbol ≠ .rightParen) {rest : List Token}
    (fits : style.Fits false rest) : style.Fits true (.symbol symbol :: rest) := by
  rw [Fits, decide_eq_false opens]
  exact fits

theorem fits_operator (op : BinaryOp) {rest : List Token} (fits : style.Fits false rest) :
    style.Fits true (.symbol op.symbol :: rest) :=
  fits_symbol (by cases op <;> simp [BinaryOp.symbol]) fits

theorem fits_sign (op : UnaryOp) {rest : List Token} (fits : style.Fits false rest) :
    style.Fits false (.symbol op.symbol :: rest) := by
  have opens : op.symbol ≠ .rightParen := by cases op <;> simp [UnaryOp.symbol]
  rw [Fits, if_neg opens]
  exact ⟨.inr ⟨op, rfl⟩, fits⟩

theorem fits_phrasesAfter {values : List Expr}
    (inside : ∀ value ∈ values, ∀ rest, style.Fits true rest →
      style.Fits false (style.phrase value ++ rest)) {rest : List Token}
    (fits : style.Fits true rest) : style.Fits true (style.phrasesAfter values ++ rest) := by
  induction values with
  | nil => exact fits
  | cons value values ih =>
      obtain ⟨valueFits, othersFit⟩ := List.forall_mem_cons.mp inside
      rw [Grouping.phrasesAfter, List.cons_append, List.append_assoc]
      exact fits_symbol (by decide) (fits_parenthesize valueFits _ (ih othersFit))

/-- A phrase fits where an operand may stand. -/
theorem fits_phrase {value : Expr} (writable : Writable style.Legible value) :
    ∀ rest, style.Fits true rest → style.Fits false (style.phrase value ++ rest) := by
  induction writable with
  | number reads => exact fun rest fits => ⟨reads, fits⟩
  | literal noNumber =>
      exact fun rest fits => fits_value (fun number same => absurd same (noNumber number)) fits
  | name named => exact fun rest fits => ⟨named.1, fits⟩
  | unary op operandWritable operandFits =>
      exact fun rest fits => fits_sign op (fits_parenthesize operandFits _ fits)
  | binary op leftWritable rightWritable leftFits rightFits =>
      intro rest fits
      rw [Grouping.phrase, List.append_assoc]
      exact fits_parenthesize leftFits _ (fits_operator op (fits_parenthesize rightFits _ fits))
  | ternary conditionWritable positiveWritable negativeWritable conditionFits positiveFits
      negativeFits =>
      intro rest fits
      rw [Grouping.phrase, List.append_assoc, List.cons_append, List.append_assoc, List.cons_append]
      exact fits_parenthesize conditionFits _ <| fits_symbol (by decide) <|
        fits_parenthesize positiveFits _ <| fits_symbol (by decide) <|
          fits_parenthesize negativeFits _ fits
  | assign named valueWritable valueFits =>
      exact fun rest fits =>
        ⟨named.1, fits_symbol (by decide) (fits_parenthesize valueFits _ fits)⟩
  | @call function arguments named argumentsWritable argumentsFit =>
      intro rest fits
      have closed : style.Fits true (.symbol .rightParen :: rest) := fits
      cases arguments with
      | nil => exact ⟨named.1, fits_symbol (by decide) fits⟩
      | cons first others =>
          obtain ⟨firstFits, othersFit⟩ := List.forall_mem_cons.mp argumentsFit
          have tokens_eq : style.phrase (.call function (first :: others)) ++ rest =
              .name function :: .symbol .leftParen :: (style.phraseAt 0 first ++
                (style.phrasesAfter others ++ .symbol .rightParen :: rest)) := by
            simp [Grouping.phrase, Grouping.phraseAt]
          rw [tokens_eq]
          exact ⟨named.1, fits_symbol (by decide)
            (fits_parenthesize firstFits _ (fits_phrasesAfter othersFit closed))⟩

/-! ## Tokens and gaps -/

theorem recovers_of_fits {ended : Bool} {token : Token} {tokens : List Token}
    (fits : style.Fits ended (token :: tokens)) : Recovers token (style.spell token) := by
  cases token with
  | number value =>
      cases ended with
      | false => exact Lexer.recovers_number fits.1
      | true => exact fits.elim
  | string value => exact Lexer.recovers_string style value
  | template pieces => cases ended <;> exact fits.elim
  | name name =>
      cases ended with
      | false => exact Lexer.recovers_name fits.1
      | true => exact fits.elim
  | symbol symbol => exact Lexer.recovers_symbol symbol

/-- Whether an operand may end with a token. -/
def endsOperand : Token → Bool
  | .symbol symbol => decide (symbol = .rightParen)
  | _ => true

theorem Fits.tail {ended : Bool} {token : Token} {tokens : List Token}
    (fits : style.Fits ended (token :: tokens)) : style.Fits (endsOperand token) tokens := by
  cases ended with
  | true =>
      cases token with
      | symbol symbol => exact fits
      | _ => exact fits.elim
  | false =>
      cases token with
      | number value => exact fits.2
      | string value => exact fits
      | template pieces => exact fits.elim
      | name name => exact fits.2
      | symbol symbol =>
          rw [Fits] at fits
          split at fits
          next closing =>
            rw [endsOperand, decide_eq_true closing]
            exact fits
          next opening =>
            rw [endsOperand, decide_eq_false opening]
            exact fits.2

theorem stops_of_isBlank (token : Token) {character : Char}
    (blank : Text.isBlank character = true) : Lexer.Stops token character := by
  have apart {other : Char} (solid : Text.isBlank other = false) : character ≠ other := by
    rintro rfl
    rw [blank] at solid
    cases solid
  have noPart := Lexer.isNamePart_of_isBlank blank
  cases token with
  | number value => exact ⟨noPart, apart (by decide)⟩
  | name name => exact noPart
  | symbol symbol => exact .inr (apart (by decide))
  | _ => trivial

/-- A symbol may stand right behind an operand. -/
theorem stops_symbol {token : Token} (ended : endsOperand token = true) {symbol : Symbol}
    {first : Char} {tail : List Char} (spelled : Lexer.spellSymbol symbol = first :: tail) :
    Lexer.Stops token first := by
  have apart : Lexer.isNamePart first = false ∧ first ≠ '.' := by
    cases symbol <;> cases spelled <;> decide
  cases token with
  | number value => exact apart
  | name name => exact apart.1
  | symbol symbol => exact .inl (of_decide_eq_true ended)
  | _ => trivial

/-- Where an operand may stand, no equality sign does. -/
theorem ne_of_fits {next : Token} {others : List Token} (fits : style.Fits false (next :: others))
    {first : Char} {tail : List Char} (spelled : style.spell next = first :: tail) :
    first ≠ '=' := by
  rintro rfl
  cases next with
  | number value =>
      obtain ⟨digit, more, numeral_eq, read⟩ := fits.1
      obtain ⟨rfl, rfl⟩ := List.cons.inj (numeral_eq.symm.trans spelled)
      exact absurd (Lexer.numeral_of_readToken read).1 (by decide)
  | string value =>
      rcases style.quote_eq with quote | quote <;>
        exact absurd (quote.symm.trans (List.cons.inj spelled).1) (by decide)
  | template pieces => exact fits.elim
  | name name =>
      obtain ⟨start, more, name_eq, starts, -⟩ := fits.1
      obtain ⟨rfl, rfl⟩ := List.cons.inj (name_eq.symm.trans spelled)
      exact absurd starts (by decide)
  | symbol symbol =>
      rw [Fits] at fits
      split at fits
      next closing =>
        subst closing
        cases spelled
      next opening =>
        rcases fits.1 with rfl | ⟨op, rfl⟩
        · cases spelled
        · cases op <;> cases spelled

/-- Every token ends where the blanks or the next token start. -/
theorem bounds_write {ended : Bool} {token : Token} {tokens : List Token}
    (fits : style.Fits ended (token :: tokens)) (place : Nat) :
    Bounds token (style.gap place ++ style.write (place + 1) tokens) := by
  intro character tail text_eq
  cases gap : style.gap place with
  | cons blank more =>
      rw [gap] at text_eq
      obtain rfl := (List.cons.inj text_eq).1
      exact stops_of_isBlank token
        (style.gap_blank place blank (gap ▸ List.mem_cons_self))
  | nil =>
      rw [gap, List.nil_append] at text_eq
      cases tokens with
      | nil => cases text_eq
      | cons next others =>
          have nextFits := fits.tail
          obtain ⟨first, more, spelled, -, -⟩ := recovers_of_fits nextFits
          rw [write, spelled] at text_eq
          obtain rfl := (List.cons.inj text_eq).1
          cases closes : endsOperand token with
          | true =>
              rw [closes] at nextFits
              cases next with
              | symbol symbol => exact stops_symbol closes spelled
              | _ => exact nextFits.elim
          | false =>
              rw [closes] at nextFits
              cases token with
              | symbol symbol => exact .inr (ne_of_fits nextFits spelled)
              | _ => cases closes

theorem tokensUpTo_append {blanks : List Char}
    (blank : ∀ character ∈ blanks, Text.isBlank character = true) (limit : Nat)
    (text : List Char) : Lexer.tokensUpTo limit (blanks ++ text) = Lexer.tokensUpTo limit text := by
  cases limit with
  | zero => rfl
  | succ limit => rw [Lexer.tokensUpTo, Lexer.tokensUpTo, List.dropWhile_append_of_pos blank]

/-- Written tokens are read back one by one. -/
theorem tokensUpTo_write {ended : Bool} {tokens : List Token} (fits : style.Fits ended tokens)
    (place : Nat) {limit : Nat} (enough : tokens.length ≤ limit) :
    Lexer.tokensUpTo limit (style.write place tokens) = .ok tokens := by
  induction tokens generalizing ended place limit with
  | nil => cases limit <;> rfl
  | cons token tokens ih =>
      obtain ⟨limit, rfl⟩ := Nat.exists_eq_add_one.mpr (Nat.zero_lt_of_lt enough)
      obtain ⟨first, tail, spelled, solid, read⟩ := recovers_of_fits fits
      have later := ih fits.tail (place + 1) (Nat.le_of_succ_le_succ enough)
      rw [write, spelled, List.cons_append, Lexer.tokensUpTo,
        List.dropWhile_cons_of_neg (by simp [solid])]
      dsimp only
      rw [read _ (bounds_write fits place)]
      dsimp only [bind, Except.bind]
      rw [tokensUpTo_append (style.gap_blank place), later]
      rfl

theorem length_le_write {ended : Bool} {tokens : List Token} (fits : style.Fits ended tokens)
    (place : Nat) : tokens.length ≤ (style.write place tokens).length := by
  induction tokens generalizing ended place with
  | nil => exact Nat.zero_le _
  | cons token tokens ih =>
      obtain ⟨first, tail, spelled, -, -⟩ := recovers_of_fits fits
      have later := ih fits.tail (place + 1)
      rw [write, spelled]
      simp only [List.length_cons, List.length_append]
      omega

/-- The tokens of a written expression are its phrase. -/
theorem tokens_script {value : Expr} (writable : Writable style.Legible value) :
    Lexer.tokens (style.script value).toList = .ok (style.phraseAt 0 value) := by
  have fits := fits_parenthesize (fits_phrase writable) (style.encloses 0 value)
    (show style.Fits true [] from trivial)
  rw [List.append_nil] at fits
  have length_le := length_le_write fits 1
  rw [script, String.toList_ofList, Lexer.tokens, tokensUpTo_append (style.gap_blank 0)]
  refine tokensUpTo_write fits 1 (length_le.trans ?_)
  rw [List.length_append]
  exact Nat.le_add_left _ _

/-- A script that is written for an expression, with parentheses wherever the precedence of
operators requires them, in any spelling of its tokens and with any blanks between them, is read as
this one expression, or it is refused as too deep. -/
theorem program_script (style : Style) {value : Expr}
    (writable : Writable style.Legible value) :
    Parser.program (style.script value) = .ok [.expr value] ∨
      Parser.program (style.script value) = .error .tooDeep :=
  Parser.yields_program style.toGrouping writable (tokens_script writable)

/-- No blanks, no needless parentheses, and escapes only where they are required. -/
def compact : Style where
  toGrouping := .sparing
  quote := '"'
  quote_eq := .inl rfl
  letter character :=
    if character = '\n' then ['\\', 'n']
    else if character = '"' || character = '\\' then ['\\', character]
    else [character]
  letter_spells character := by
    split_ifs with lineBreak special
    · exact .inr ⟨'n', rfl, lineBreak.symm⟩
    · rcases Bool.or_eq_true_iff.mp special with quote | escape
      · rw [of_decide_eq_true quote]
        exact .inr ⟨'"', rfl, rfl⟩
      · rw [of_decide_eq_true escape]
        exact .inr ⟨'\\', rfl, rfl⟩
    · simp only [Bool.or_eq_true, decide_eq_true_eq, not_or] at special
      exact .inl ⟨rfl, special.1, special.2, lineBreak⟩
  numeral value := (Numeral.display value).toList
  gap _ := []
  gap_blank := by simp

/-- A difference of differences, the last of which needs parentheses. -/
def difference : Expr :=
  .binary .sub (.binary .sub (.name "a") (.literal (.number 1)))
    (.binary .mul (.binary .sub (.name "b") (.name "c")) (.unary .neg (.literal (.number 2.5))))

/-- An assignment of a choice. -/
def choice : Expr :=
  .assign "x" (.ternary
    (.binary .or difference
      (.unary .not (.call "f" [.literal (.text "say \"hi\"\n"), .literal (.boolean true)])))
    (.literal .null)
    (.assign "y" (.literal .undefined)))

theorem program_script_compact :
    compact.script choice =
        "x=a-1-(b-c)*-2.5||!f(\"say \\\"hi\\\"\\n\",true)?null:y=undefined" ∧
      Parser.program (compact.script choice) = .ok [.expr choice] := by
  have one : compact.Legible 1 := by
    have numeral_eq : (Numeral.display 1).toList = ['1'] := by decide +kernel
    exact ⟨'1', [], numeral_eq, by rfl⟩
  have half : compact.Legible 2.5 := by
    have numeral_eq : (Numeral.display 2.5).toList = ['2', '.', '5'] := by decide +kernel
    exact ⟨'2', ['.', '5'], numeral_eq, by rfl⟩
  have letter {name : String} (start : name.toList.map Lexer.isNameStart = [true])
      (noKeyword : Parser.keywords.contains name = false) : IsName name := by
    obtain ⟨first, name_eq, start⟩ := List.map_eq_singleton_iff.mp start
    exact ⟨⟨first, [], name_eq, start, List.forall_mem_nil _⟩, noKeyword⟩
  have called : ∀ argument ∈ [Expr.literal (.text "say \"hi\"\n"), .literal (.boolean true)],
      Writable compact.Legible argument :=
    List.forall_mem_cons.mpr
      ⟨.literal (by simp), List.forall_mem_singleton.mpr (.literal (by simp))⟩
  have differenceWritable : Writable compact.Legible difference :=
    .binary .sub (.binary .sub (.name (letter (by decide) (by decide))) (.number one))
      (.binary .mul (.binary .sub (.name (letter (by decide) (by decide)))
        (.name (letter (by decide) (by decide)))) (.unary .neg (.number half)))
  have choiceWritable : Writable compact.Legible choice :=
    .assign (letter (by decide) (by decide)) (.ternary
      (.binary .or differenceWritable
        (.unary .not (.call (letter (by decide) (by decide)) called)))
      (.literal (by simp))
      (.assign (letter (by decide) (by decide)) (.literal (by simp))))
  have shallow : (Parser.program (compact.script choice)).isOk = true := by decide +kernel
  refine ⟨by decide +kernel, ?_⟩
  rcases program_script compact choiceWritable with read | tooDeep
  · exact read
  · rw [tooDeep] at shallow
    cases shallow

end Style

end Script
end ChatMacro
