import ChatMacro.Proofs.Script.Spelling

/-!
# Capturing interpolations

The source of an interpolation ends at the first closing brace that is neither inside braces nor
inside a string.  To find it the lexer counts braces and remembers one open quote, and a template
literal counts as a string.  Behind a whole source, nothing may be open, and then the source is
captured as it stands; otherwise it never is.
-/

namespace ChatMacro
namespace Script
namespace Lexer

/-- What is open behind a character outside strings, if it does not end the interpolation: a number
of braces, and perhaps a string with a given quote. -/
def openAfter (braces : Nat) (character : Char) : Option (Nat × Option Char) :=
  if isQuote character then some (braces, some character)
  else if character = '\x7b' then some (braces + 1, none)
  else if character = '\x7d' then
    match braces with
    | 0 => none
    | braces + 1 => some (braces, none)
  else some (braces, none)

/-- What is open behind a text in the source of an interpolation.  Nothing is known if the text ends
the interpolation, or if it ends with the backslash of an escape. -/
def openBehind : Nat → Option Char → List Char → Option (Nat × Option Char)
  | braces, quote, [] => some (braces, quote)
  | _, some _, ['\\'] => none
  | braces, some quote, '\\' :: _ :: tail => openBehind braces (some quote) tail
  | braces, some quote, character :: tail =>
      openBehind braces (if character = quote then none else some quote) tail
  | braces, none, character :: tail =>
      match openAfter braces character with
      | none => none
      | some (braces, quote) => openBehind braces quote tail

/-- Nothing is open behind a text, and it does not end an interpolation. -/
def Balanced (text : List Char) : Prop :=
  openBehind 0 none text = some (0, none)

instance (text : List Char) : Decidable (Balanced text) :=
  inferInstanceAs (Decidable (_ = _))

/-- The script that interpolates a source in a template literal and does nothing else. -/
def interpolate (code : String) : String :=
  String.ofList ('\x60' :: '$' :: '\x7b' :: (code.toList ++ ['\x7d', '\x60']))

/-! ## Reading template literals -/

section

variable {pieces result : List TemplatePiece} {mode : TemplateMode} {text rest : List Char}

theorem prefix_addText (pieces : List TemplatePiece) (collected : List Char) :
    pieces <+: addText pieces collected := by
  rw [addText]
  split
  · exact List.prefix_rfl
  · exact List.prefix_append _ _

/-- A template literal keeps the pieces that it has. -/
theorem prefix_of_readTemplate (read : readTemplate pieces mode text = .ok (result, rest)) :
    pieces <+: result := by
  fun_induction readTemplate pieces mode text with
  | case1 | case3 | case7 => cases read
  | case2 pieces collected =>
      cases read
      exact prefix_addText pieces collected
  | case5 pieces collected tail ih => exact (prefix_addText pieces collected).trans (ih read)
  | case12 pieces collected tail _ _ ih => exact (List.prefix_append _ _).trans (ih read)
  | _ =>
      rename_i ih
      exact ih read

/-- A template literal leaves an end of its text. -/
theorem suffix_of_readTemplate (read : readTemplate pieces mode text = .ok (result, rest)) :
    rest <:+ text := by
  fun_induction readTemplate pieces mode text with
  | case1 | case3 | case7 => cases read
  | case2 =>
      cases read
      exact List.suffix_cons _ _
  | case4 | case5 | case8 =>
      rename_i ih
      exact (ih read).trans (List.suffix_append [_, _] _)
  | _ =>
      rename_i ih
      exact (ih read).trans (List.suffix_cons _ _)

/-- What is collected of a source becomes part of a piece. -/
theorem exists_source_of_readTemplate {collected : List Char} {braces : Nat} {quote : Option Char}
    (read : readTemplate pieces (.source collected braces quote) text = .ok (result, rest)) :
    ∃ code, .source code ∈ result ∧ ∀ character ∈ collected, character ∈ code.toList := by
  generalize mode_eq : TemplateMode.source collected braces quote = mode at read
  fun_induction readTemplate pieces mode text generalizing collected braces quote with
  | case1 | case7 => cases read
  | case2 | case3 | case4 | case5 | case6 => cases mode_eq
  | case12 pieces collected tail _ _ ih =>
      cases mode_eq
      have kept := prefix_of_readTemplate read
      refine ⟨_, kept.subset (List.mem_append_right _ (List.mem_singleton_self _)), ?_⟩
      simp
  | case8 pieces collected braces quote character tail ih =>
      cases mode_eq
      obtain ⟨code, member, includes⟩ := ih rfl read
      exact ⟨code, member, (List.forall_mem_cons.mp (List.forall_mem_cons.mp includes).2).2⟩
  | _ =>
      rename_i ih
      cases mode_eq
      obtain ⟨code, member, includes⟩ := ih rfl read
      exact ⟨code, member, (List.forall_mem_cons.mp includes).2⟩

/-- A literal to which no piece is added ends at once. -/
theorem ended_of_readTemplate (read : readTemplate pieces mode text = .ok (result, rest))
    (same : result.length ≤ pieces.length) : mode = .text [] ∧ text = '\x60' :: rest := by
  fun_induction readTemplate pieces mode text with
  | case1 | case3 | case7 => cases read
  | case2 pieces collected tail =>
      cases read
      cases collected with
      | nil => exact ⟨rfl, rfl⟩
      | cons character collected => simp [addText] at same
  | case4 pieces collected character tail ih => cases (ih read same).1
  | case5 pieces collected tail ih =>
      cases (ih read (same.trans (prefix_addText pieces collected).length_le)).1
  | case6 pieces collected character tail _ _ _ _ ih => cases (ih read same).1
  | case12 pieces collected tail =>
      have kept := (prefix_of_readTemplate read).length_le
      rw [List.length_append] at kept
      exact absurd (kept.trans same) (Nat.not_succ_le_self _)
  | _ =>
      rename_i ih
      cases (ih read same).1

end

/-! ## Whole sources -/

section

variable {pieces result : List TemplatePiece} {braces after : Nat} {quote last : Option Char}
  {character : Char} {text rest : List Char}

theorem readTemplate_unquoted (opened : openAfter braces character = some (after, quote))
    (collected : List Char) :
    readTemplate pieces (.source collected braces none) (character :: text) =
      readTemplate pieces (.source (character :: collected) after quote) text := by
  cases braces with
  | zero | succ braces =>
      rw [openAfter] at opened
      rw [readTemplate]
      split_ifs at opened ⊢ <;> cases opened <;> rfl

theorem readTemplate_end (ended : openAfter braces character = none) (collected : List Char) :
    readTemplate pieces (.source collected braces none) (character :: text) =
      readTemplate (pieces ++ [.source (String.ofList collected.reverse)]) (.text []) text := by
  cases braces with
  | zero =>
      rw [openAfter] at ended
      rw [readTemplate]
      split_ifs at ended ⊢
      rfl
  | succ braces =>
      rw [openAfter] at ended
      split_ifs at ended

theorem readTemplate_quoted (noEscape : character ≠ '\\') (mark : Char) (collected : List Char) :
    readTemplate pieces (.source collected braces (some mark)) (character :: text) =
      readTemplate pieces
        (.source (character :: collected) braces (if character = mark then none else some mark))
        text := by
  rw [readTemplate]
  · exact fun escape _ => noEscape escape
  · exact fun _ _ escape _ => noEscape escape

theorem openBehind_quoted (noEscape : character ≠ '\\') (mark : Char) :
    openBehind braces (some mark) (character :: text) =
      openBehind braces (if character = mark then none else some mark) text := by
  rw [openBehind]
  · exact fun escape _ => noEscape escape
  · exact fun _ _ escape _ => noEscape escape

theorem ne_escape_of_unescaped (notLast : character = '\\' → text = [] → False)
    (notEscaping : ∀ next tail, character = '\\' → text = next :: tail → False) :
    character ≠ '\\' := by
  intro escape
  cases text with
  | nil => exact notLast escape rfl
  | cons next tail => exact notEscaping next tail escape rfl

/-- Behind a text that does not end the interpolation, the reader knows what is open. -/
theorem readTemplate_source (opened : openBehind braces quote text = some (after, last))
    (collected rest : List Char) :
    readTemplate pieces (.source collected braces quote) (text ++ rest) =
      readTemplate pieces (.source (text.reverse ++ collected) after last) rest := by
  fun_induction openBehind braces quote text generalizing collected with
  | case1 =>
      cases opened
      rfl
  | case2 | case5 => cases opened
  | case3 braces mark character tail ih =>
      have read := ih opened (character :: '\\' :: collected)
      simpa [readTemplate] using read
  | case4 braces mark character tail notLast notEscaping ih =>
      have read := ih opened (character :: collected)
      rw [List.cons_append, readTemplate_quoted (ne_escape_of_unescaped notLast notEscaping), read]
      simp
  | case6 braces character tail after mark opensAfter ih =>
      have read := ih opened (character :: collected)
      rw [List.cons_append, readTemplate_unquoted opensAfter, read]
      simp

/-- If a text and the two characters that end the literal are one interpolation, nothing is open
behind the text. -/
theorem openBehind_of_readTemplate (pieces : List TemplatePiece) {collected : List Char}
    {source : String}
    (read : readTemplate pieces (.source collected braces quote) (text ++ ['\x7d', '\x60']) =
      .ok (pieces ++ [.source source], [])) :
    openBehind braces quote text = some (0, none) := by
  fun_induction openBehind braces quote text generalizing collected with
  | case1 braces quote =>
      cases quote with
      | none =>
          cases braces with
          | zero => rfl
          | succ braces => cases read
      | some mark =>
          rw [List.nil_append, readTemplate_quoted (by decide)] at read
          split at read
          · cases read
          · rw [readTemplate_quoted (by decide)] at read
            split at read <;> cases read
  | case2 => cases read
  | case3 braces mark character tail ih =>
      rw [List.cons_append, List.cons_append, readTemplate] at read
      exact ih read
  | case4 braces mark character tail notLast notEscaping ih =>
      rw [List.cons_append,
        readTemplate_quoted (ne_escape_of_unescaped notLast notEscaping)] at read
      exact ih read
  | case5 braces character tail ends =>
      rw [List.cons_append, readTemplate_end ends] at read
      have ended := (ended_of_readTemplate read (by simp)).2
      cases tail with
      | nil => cases ended
      | cons next tail => simp at ended
  | case6 braces character tail after mark opensAfter ih =>
      rw [List.cons_append, readTemplate_unquoted opensAfter] at read
      exact ih read

end

/-! ## Scripts of one literal -/

section

variable {character : Char} {text rest : List Char}

theorem eq_of_symbol? {symbol : Symbol} (read : symbol? text = some (symbol, rest)) :
    text = spellSymbol symbol ++ rest := by
  unfold symbol? at read
  split at read <;> cases read <;> rfl

/-- Only its spelling is read as a symbol. -/
theorem eq_of_readToken {tail : List Char} {symbol : Symbol}
    (read : readToken character tail = .ok (.symbol symbol, rest)) :
    character :: tail = spellSymbol symbol ++ rest := by
  cases takes_of_readToken read with
  | symbol found => exact eq_of_symbol? found

theorem suffix_of_readString {quote : Char} {content : List Char}
    (read : readString quote text = .ok (content, rest)) : rest <:+ text := by
  fun_induction readString quote text generalizing content with
  | case1 | case2 | case3 => cases read
  | case4 next tail ih =>
      obtain ⟨⟨others, last⟩, later, read⟩ := Outcome.exists_of_bind_eq_ok read
      cases read
      exact (ih later).trans (List.suffix_append [_, _] _)
  | case5 =>
      cases read
      exact List.suffix_cons _ _
  | case6 next tail _ _ _ _ ih =>
      obtain ⟨⟨others, last⟩, later, read⟩ := Outcome.exists_of_bind_eq_ok read
      cases read
      exact (ih later).trans (List.suffix_cons _ _)

/-- The digits that start a number are taken, and perhaps a point with other digits. -/
theorem readNumber_cases {value : Float} (read : readNumber text = (value, rest)) :
    rest = text.dropWhile Char.isDigit ∨
      ∃ tail, text.dropWhile Char.isDigit = '.' :: tail ∧ rest = tail.dropWhile Char.isDigit := by
  rw [readNumber, Numeral.spanDigits] at read
  dsimp only at read
  split at read
  next tail after =>
    cases fraction : tail.takeWhile Char.isDigit with
    | nil =>
        rw [Numeral.spanDigits, fraction] at read
        cases read
        exact .inl rfl
    | cons digit digits =>
        rw [Numeral.spanDigits, fraction] at read
        cases read
        exact .inr ⟨tail, after, rfl⟩
  next =>
    cases read
    exact .inl rfl

/-- A token takes its first character and leaves an end of the text behind it. -/
theorem suffix_of_readToken {tail : List Char} {token : Token}
    (read : readToken character tail = .ok (token, rest)) : rest <:+ tail := by
  cases takes_of_readToken read with
  | number digit numeral =>
      have suffix : rest <:+ (character :: tail).dropWhile Char.isDigit := by
        rcases readNumber_cases numeral with rfl | ⟨more, after, rfl⟩
        · exact List.suffix_rfl
        · rw [after]
          exact (List.dropWhile_suffix _).trans (List.suffix_cons _ _)
      rw [List.dropWhile_cons_of_pos digit] at suffix
      exact suffix.trans (List.dropWhile_suffix _)
  | string quote content => exact suffix_of_readString content
  | template backquote literal => exact suffix_of_readTemplate literal
  | name start rest_eq => exact rest_eq ▸ List.dropWhile_suffix _
  | @symbol symbol found =>
      have text_eq := eq_of_symbol? found
      cases symbol <;> cases text_eq <;> simp [List.suffix_cons_iff]

/-- A text is cut into tokens one by one. -/
inductive Lexed : List Char → List Token → Prop where
  | ended {text : List Char} (blank : text.dropWhile Text.isBlank = []) : Lexed text []
  | next {text tail rest : List Char} {character : Char} {token : Token} {others : List Token}
      (starts : text.dropWhile Text.isBlank = character :: tail)
      (read : readToken character tail = .ok (token, rest)) (later : Lexed rest others) :
      Lexed text (token :: others)

theorem lexed_of_tokensUpTo {limit : Nat} {tokens : List Token}
    (lexed : tokensUpTo limit text = .ok tokens) (enough : text.length ≤ limit) :
    Lexed text tokens := by
  induction limit generalizing text tokens with
  | zero =>
      obtain rfl := List.length_eq_zero_iff.mp (Nat.le_zero.mp enough)
      cases lexed
      exact .ended rfl
  | succ limit ih =>
      have shorter := (List.length_dropWhile_le Text.isBlank text).trans enough
      rw [tokensUpTo] at lexed
      split at lexed
      next blank =>
        cases lexed
        exact .ended blank
      next character tail starts =>
        obtain ⟨⟨token, rest⟩, read, lexed⟩ := Outcome.exists_of_bind_eq_ok lexed
        obtain ⟨others, later, tokens_eq⟩ := Outcome.exists_of_bind_eq_ok lexed
        cases tokens_eq
        rw [starts] at shorter
        have rest_le := (suffix_of_readToken read).length_le
        exact .next starts read (ih later (rest_le.trans (Nat.le_of_succ_le_succ shorter)))

/-- No backquote stands in a text of semicolons. -/
theorem Lexed.notMem {tokens : List Token} (lexed : Lexed text tokens)
    (semicolons : ∀ token ∈ tokens, token = .symbol .semi) : '\x60' ∉ text := by
  have solid {text : List Char} : '\x60' ∉ text.takeWhile Text.isBlank := fun member =>
    absurd (List.mem_takeWhile_imp member) (by decide)
  induction lexed with
  | @ended text blank =>
      rw [← List.takeWhile_append_dropWhile (p := Text.isBlank) (l := text), blank,
        List.append_nil]
      exact solid
  | @next text tail rest character token others starts read later ih =>
      obtain ⟨rfl, othersSemicolons⟩ := List.forall_mem_cons.mp semicolons
      have text_eq : character :: tail = ';' :: rest := eq_of_readToken read
      rw [← List.takeWhile_append_dropWhile (p := Text.isBlank) (l := text), starts, text_eq]
      intro member
      rcases List.mem_append.mp member with member | member
      · exact solid member
      · rcases List.mem_cons.mp member with same | member
        · exact absurd same (by decide)
        · exact ih othersSemicolons member

theorem tokens_interpolate (code : String) :
    tokens (interpolate code).toList = (do
      let (pieces, rest) ←
        readTemplate [] (.source [] 0 none) (code.toList ++ ['\x7d', '\x60'])
      let others ← tokensUpTo (code.toList.length + 4) rest
      return .template pieces :: others) := by
  have length_eq : (interpolate code).toList.length = code.toList.length + 4 + 1 := by
    rw [interpolate, String.toList_ofList]
    simp
  have read : readToken '\x60' ('$' :: '\x7b' :: (code.toList ++ ['\x7d', '\x60'])) =
      (readTemplate [] (.source [] 0 none) (code.toList ++ ['\x7d', '\x60'])).map
        fun (pieces, rest) => (.template pieces, rest) := rfl
  rw [tokens, length_eq, interpolate, String.toList_ofList, tokensUpTo,
    List.dropWhile_cons_of_neg (by decide)]
  dsimp only
  rw [read]
  cases readTemplate [] (.source [] 0 none) (code.toList ++ ['\x7d', '\x60']) <;> rfl

/-- If the literal is one interpolation, and nothing but semicolons follows it, then nothing is open
behind the source that was written into it. -/
theorem balanced_of_tokens_interpolate {code source : String} {more : List Token}
    (lexed : tokens (interpolate code).toList = .ok (.template [.source source] :: more))
    (semicolons : ∀ token ∈ more, token = .symbol .semi) : Balanced code.toList := by
  rw [tokens_interpolate] at lexed
  obtain ⟨⟨pieces, rest⟩, read, lexed⟩ := Outcome.exists_of_bind_eq_ok lexed
  obtain ⟨others, othersLexed, lexed⟩ := Outcome.exists_of_bind_eq_ok lexed
  cases lexed
  have suffix := suffix_of_readTemplate read
  have enough : rest.length ≤ code.toList.length + 4 := suffix.length_le.trans (by simp)
  have noBackquote := (lexed_of_tokensUpTo othersLexed enough).notMem semicolons
  -- What the literal left over would end with the last backquote.
  have rest_eq : rest = [] := by
    by_contra nonempty
    have last : rest.getLast nonempty = '\x60' := by
      rw [suffix.getLast nonempty]
      simp
    exact noBackquote (last ▸ List.getLast_mem nonempty)
  rw [rest_eq] at read
  exact openBehind_of_readTemplate [] read

/-- The source of an interpolation is captured as it stands if and only if nothing is open behind
it. -/
theorem tokens_interpolate_iff (code : String) :
    tokens (interpolate code).toList = .ok [.template [.source code]] ↔
      Balanced code.toList := by
  refine ⟨fun lexed => balanced_of_tokens_interpolate lexed (List.forall_mem_nil _), ?_⟩
  intro balanced
  rw [tokens_interpolate, readTemplate_source balanced]
  have code_eq : String.ofList (code.toList.reverse ++ []).reverse = code := by simp
  rw [readTemplate_end rfl, code_eq]
  rfl

end

end Lexer
end Script
end ChatMacro
