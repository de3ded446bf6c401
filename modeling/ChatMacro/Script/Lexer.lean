import ChatMacro.Script.Error
import ChatMacro.Text.Letter

/-!
# Lexing scripts

A script is cut into tokens from left to right; blanks separate tokens and are dropped.  Each step
takes the longest token that the rules of its first character admit.
-/

namespace ChatMacro
namespace Script
namespace Lexer

/-- The character that a backslash and a character stand for. -/
def escape : Char → Char
  | 'n' => '\n'
  | 't' => '\t'
  | 'r' => '\r'
  | '0' => '\x00'
  | character => character

/-- The content of a string up to its closing quote, on one line. -/
def readString (quote : Char) : List Char → Except SyntaxError (List Char × List Char)
  | [] => .error .unterminatedString
  | '\n' :: _ => .error .unterminatedString
  | ['\\'] => .error .unterminatedString
  | '\\' :: character :: tail => do
      let (text, rest) ← readString quote tail
      return (escape character :: text, rest)
  | character :: tail =>
      if character = quote then
        return ([], tail)
      else do
        let (text, rest) ← readString quote tail
        return (character :: text, rest)

/-- The text that is collected so far as the next piece of a template literal, if there is any. -/
def addText (pieces : List TemplatePiece) (collected : List Char) : List TemplatePiece :=
  if collected.isEmpty then pieces
  else pieces ++ [.text (String.ofList collected.reverse)]

/-- Where in a template literal the reading stands.  Collected characters are reversed. -/
inductive TemplateMode where
  /-- In literal text. -/
  | text (collected : List Char)
  /-- In the source of an interpolation, with the number of braces open inside it and the quote of
  the string inside it, if one is open. -/
  | source (collected : List Char) (braces : Nat) (quote : Option Char)

/-- Whether a character opens a string or a template literal inside an interpolation. -/
def isQuote (character : Char) : Bool :=
  character = '\'' || character = '"' || character = '\x60'

/-- The pieces of a template literal up to its closing backquote.  A brace inside a string inside an
interpolation does not close the interpolation. -/
def readTemplate (pieces : List TemplatePiece) :
    TemplateMode → List Char → Except SyntaxError (List TemplatePiece × List Char)
  | _, [] => .error .unterminatedTemplate
  | .text collected, '\x60' :: rest => .ok (addText pieces collected, rest)
  | .text _, ['\\'] => .error .unterminatedTemplate
  | .text collected, '\\' :: character :: tail =>
      readTemplate pieces (.text (escape character :: collected)) tail
  | .text collected, '$' :: '\x7b' :: tail =>
      readTemplate (addText pieces collected) (.source [] 0 none) tail
  | .text collected, character :: tail =>
      readTemplate pieces (.text (character :: collected)) tail
  | .source _ _ (some _), ['\\'] => .error .unterminatedTemplate
  | .source collected braces (some quote), '\\' :: character :: tail =>
      readTemplate pieces (.source (character :: '\\' :: collected) braces (some quote)) tail
  | .source collected braces (some quote), character :: tail =>
      readTemplate pieces
        (.source (character :: collected) braces (if character = quote then none else some quote))
        tail
  | .source collected braces none, character :: tail =>
      if isQuote character then
        readTemplate pieces (.source (character :: collected) braces (some character)) tail
      else if character = '\x7b' then
        readTemplate pieces (.source (character :: collected) (braces + 1) none) tail
      else if character = '\x7d' then
        match braces with
        | 0 =>
            readTemplate (pieces ++ [.source (String.ofList collected.reverse)]) (.text []) tail
        | braces + 1 =>
            readTemplate pieces (.source (character :: collected) braces none) tail
      else
        readTemplate pieces (.source (character :: collected) braces none) tail

/-- Whether a name may start with a character. -/
def isNameStart (character : Char) : Bool :=
  Text.isLetter character || character = '_' || character = '$'

/-- Whether a name may go on with a character. -/
def isNamePart (character : Char) : Bool :=
  Text.isLetterOrNumber character || character = '_' || character = '$'

/-- The number at the start of a text: digits, and a point if digits follow it. -/
def readNumber (text : List Char) : Float × List Char :=
  let (digits, rest) := Numeral.spanDigits text
  match rest with
  | '.' :: tail =>
      match Numeral.spanDigits tail with
      | ([], _) => (Numeral.valueWith digits [] 0, rest)
      | (fraction, rest) => (Numeral.valueWith digits fraction 0, rest)
  | _ => (Numeral.valueWith digits [] 0, rest)

/-- The longest symbol at the start of a text. -/
def symbol? : List Char → Option (Symbol × List Char)
  | '!' :: '=' :: '=' :: rest => some (.strictNe, rest)
  | '!' :: '=' :: rest => some (.ne, rest)
  | '!' :: rest => some (.bang, rest)
  | '=' :: '=' :: '=' :: rest => some (.strictEq, rest)
  | '=' :: '=' :: rest => some (.eq, rest)
  | '=' :: rest => some (.assign, rest)
  | '<' :: '=' :: rest => some (.le, rest)
  | '<' :: rest => some (.lt, rest)
  | '>' :: '=' :: rest => some (.ge, rest)
  | '>' :: rest => some (.gt, rest)
  | '&' :: '&' :: rest => some (.and, rest)
  | '|' :: '|' :: rest => some (.or, rest)
  | '+' :: rest => some (.plus, rest)
  | '-' :: rest => some (.minus, rest)
  | '*' :: rest => some (.star, rest)
  | '/' :: rest => some (.slash, rest)
  | '%' :: rest => some (.percent, rest)
  | '?' :: rest => some (.question, rest)
  | ':' :: rest => some (.colon, rest)
  | ',' :: rest => some (.comma, rest)
  | ';' :: rest => some (.semi, rest)
  | '(' :: rest => some (.leftParen, rest)
  | ')' :: rest => some (.rightParen, rest)
  | _ => none

/-- The token at the start of a text that is not blank there. -/
def readToken (character : Char) (tail : List Char) : Except SyntaxError (Token × List Char) :=
  if character.isDigit then
    let (value, rest) := readNumber (character :: tail)
    .ok (.number value, rest)
  else if character = '"' || character = '\'' then
    (readString character tail).map fun (text, rest) => (.string (String.ofList text), rest)
  else if character = '\x60' then
    (readTemplate [] (.text []) tail).map fun (pieces, rest) => (.template pieces, rest)
  else if isNameStart character then
    .ok (.name (String.ofList (character :: tail.takeWhile isNamePart)), tail.dropWhile isNamePart)
  else
    match symbol? (character :: tail) with
    | some (symbol, rest) => .ok (.symbol symbol, rest)
    | none => .error (.unexpectedCharacter character)

/-- The first tokens of a text, at most `limit` of them. -/
def tokensUpTo : Nat → List Char → Except SyntaxError (List Token)
  | 0, _ => .ok []
  | limit + 1, text =>
      match text.dropWhile Text.isBlank with
      | [] => .ok []
      | character :: tail => do
          let (token, rest) ← readToken character tail
          let tokens ← tokensUpTo limit rest
          return token :: tokens

/-- The tokens of a text. -/
def tokens (text : List Char) : Except SyntaxError (List Token) :=
  tokensUpTo text.length text

end Lexer
end Script
end ChatMacro
