import ChatMacro.Number.Numeral
import ChatMacro.Text.Quoted

/-!
# Script tokens

The tokens of a script, and how messages show them.  A template literal is one token: the sources of
its interpolations are kept as text until they are parsed.
-/

namespace ChatMacro
namespace Script

/-- Operators and punctuation. -/
inductive Symbol where
  | plus
  | minus
  | star
  | slash
  | percent
  | bang
  | eq
  | ne
  | strictEq
  | strictNe
  | lt
  | le
  | gt
  | ge
  | and
  | or
  | assign
  | question
  | colon
  | comma
  | semi
  | leftParen
  | rightParen
  deriving DecidableEq, Repr

/-- A piece of a template literal. -/
inductive TemplatePiece where
  /-- Literal text. -/
  | text (value : String)
  /-- Source of an interpolation. -/
  | source (code : String)
  deriving DecidableEq, Repr

/-- A token. -/
inductive Token where
  | number (value : Float)
  | string (value : String)
  | template (pieces : List TemplatePiece)
  | name (value : String)
  | symbol (value : Symbol)
  deriving DecidableEq

namespace Symbol

/-- The name of a symbol in messages. -/
def describe : Symbol → String
  | plus => "Plus"
  | minus => "Minus"
  | star => "Star"
  | slash => "Slash"
  | percent => "Percent"
  | bang => "Bang"
  | eq => "Eq"
  | ne => "Ne"
  | strictEq => "StrictEq"
  | strictNe => "StrictNe"
  | lt => "Lt"
  | le => "Le"
  | gt => "Gt"
  | ge => "Ge"
  | and => "And"
  | or => "Or"
  | assign => "Assign"
  | question => "Question"
  | colon => "Colon"
  | comma => "Comma"
  | semi => "Semi"
  | leftParen => "LParen"
  | rightParen => "RParen"

end Symbol

/-- A piece of a template literal in messages. -/
def TemplatePiece.describe : TemplatePiece → String
  | text value => "Text(" ++ Text.quoted value ++ ")"
  | source code => "Source(" ++ Text.quoted code ++ ")"

namespace Token

/-- A token in messages. -/
def describe : Token → String
  | number value => "Num(" ++ Numeral.write Numeral.shown value ++ ")"
  | string value => "Str(" ++ Text.quoted value ++ ")"
  | template pieces =>
      "Template([" ++ ", ".intercalate (pieces.map TemplatePiece.describe) ++ "])"
  | name value => "Ident(" ++ Text.quoted value ++ ")"
  | symbol value => value.describe

/-- The next token in messages, where the end of a script counts as one. -/
def describeNext : Option Token → String
  | some token => token.describe
  | none => "Eof"

end Token
end Script
end ChatMacro
