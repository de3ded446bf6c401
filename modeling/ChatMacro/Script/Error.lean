import ChatMacro.Script.Token

/-!
# Script errors

The causes for which a script is refused or stops, and their messages.
-/

namespace ChatMacro
namespace Script

/-- The greatest number of levels to which expressions may be nested. -/
def maxDepth : Nat := 64

/-- The greatest number of characters of a text that a script builds. -/
def maxLength : Nat := 10000

/-- Why a script cannot be read.  The token that was met is missing at the end of the script. -/
inductive SyntaxError where
  | unterminatedString
  | unterminatedTemplate
  | unexpectedCharacter (character : Char)
  | expectedSemicolon (found : Option Token)
  | expectedName (found : Option Token)
  | expectedColon (found : Option Token)
  | expectedParenthesis (found : Option Token)
  | expectedArgumentsEnd (function : String) (found : Option Token)
  | unexpectedKeyword (name : String)
  | unexpectedToken (found : Option Token)
  | unexpectedInInterpolation (found : Token)
  deriving DecidableEq

/-- Why a script stops while it runs. -/
inductive RunError where
  | undefinedName (name : String)
  | notAFunction (name : String)
  | tooLong (producer : String)
  | missingArgument (function : String) (index : Nat)
  | invalidCount (function : String) (count : Float)
  | emptyRange (function : String) (low high : Float)
  | nothingToPick (function : String)
  deriving DecidableEq

/-- Why a script has no value. -/
inductive Error where
  | parsing (cause : SyntaxError)
  | running (cause : RunError)
  | tooDeep
  deriving DecidableEq

namespace SyntaxError

/-- The message of a syntax error after its heading. -/
def detail : SyntaxError → String
  | unterminatedString => "unterminated string"
  | unterminatedTemplate => "unterminated template literal"
  | unexpectedCharacter character => "unexpected character " ++ Text.quotedChar character
  | expectedSemicolon found => "expected ';', found " ++ Token.describeNext found
  | expectedName found => "expected a name after declaration, found " ++ Token.describeNext found
  | expectedColon found => "expected ':' in ternary, found " ++ Token.describeNext found
  | expectedParenthesis found => "expected ')', found " ++ Token.describeNext found
  | expectedArgumentsEnd function found =>
      "expected ')' after arguments to " ++ function ++ ", found " ++ Token.describeNext found
  | unexpectedKeyword name => "unexpected `" ++ name ++ "`"
  | unexpectedToken found => "unexpected token " ++ Token.describeNext found
  | unexpectedInInterpolation found =>
      "unexpected " ++ found.describe ++ " in template interpolation"

end SyntaxError

namespace RunError

/-- The message of an error while a script runs. -/
def message : RunError → String
  | undefinedName name => name ++ " is not defined"
  | notAFunction name => name ++ " is not a function"
  | tooLong producer =>
      producer ++ ": result longer than " ++ toString maxLength ++ " characters"
  | missingArgument function index =>
      function ++ ": argument " ++ toString index ++ " missing"
  | invalidCount function count =>
      function ++ ": invalid count " ++ Numeral.write Numeral.plain count
  | emptyRange function low high =>
      function ++ ": empty range " ++ Numeral.write Numeral.plain low ++ "..=" ++
        Numeral.write Numeral.plain high
  | nothingToPick function => function ++ ": nothing to pick from"

end RunError

/-- The message of an error. -/
def Error.message : Error → String
  | parsing cause => "syntax error: " ++ cause.detail
  | running cause => cause.message
  | tooDeep => "expression nested deeper than " ++ toString maxDepth ++ " levels"

end Script
end ChatMacro
