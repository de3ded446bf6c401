import ChatMacro.Text.Search

/-!
# Words of a directive

A directive is followed by words with gaps between them.  A part of a word in double quotes may hold
gaps, and there a backslash stands before a character that is meant as it is.  Quotes around nothing
make an empty word.
-/

namespace ChatMacro
namespace Directive

/-- Whether a character stands between words: a blank, a tab, a form feed or the end of a line. -/
def isGap (character : Char) : Bool :=
  character = ' ' || character = '\t' || character = '\n' || character = '\x0c' || character = '\r'

/-- How the next character is read. -/
inductive WordMode where
  /-- Outside quotes. -/
  | plain
  /-- Inside quotes. -/
  | quoted
  /-- After a backslash inside quotes. -/
  | escaped
  deriving DecidableEq, Repr

/-- Put a character at the end of a word that may have to be started. -/
def extend (word : Option (List Char)) (character : Char) : Option (List Char) :=
  some (word.getD [] ++ [character])

/-- The words of a text, the first of which may have been started. -/
def wordsFrom (mode : WordMode) (word : Option (List Char)) : List Char → List (List Char)
  | [] => word.toList
  | character :: tail =>
      match mode with
      | .plain =>
          if character = '"' then wordsFrom .quoted (some (word.getD [])) tail
          else if isGap character then word.toList ++ wordsFrom .plain none tail
          else wordsFrom .plain (extend word character) tail
      | .quoted =>
          if character = '"' then wordsFrom .plain word tail
          else if character = '\\' then wordsFrom .escaped word tail
          else wordsFrom .quoted (extend word character) tail
      | .escaped => wordsFrom .quoted (extend word character) tail

/-- The words of a text. -/
def words (text : List Char) : List String :=
  (wordsFrom .plain none text).map String.ofList

end Directive
end ChatMacro
