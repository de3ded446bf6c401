import ChatMacro.Text.Search

/-!
# Lines

A line ends with a line feed, before which one carriage return does not count.  What follows the
last line feed is a line as well, unless it is empty.
-/

namespace ChatMacro
namespace Text

/-- Drop a carriage return at the end of a line. -/
def dropReturn (line : List Char) : List Char :=
  if line.getLast? = some '\r' then line.dropLast else line

/-- The lines among the parts of a text between its line feeds. -/
def linesOfParts : List (List Char) → List (List Char)
  | [] => []
  | [part] => if part.isEmpty then [] else [part]
  | part :: next :: parts => dropReturn part :: linesOfParts (next :: parts)

/-- The lines of a text. -/
def lines (text : List Char) : List (List Char) :=
  linesOfParts (splitOn '\n' text)

end Text
end ChatMacro
