/-!
# Blank characters

A character is blank when it has the Unicode property `White_Space`.  Blank text separates the
words of a name, surrounds operands and fallbacks, and stands between the tokens of a script.
-/

namespace ChatMacro
namespace Text

/-- The inclusive ranges of the Unicode property `White_Space`. -/
def blankRanges : List (Nat × Nat) :=
  [(9, 13), (32, 32), (133, 133), (160, 160), (5760, 5760), (8192, 8202), (8232, 8233),
   (8239, 8239), (8287, 8287), (12288, 12288)]

/-- Membership of a character in a list of inclusive code point ranges. -/
def inRanges (ranges : List (Nat × Nat)) (character : Char) : Bool :=
  ranges.any fun range => range.1 ≤ character.toNat && character.toNat ≤ range.2

/-- Whether a character has the Unicode property `White_Space`. -/
def isBlank (character : Char) : Bool :=
  inRanges blankRanges character

/-- Whether a text holds blank characters only. -/
def allBlank (text : List Char) : Bool :=
  text.all isBlank

/-- Drop the blank characters in front. -/
def trimStart (text : List Char) : List Char :=
  text.dropWhile isBlank

/-- Drop the blank characters at the end. -/
def trimEnd (text : List Char) : List Char :=
  (text.reverse.dropWhile isBlank).reverse

/-- Drop the blank characters on both sides. -/
def trim (text : List Char) : List Char :=
  trimEnd (trimStart text)

/-- The maximal runs of characters that are not blank, from left to right. -/
def words : List Char → List (List Char)
  | [] => []
  | character :: tail =>
      if isBlank character then
        words tail
      else
        match tail, words tail with
        | next :: _, word :: others =>
            if isBlank next then [character] :: word :: others else (character :: word) :: others
        | _, others => [character] :: others

end Text
end ChatMacro
