/-!
# Searching text

Splitting, finding and replacing inside texts.  Every search answers with the leftmost occurrence,
and a replacement is never searched again.
-/

namespace ChatMacro
namespace Text

/-- What follows `front`, if the text starts with it. -/
def dropFront? : List Char → List Char → Option (List Char)
  | [], text => some text
  | _ :: _, [] => none
  | sought :: front, character :: text =>
      if sought = character then dropFront? front text else none

/-- Whether a text starts with `front`. -/
def startsWith (front text : List Char) : Bool :=
  (dropFront? front text).isSome

/-- Whether a text ends with `back`. -/
def endsWith (back text : List Char) : Bool :=
  startsWith back.reverse text.reverse

/-- The text before and after the leftmost occurrence of `needle`. -/
def breakOn? (needle : List Char) : List Char → Option (List Char × List Char)
  | [] => if needle.isEmpty then some ([], []) else none
  | character :: tail =>
      match dropFront? needle (character :: tail) with
      | some rest => some ([], rest)
      | none =>
          match breakOn? needle tail with
          | some (front, rest) => some (character :: front, rest)
          | none => none

/-- Whether `needle` occurs in a text. -/
def contains (needle text : List Char) : Bool :=
  (breakOn? needle text).isSome

/-- The text after the rightmost occurrence of `needle`. -/
def afterLast? (needle : List Char) : List Char → Option (List Char)
  | [] => if needle.isEmpty then some [] else none
  | character :: tail =>
      match afterLast? needle tail with
      | some rest => some rest
      | none => dropFront? needle (character :: tail)

/-- The parts of a text between the occurrences of `separator`. -/
def splitOn (separator : Char) : List Char → List (List Char)
  | [] => [[]]
  | character :: tail =>
      if character = separator then
        [] :: splitOn separator tail
      else
        match splitOn separator tail with
        | [] => [[character]]
        | part :: parts => (character :: part) :: parts

/-- The text before and after the leftmost `separator`. -/
def splitOnce? (separator : Char) : List Char → Option (List Char × List Char)
  | [] => none
  | character :: tail =>
      if character = separator then
        some ([], tail)
      else
        match splitOnce? separator tail with
        | some (front, rest) => some (character :: front, rest)
        | none => none

/-- Replace the occurrences of `needle` from left to right, `skipped` characters of the current one
being left over. -/
def replaceFrom (needle replacement : List Char) : Nat → List Char → List Char
  | _, [] => []
  | skipped + 1, _ :: tail => replaceFrom needle replacement skipped tail
  | 0, character :: tail =>
      if startsWith needle (character :: tail) then
        replacement ++ replaceFrom needle replacement (needle.length - 1) tail
      else
        character :: replaceFrom needle replacement 0 tail

/-- Replace every occurrence of the nonempty text `needle`. -/
def replaceAll (needle replacement text : List Char) : List Char :=
  replaceFrom needle replacement 0 text

/-- The number of bytes of a text in UTF-8. -/
def byteSize (text : List Char) : Nat :=
  text.foldr (fun character size => character.utf8Size + size) 0

end Text
end ChatMacro
