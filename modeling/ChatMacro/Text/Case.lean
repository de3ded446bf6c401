import ChatMacro.Text.Blank
import ChatMacro.Text.Case.Lower
import ChatMacro.Text.Case.Upper
import ChatMacro.Text.Property.CaseIgnorable
import ChatMacro.Text.Property.Cased

/-!
# Case mapping

Full Unicode case mapping of texts.  A character may have a form of several characters, and one
form depends on its neighbours: a capital sigma at the end of a word becomes the final small sigma.
-/

namespace ChatMacro
namespace Text

/-- The form of one character given its runs and its longer forms. -/
def caseForm (runs : List CaseRun) (expansions : List (Nat × List Nat)) (character : Char) :
    List Char :=
  match expansions.lookup character.toNat with
  | some codes => codes.map Char.ofNat
  | none =>
      match runs.findSome? (·.form? character.toNat) with
      | some code => [Char.ofNat code]
      | none => [character]

/-- The uppercase form of one character. -/
def upperForm (character : Char) : List Char :=
  if character.toNat < 128 then [character.toUpper]
  else caseForm upperRuns upperExpansions character

/-- The lowercase form of one character, whatever stands beside it. -/
def lowerForm (character : Char) : List Char :=
  if character.toNat < 128 then [character.toLower]
  else caseForm lowerRuns lowerExpansions character

/-- The uppercase form of a text. -/
def toUpper (text : List Char) : List Char :=
  text.flatMap upperForm

/-- Whether the first character that is not case-ignorable is a cased one. -/
def meetsCased (text : List Char) : Bool :=
  match text.dropWhile (inRanges caseIgnorableRanges) with
  | [] => false
  | character :: _ => inRanges casedRanges character

/-- The lowercase form of a text that follows the reversed text `before`: a capital sigma after a
cased character and before none is final. -/
def toLowerAfter (before : List Char) : List Char → List Char
  | [] => []
  | character :: tail =>
      (if character = 'Σ' then
        if meetsCased before && !meetsCased tail then ['ς'] else ['σ']
      else
        lowerForm character) ++ toLowerAfter (character :: before) tail

/-- The lowercase form of a text. -/
def toLower (text : List Char) : List Char :=
  toLowerAfter [] text

end Text
end ChatMacro
