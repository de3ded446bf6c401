import ChatMacro.Handler.Chain
import ChatMacro.Text.Search

/-!
# Substitution

Words of a draft are replaced in one pass from left to right.  At each place the longest pattern
that matches is replaced, letters of either size counting as equal in ASCII, and the replacement is
not looked at again.  Of equal patterns the first counts, and empty patterns do not count.
-/

namespace ChatMacro
namespace Substitution

/-- A pattern and its replacement. -/
abbrev Rule := List Char × List Char

/-- Whether a text starts with a pattern, apart from the size of ASCII letters. -/
def matchesAt : List Char → List Char → Bool
  | [], _ => true
  | _ :: _, [] => false
  | sought :: pattern, character :: text =>
      sought.toLower = character.toLower && matchesAt pattern text

/-- The rule with the longest nonempty pattern that a text starts with, the first of several. -/
def longest? (rules : List Rule) (text : List Char) : Option Rule :=
  rules.foldl
    (fun best rule =>
      if rule.1.isEmpty || !matchesAt rule.1 text then best
      else
        match best with
        | none => some rule
        | some former => if former.1.length < rule.1.length then some rule else some former)
    none

/-- Replace from left to right, `skipped` characters of the current match being left over. -/
def applyFrom (rules : List Rule) : Nat → List Char → List Char
  | _, [] => []
  | skipped + 1, _ :: tail => applyFrom rules skipped tail
  | 0, character :: tail =>
      match longest? rules (character :: tail) with
      | some rule => rule.2 ++ applyFrom rules (rule.1.length - 1) tail
      | none => character :: applyFrom rules 0 tail

/-- Replace the patterns in a text. -/
def apply (pairs : List (String × String)) (text : String) : String :=
  let rules := pairs.map fun pair => (pair.1.toList, pair.2.toList)
  String.ofList (applyFrom rules 0 text.toList)

/-- The handler that replaces the patterns in a draft. -/
def handler (pairs : List (String × String)) : Handler String where
  name := "replace"
  handle _ draft := (apply pairs draft, .proceed)

end Substitution
end ChatMacro
