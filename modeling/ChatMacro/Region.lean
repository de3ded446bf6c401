import ChatMacro.Text.Blank
import ChatMacro.Text.Search

/-!
# Regions of a template

A template has regions between delimiters: variable blocks in braces, early scripts in `^(` and
`)^`, and late scripts in `$(` and `)$`.  Scanning lists the regions of one kind from left to right
with their places, which are counted in bytes of UTF-8, and splicing puts other texts into their
places.
-/

namespace ChatMacro

open Text

/-- A region of a text. -/
structure Region where
  /-- Place of the opening delimiter. -/
  start : Nat
  /-- Opening delimiter. -/
  opening : List Char
  /-- Text between the delimiters. -/
  inner : List Char
  /-- Closing delimiter. -/
  closing : List Char
  deriving DecidableEq, Repr

namespace Region

/-- The region as it is written. -/
def raw (region : Region) : List Char :=
  region.opening ++ region.inner ++ region.closing

/-- The place after the closing delimiter. -/
def stop (region : Region) : Nat :=
  region.start + byteSize region.raw

/-! ## Braces -/

/-- An opening brace that waits for its closing brace. -/
structure OpenBrace where
  /-- Place of the brace. -/
  start : Nat
  /-- Text before the brace, reversed. -/
  before : List Char
  /-- Text after the brace so far, reversed. -/
  inner : List Char

/-- The pairs of braces with no brace between them, each with the text before it.  The text scanned
follows the reversed text `before`, which ends at the place `offset`. -/
def bracePairsFrom (offset : Nat) (before : List Char) (pending : Option OpenBrace) :
    List Char → List (List Char × Region)
  | [] => []
  | character :: tail =>
      let offset' := offset + character.utf8Size
      let before' := character :: before
      if character = '\x7b' then
        bracePairsFrom offset' before' (some ⟨offset, before, []⟩) tail
      else if character = '\x7d' then
        match pending with
        | none => bracePairsFrom offset' before' none tail
        | some brace =>
            (brace.before.reverse,
              { start := brace.start, opening := ['\x7b'], inner := brace.inner.reverse,
                closing := ['\x7d'] }) ::
              bracePairsFrom offset' before' none tail
      else
        bracePairsFrom offset' before'
          (pending.map fun brace => { brace with inner := character :: brace.inner }) tail

/-- The pairs of braces with no brace between them, each with the text before it. -/
def bracePairs (text : List Char) : List (List Char × Region) :=
  bracePairsFrom 0 [] none text

/-- The head of a function without parameters. -/
def functionHead : List Char :=
  ['f', 'u', 'n', 'c', 't', 'i', 'o', 'n', '(', ')']

/-- Whether a text ends after a `$(` that no `)$` has closed since. -/
def endsInScript (before : List Char) : Bool :=
  match afterLast? ['$', '('] before with
  | none => false
  | some tail => !contains [')', '$'] ('$' :: '(' :: tail)

/-- Whether a pair of braces belongs to a script: the text inside starts like an interpolation or a
function body, or the text before ends like the head of one. -/
def isScriptBrace (before inner : List Char) : Bool :=
  startsWith ['$'] inner || startsWith functionHead inner || startsWith ['=', '>'] inner ||
    startsWith [')', '\x7b'] inner ||
  endsWith ['$'] before || (endsWith [')'] before && endsInScript before) ||
  endsWith functionHead (trimEnd before) || endsWith ['=', '>'] (trimEnd before)

/-- The variable blocks of a text. -/
def blocks (text : List Char) : List Region :=
  ((bracePairs text).filter fun pair => !isScriptBrace pair.1 pair.2.inner).map (·.2)

/-! ## Scripts -/

/-- The end of a script: the text before the closing delimiter, the delimiter, and the rest. -/
structure Closing where
  /-- Text before the delimiter. -/
  inner : List Char
  /-- The delimiter. -/
  delimiter : List Char
  /-- Text after the delimiter. -/
  rest : List Char

/-- The nearest `)^`. -/
def earlyClosing? (text : List Char) : Option Closing :=
  (breakOn? [')', '^'] text).map fun (inner, rest) => ⟨inner, [')', '^'], rest⟩

/-- The nearest `)$`, or a parenthesis that ends the text. -/
def lateClosing? : List Char → Option Closing
  | [] => none
  | [')'] => some ⟨[], [')'], []⟩
  | ')' :: '$' :: rest => some ⟨[], [')', '$'], rest⟩
  | character :: tail =>
      (lateClosing? tail).map fun closing =>
        { closing with inner := character :: closing.inner }

/-- The regions that start with `opening` and end as `closing?` finds, at most `limit` of them, in a
text that starts at the place `offset`.  Scanning goes on after each region. -/
def delimited (opening : List Char) (closing? : List Char → Option Closing) :
    Nat → Nat → List Char → List Region
  | 0, _, _ => []
  | limit + 1, offset, text =>
      match breakOn? opening text with
      | none => []
      | some (front, opened) =>
          match closing? opened with
          | none => []
          | some closing =>
              let region : Region :=
                { start := offset + byteSize front, opening, inner := closing.inner,
                  closing := closing.delimiter }
              region :: delimited opening closing? limit region.stop closing.rest

/-- The scripts that run before the variable blocks are looked for. -/
def earlyScripts (text : List Char) : List Region :=
  delimited ['^', '('] earlyClosing? text.length 0 text

/-- The scripts that run after the variable blocks have been replaced. -/
def lateScripts (text : List Char) : List Region :=
  delimited ['$', '('] lateClosing? text.length 0 text

/-! ## Splicing -/

/-- Split a text at a place; there has to be the start of a character, or the end. -/
def splitAt? : Nat → List Char → Option (List Char × List Char)
  | 0, text => some ([], text)
  | _ + 1, [] => none
  | place + 1, character :: tail =>
      if character.utf8Size ≤ place + 1 then
        (splitAt? (place + 1 - character.utf8Size) tail).map fun (front, rest) =>
          (character :: front, rest)
      else
        none

/-- Put another text between two places of a text. -/
def replaceRange? (start stop : Nat) (replacement text : List Char) : Option (List Char) := do
  let (front, rest) ← splitAt? start text
  if stop < start then
    none
  else
    let (_, back) ← splitAt? (stop - start) rest
    return front ++ replacement ++ back

/-- Put texts into the places of regions, the last region first, so that the places of the others
stay valid. -/
def splice? (text : List Char) (replacements : List (Region × List Char)) : Option (List Char) :=
  replacements.foldr
    (fun (region, replacement) spliced =>
      spliced.bind (replaceRange? region.start region.stop replacement))
    (some text)

/-- Put texts into the places of regions that were found in a text. -/
def splice (text : List Char) (replacements : List (Region × List Char)) : List Char :=
  (splice? text replacements).getD text

end Region
end ChatMacro
