import ChatMacro.Number.Numeral

/-!
# Typed data

A variable holds a text, a number, or a collection of texts and numbers.  Collections are written
either as sequences, which keep every element, or as sets, which keep the first of equal elements.
A store keeps sets as sequences.
-/

namespace ChatMacro

/-- An element of a collection. -/
inductive Atom where
  | text (value : String)
  | number (value : Float)
  deriving DecidableEq

namespace Atom

/-- Equal texts, or numbers that compare equal: zero has one sign, and NaN equals nothing. -/
def same : Atom → Atom → Bool
  | text left, text right => left = right
  | number left, number right => left == right
  | _, _ => false

/-- The text of an element in outputs. -/
def display : Atom → String
  | text value => value
  | number value => Numeral.display value

/-- The position that an element points to, if it is a whole number and not negative. -/
def index? : Atom → Option Nat
  | text _ => none
  | number value =>
      if 0.0 ≤ value && Number.isWhole value then some (Number.toIndex value) else none

/-- Whether an element equals one of a list. -/
def isIn (atoms : List Atom) (atom : Atom) : Bool :=
  atoms.any fun other => other.same atom

/-- Append the elements that are not yet in `kept`, each once. -/
def appendNew (kept : List Atom) : List Atom → List Atom
  | [] => kept
  | atom :: atoms =>
      if atom.isIn kept then appendNew kept atoms else appendNew (kept ++ [atom]) atoms

/-- The first of each run of equal elements, in their order. -/
def distinct (atoms : List Atom) : List Atom :=
  appendNew [] atoms

end Atom

/-- The kinds of data. -/
inductive Kind where
  | text
  | number
  | sequence
  | set
  deriving DecidableEq, Repr

/-- A typed value. -/
inductive Datum where
  | text (value : String)
  | number (value : Float)
  | sequence (items : List Atom)
  | set (items : List Atom)
  deriving DecidableEq

namespace Kind

/-- The name of a kind in messages. -/
def name : Kind → String
  | text => "string"
  | number => "number"
  | sequence => "sequence"
  | set => "set"

/-- Sequences and sets are collections. -/
def isCollection : Kind → Bool
  | text | number => false
  | sequence | set => true

/-- Whether an operand of the kind `declared` may act on data of the kind `stored`: collections act
on each other, and otherwise the kinds agree. -/
def accepts (declared stored : Kind) : Bool :=
  declared = stored || (declared.isCollection && stored.isCollection)

/-- The value of a kind that stands in for a failure. -/
def zero : Kind → Datum
  | text => .text ""
  | number => .number 0.0
  | sequence => .sequence []
  | set => .set []

end Kind

namespace Datum

/-- The kind of a value. -/
def kind : Datum → Kind
  | text _ => .text
  | number _ => .number
  | sequence _ => .sequence
  | set _ => .set

/-- The elements of a collection. -/
def items? : Datum → Option (List Atom)
  | text _ | number _ => none
  | sequence items | set items => some items

/-- The form in which a store keeps a value. -/
def persisted : Datum → Datum
  | set items => sequence (Atom.distinct items)
  | datum => datum

/-- The text of a value in outputs; elements are joined by commas. -/
def display : Datum → String
  | text value => value
  | number value => Numeral.display value
  | sequence items | set items => ",".intercalate (items.map Atom.display)

end Datum
end ChatMacro
