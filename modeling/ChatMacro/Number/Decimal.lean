import ChatMacro.Number.Binary

/-!
# Decimal numbers

A decimal number is a whole number of units `10 ^ exponent`.  Reading rounds it to the nearest
double.  Writing goes the other way: of all decimals that read back as a given double, it takes the
one with the fewest digits, and of those the nearest.  Two of them can be equally near, and then a
tie rule decides.
-/

namespace ChatMacro

/-- Which of two equally near neighbours is taken. -/
inductive Tie where
  /-- The greater one. -/
  | up
  /-- The one whose last digit is even. -/
  | even
  deriving DecidableEq, Repr

/-- Whether a number that lies `remainder / divisor` of a unit above the whole number `below` is
rounded down to it. -/
def Tie.roundsDown (tie : Tie) (below remainder divisor : Nat) : Bool :=
  2 * remainder < divisor || (2 * remainder = divisor && tie = .even && below % 2 = 0)

/-- The exact number `digits * 10 ^ exponent`. -/
structure Decimal where
  /-- Whole factor. -/
  digits : Nat
  /-- Power of ten. -/
  exponent : Int
  deriving DecidableEq, Repr

namespace Decimal

/-- The nearest double, of two the one with an even significand.  Numbers that are far out of
range on either side are sorted out first. -/
def toFloat (decimal : Decimal) : Float :=
  if decimal.digits = 0 then
    0.0
  else if 400 < decimal.exponent then
    Number.infinity
  else if decimal.exponent + decimal.digits.log2 + 1 < -400 then
    0.0
  else
    Float.ofScientific decimal.digits (decimal.exponent < 0) decimal.exponent.natAbs

/-- The decimal on the grid `10 ^ exponent` that reads back as `value`, where the magnitude of
`value` is `numerator / denominator`.  Of the two neighbours on the grid the nearer one wins, and at
equal distance the one that the tie rule names. -/
def onGrid? (tie : Tie) (value : Float) (numerator denominator : Nat) (exponent : Int) :
    Option Decimal :=
  let scaledNumerator := numerator * Nat.pow 10 (-exponent).toNat
  let scaledDenominator := denominator * Nat.pow 10 exponent.toNat
  let below : Decimal := ⟨scaledNumerator / scaledDenominator, exponent⟩
  let above : Decimal := ⟨below.digits + 1, exponent⟩
  let roundsDown :=
    tie.roundsDown below.digits (scaledNumerator % scaledDenominator) scaledDenominator
  match decide (below.toFloat = value), decide (above.toFloat = value) with
  | true, true => some (if roundsDown then below else above)
  | true, false => some below
  | false, true => some above
  | false, false => none

/-- Search the grids from `exponent` downwards. -/
def search (tie : Tie) (value : Float) (numerator denominator : Nat) :
    Nat → Int → Option Decimal
  | 0, _ => none
  | grids + 1, exponent =>
      match onGrid? tie value numerator denominator exponent with
      | some decimal => some decimal
      | none => search tie value numerator denominator grids (exponent - 1)

/-- The decimal that equals a binary number. -/
def exact (number : Binary) : Decimal :=
  ⟨number.significand * Nat.pow 2 number.exponent.toNat * Nat.pow 5 number.places,
    -(number.places : Int)⟩

/-- The shortest decimal that reads back as a positive double, whose exact value is `number`.  The
first grid lies above the value, and the search ends at the latest with seventeen digits. -/
def shortest (tie : Tie) (value : Float) (number : Binary) : Decimal :=
  let numerator := number.significand * Nat.pow 2 number.exponent.toNat
  let denominator := Nat.pow 2 number.places
  let first := ((numerator.log2 : Int) - denominator.log2 + 1) * 30103 / 100000 + 1
  (search tie value numerator denominator 25 first).getD (exact number)

end Decimal
end ChatMacro
