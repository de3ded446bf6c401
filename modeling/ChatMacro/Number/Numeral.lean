import ChatMacro.Number.Decimal

/-!
# Numerals

The texts of numbers.  Every numeral shows the shortest digits that read back as the number; a
layout decides where they are written out, where an exponent is used, and which digits are shown if
two choices are equally near.
-/

namespace ChatMacro
namespace Numeral

/-- The decisions of one way to write numbers. -/
structure Layout where
  /-- Least decimal exponent that is written out, if there is one. -/
  least : Option Int
  /-- Greatest decimal exponent that is written out, if there is one. -/
  greatest : Option Int
  /-- Whether a whole number that is written out ends in `.0`. -/
  pointZero : Bool
  /-- Whether a positive exponent has a sign. -/
  plusSign : Bool
  /-- Which of two equally near numerals is written. -/
  tie : Tie

/-- Messages and outputs write every digit out and give whole numbers no fraction; a tie goes to the
greater magnitude. -/
def plain : Layout := ⟨none, none, false, false, .up⟩

/-- Tokens are shown with a fraction, and with an exponent from `1e16` on and below `0.0001`; a tie
goes to the greater magnitude. -/
def shown : Layout := ⟨some (-4), some 15, true, false, .up⟩

/-- Files write a fraction, and use an exponent from `1e+16` on and below `0.00001`; a tie goes to
the even last digit. -/
def filed : Layout := ⟨some (-5), some 15, true, true, .even⟩

/-- The decimal digits of a number. -/
def digitsOf (number : Nat) : List Char :=
  Nat.toDigits 10 number

/-- The digits of an integer, behind a minus sign if it is negative. -/
def integerDigits (number : Int) : List Char :=
  if number < 0 then '-' :: digitsOf number.natAbs else digitsOf number.natAbs

/-- Digits with the decimal point after the first `place` of them, zeros filling the gap. -/
def pointed (layout : Layout) (digits : List Char) (place : Int) : List Char :=
  if place ≤ 0 then
    ['0', '.'] ++ List.replicate (-place).toNat '0' ++ digits
  else if digits.length ≤ place.toNat then
    digits ++ List.replicate (place.toNat - digits.length) '0' ++
      (if layout.pointZero then ['.', '0'] else [])
  else
    digits.take place.toNat ++ ['.'] ++ digits.drop place.toNat

/-- Digits with an exponent, the decimal point standing after the first of them. -/
def scientific (layout : Layout) (digits : List Char) (exponent : Int) : List Char :=
  (match digits with
    | [] => []
    | [digit] => [digit]
    | digit :: more => digit :: '.' :: more) ++
  ['e'] ++ (if layout.plusSign && 0 ≤ exponent then ['+'] else []) ++ integerDigits exponent

/-- The numeral of a decimal in a layout; zeros at the end of the digits do not count. -/
def ofDecimal (layout : Layout) (decimal : Decimal) : List Char :=
  let all := digitsOf decimal.digits
  let digits := (all.reverse.dropWhile (· = '0')).reverse
  let exponent := decimal.exponent + all.length - 1
  if (layout.least.all (· ≤ exponent)) && (layout.greatest.all (exponent ≤ ·)) then
    pointed layout digits (exponent + 1)
  else
    scientific layout digits exponent

/-- The numeral of a number in a layout. -/
def write (layout : Layout) (value : Float) : String :=
  match Binary.ofFloat? value with
  | none =>
      if value.isNaN then "NaN" else if value < 0.0 then "-inf" else "inf"
  | some number =>
      let front := if number.negative then ['-'] else []
      let digits :=
        if number.significand = 0 then
          if layout.pointZero then ['0', '.', '0'] else ['0']
        else
          ofDecimal layout (Decimal.shortest layout.tie (Number.magnitude value) number)
      String.ofList (front ++ digits)

/-- The text of a number in outputs: whole numbers below `1e15` are integers and so have no
negative zero. -/
def display (value : Float) : String :=
  match Binary.ofFloat? value with
  | none =>
      if value.isNaN then "NaN" else if value < 0.0 then "-Infinity" else "Infinity"
  | some number =>
      if number.fraction = 0 && number.whole < Nat.pow 10 15 then
        String.ofList
          (integerDigits (if number.negative then -(number.whole : Int) else number.whole))
      else
        write plain value

/-- The value of one decimal digit. -/
def digitValue (digit : Char) : Nat :=
  digit.toNat - '0'.toNat

/-- The number that a run of decimal digits stands for. -/
def valueOf (digits : List Char) : Nat :=
  digits.foldl (fun value digit => 10 * value + digitValue digit) 0

/-- The number with the given digits before and after the decimal point, times a power of ten. -/
def valueWith (wholeDigits fractionDigits : List Char) (exponent : Int) : Float :=
  Decimal.toFloat ⟨valueOf (wholeDigits ++ fractionDigits), exponent - fractionDigits.length⟩

/-- The leading decimal digits of a text, and the rest. -/
def spanDigits (text : List Char) : List Char × List Char :=
  (text.takeWhile Char.isDigit, text.dropWhile Char.isDigit)

/-- Whether a text consists of digits, with an optional minus sign in front and an optional
decimal point between two digits. -/
def isNumeral (text : List Char) : Bool :=
  let unsigned := match text with
    | '-' :: tail => tail
    | _ => text
  match spanDigits unsigned with
  | ([], _) => false
  | (_ :: _, []) => true
  | (_ :: _, '.' :: fraction) => !fraction.isEmpty && fraction.all Char.isDigit
  | (_ :: _, _ :: _) => false

/-- Read the exponent at the end of a numeral: nothing, or a mark with digits and perhaps a sign. -/
def readExponent? : List Char → Option Int
  | [] => some 0
  | mark :: tail =>
      if mark = 'e' || mark = 'E' then
        let (negative, digits) := match tail with
          | '-' :: digits => (true, digits)
          | '+' :: digits => (false, digits)
          | _ => (false, tail)
        if digits.isEmpty || !digits.all Char.isDigit then none
        else some (if negative then -(valueOf digits : Int) else valueOf digits)
      else
        none

/-- Read a number without sign: digits with an optional point among or beside them and an optional
exponent, or one of the words for infinity and NaN in letters of either size. -/
def readUnsigned? (text : List Char) : Option Float :=
  let word := text.map Char.toLower
  if word = ['i', 'n', 'f'] || word = ['i', 'n', 'f', 'i', 'n', 'i', 't', 'y'] then
    some Number.infinity
  else if word = ['n', 'a', 'n'] then
    some Number.nan
  else
    let (wholeDigits, afterWhole) := spanDigits text
    let (fractionDigits, afterFraction) := match afterWhole with
      | '.' :: tail => spanDigits tail
      | _ => ([], afterWhole)
    if wholeDigits.isEmpty && fractionDigits.isEmpty then
      none
    else
      (readExponent? afterFraction).map (valueWith wholeDigits fractionDigits)

/-- Read a number with an optional sign. -/
def read? : List Char → Option Float
  | '-' :: tail => (readUnsigned? tail).map (-·)
  | '+' :: tail => readUnsigned? tail
  | text => readUnsigned? text

end Numeral
end ChatMacro
