/-!
# Exact binary numbers

A finite double is a whole significand times a power of two.  Whether it is whole, its rounded
neighbours and remainders are computed on that form, without rounding on the way.
-/

namespace ChatMacro

/-- The exact number `± significand * 2 ^ exponent`. -/
structure Binary where
  /-- Whether the sign is minus; zero has a sign as well. -/
  negative : Bool
  /-- Whole factor. -/
  significand : Nat
  /-- Power of two. -/
  exponent : Int
  deriving DecidableEq, Repr

namespace Binary

-- Powers are called by their name, because what `^` stands for depends on what else is imported.

/-- The exact value of a finite double, and none for an infinity or a NaN. -/
def ofFloat? (value : Float) : Option Binary :=
  let bits : Nat := value.toBits.toNat
  let negative := Nat.pow 2 63 ≤ bits
  let biased : Nat := bits / Nat.pow 2 52 % Nat.pow 2 11
  let fraction : Nat := bits % Nat.pow 2 52
  if biased = 2047 then
    none
  else if biased = 0 then
    some { negative, significand := fraction, exponent := -1074 }
  else
    some { negative, significand := fraction + Nat.pow 2 52, exponent := (biased : Int) - 1075 }

/-- The bits of a double with the sign bit `negative` and the remaining bits `magnitude`. -/
def signedBits (negative : Bool) (magnitude : Nat) : UInt64 :=
  UInt64.ofNat (if negative then magnitude + Nat.pow 2 63 else magnitude)

/-- The double with a given exact value; bits below its last place are dropped, and a value out of
range becomes an infinity. -/
def toFloat (number : Binary) : Float :=
  if number.significand = 0 then
    Float.ofBits (signedBits number.negative 0)
  else
    let place := max (number.exponent + number.significand.log2 - 52) (-1074)
    let shift := number.exponent - place
    let aligned :=
      if 0 ≤ shift then number.significand * Nat.pow 2 shift.toNat
      else number.significand / Nat.pow 2 (-shift).toNat
    let magnitude := (place + 1074).toNat * Nat.pow 2 52 + aligned
    Float.ofBits (signedBits number.negative (min magnitude (2047 * Nat.pow 2 52)))

/-- The significand counts halves, quarters and so on down to `1 / 2 ^ places`. -/
def places (number : Binary) : Nat :=
  (-number.exponent).toNat

/-- The magnitude without its fraction. -/
def whole (number : Binary) : Nat :=
  number.significand * Nat.pow 2 number.exponent.toNat / Nat.pow 2 number.places

/-- The fraction of the magnitude, counted in units of `1 / 2 ^ places`. -/
def fraction (number : Binary) : Nat :=
  number.significand * Nat.pow 2 number.exponent.toNat % Nat.pow 2 number.places

/-- The magnitude rounded to the nearest whole number, a half going up. -/
def nearest (number : Binary) : Nat :=
  if Nat.pow 2 number.places ≤ 2 * number.fraction then number.whole + 1 else number.whole

end Binary

namespace Number

/-- The value that is not a number. -/
def nan : Float := 0.0 / 0.0

/-- Positive infinity. -/
def infinity : Float := 1.0 / 0.0

/-- Whether a double is finite and has no fraction. -/
def isWhole (value : Float) : Bool :=
  match Binary.ofFloat? value with
  | some number => number.fraction == 0
  | none => false

/-- The double of a whole magnitude below `2 ^ 53` with a sign. -/
def signed (negative : Bool) (magnitude : Nat) : Float :=
  if negative then -Float.ofNat magnitude else Float.ofNat magnitude

/-- Round a number that has a fraction by `rounded`; every other number is its own result. -/
def roundBy (rounded : Binary → Nat) (value : Float) : Float :=
  match Binary.ofFloat? value with
  | some number =>
      if number.fraction = 0 then value else signed number.negative (rounded number)
  | none => value

/-- The greatest whole number that is not greater. -/
def floor : Float → Float :=
  roundBy fun number => if number.negative then number.whole + 1 else number.whole

/-- The least whole number that is not less. -/
def ceil : Float → Float :=
  roundBy fun number => if number.negative then number.whole else number.whole + 1

/-- The nearest whole number, a half going away from zero. -/
def round : Float → Float :=
  roundBy Binary.nearest

/-- The remainder of a division whose quotient is cut to a whole number; it has the sign of the
dividend. -/
def remainder (dividend divisor : Float) : Float :=
  match Binary.ofFloat? dividend, Binary.ofFloat? divisor with
  | none, _ => nan
  | some _, none => if divisor.isNaN then nan else dividend
  | some top, some bottom =>
      if bottom.significand = 0 then
        nan
      else
        let exponent := min top.exponent bottom.exponent
        let scaled (number : Binary) : Nat :=
          number.significand * Nat.pow 2 (number.exponent - exponent).toNat
        Binary.toFloat
          { negative := top.negative, significand := scaled top % scaled bottom, exponent }

/-- The magnitude of a double. -/
def magnitude (value : Float) : Float :=
  value.abs

/-- The greatest number that a 64-bit index can hold. -/
def indexLimit : Nat := Nat.pow 2 64 - 1

/-- The index nearest to a number from below: zero for what is negative or no number, and the
greatest index for what is out of range. -/
def toIndex (value : Float) : Nat :=
  match Binary.ofFloat? value with
  | some number => if number.negative then 0 else min number.whole indexLimit
  | none => if 0.0 < value then indexLimit else 0

/-- The signed 64-bit number nearest to a number towards zero, limited to the range at both ends. -/
def toInt (value : Float) : Int :=
  match Binary.ofFloat? value with
  | some number =>
      if number.negative then max (-(number.whole : Int)) (-Int.pow 2 63)
      else min (number.whole : Int) (Int.pow 2 63 - 1)
  | none =>
      if 0.0 < value then Int.pow 2 63 - 1 else if value < 0.0 then -Int.pow 2 63 else 0

/-- The lesser of two numbers, NaN being passed over and the first winning a tie. -/
def lesser (left right : Float) : Float :=
  if right.isNaN then left else if left.isNaN || right < left then right else left

/-- The greater of two numbers, NaN being passed over and the first winning a tie. -/
def greater (left right : Float) : Float :=
  if right.isNaN then left else if left.isNaN || left < right then right else left

end Number
end ChatMacro
