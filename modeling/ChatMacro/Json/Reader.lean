import ChatMacro.Json.Basic

/-!
# Reading JSON

A JSON text is read in one pass, and all of it has to be used up.  Arrays and objects may be nested
127 levels deep.  Of two fields with one name the later one counts.

A number is read fast and not always to the last digit: as many digits as fit 64 bits give a double,
which is then scaled by one or two powers of ten.
-/

namespace ChatMacro
namespace Json

/-- A reader answers with what it read and the rest of the text, or not at all. -/
abbrev Reader (Result : Type) := List Char → Option (Result × List Char)

/-- The four characters that may stand between the parts of a document. -/
def isSpace (character : Char) : Bool :=
  character = ' ' || character = '\n' || character = '\t' || character = '\r'

/-- Drop the space in front. -/
def skipSpace (text : List Char) : List Char :=
  text.dropWhile isSpace

/-- The value of a hexadecimal digit. -/
def hexValue? (digit : Char) : Option Nat :=
  if digit.isDigit then some (digit.toNat - '0'.toNat)
  else if 'a' ≤ digit && digit ≤ 'f' then some (digit.toNat - 'a'.toNat + 10)
  else if 'A' ≤ digit && digit ≤ 'F' then some (digit.toNat - 'A'.toNat + 10)
  else none

/-- The number that four hexadecimal digits stand for. -/
def hexValues? (first second third fourth : Char) : Option Nat := do
  let first ← hexValue? first
  let second ← hexValue? second
  let third ← hexValue? third
  let fourth ← hexValue? fourth
  return ((first * 16 + second) * 16 + third) * 16 + fourth

/-- The character after a backslash, apart from the hexadecimal escapes. -/
def escape? : Char → Option Char
  | '"' => some '"'
  | '\\' => some '\\'
  | '/' => some '/'
  | 'b' => some '\x08'
  | 'f' => some '\x0c'
  | 'n' => some '\n'
  | 'r' => some '\r'
  | 't' => some '\t'
  | _ => none

/-- The text up to the closing quote.  Two hexadecimal escapes may give one character, of which
they hold the halves. -/
def readString : Reader (List Char)
  | [] => none
  | '"' :: rest => some ([], rest)
  | '\\' :: 'u' :: first :: second :: third :: fourth :: tail => do
      let code ← hexValues? first second third fourth
      if 0xDC00 ≤ code && code ≤ 0xDFFF then
        none
      else if 0xD800 ≤ code && code ≤ 0xDBFF then
        match tail with
        | '\\' :: 'u' :: first :: second :: third :: fourth :: tail =>
            let low ← hexValues? first second third fourth
            if 0xDC00 ≤ low && low ≤ 0xDFFF then
              let (text, rest) ← readString tail
              return (Char.ofNat (0x10000 + (code - 0xD800) * 0x400 + (low - 0xDC00)) :: text, rest)
            else
              none
        | _ => none
      else
        let (text, rest) ← readString tail
        return (Char.ofNat code :: text, rest)
  | '\\' :: character :: tail => do
      let character ← escape? character
      let (text, rest) ← readString tail
      return (character :: text, rest)
  | character :: tail =>
      if character.toNat < 32 || character = '\\' then
        none
      else do
        let (text, rest) ← readString tail
        return (character :: text, rest)

/-- The greatest number that 64 bits hold. -/
def significandLimit : Nat := Nat.pow 2 64 - 1

/-- Append the digits before the point to a significand while it fits 64 bits; the second number
counts the digits that are left over. -/
def addWhole (significand : Nat) : List Char → Nat × Nat
  | [] => (significand, 0)
  | digit :: digits =>
      if 10 * significand + Numeral.digitValue digit ≤ significandLimit then
        addWhole (10 * significand + Numeral.digitValue digit) digits
      else
        (significand, digits.length + 1)

/-- Append the digits after the point to a significand while it fits 64 bits; the second number
counts the digits that were used. -/
def addFraction (significand : Nat) : List Char → Nat × Nat
  | [] => (significand, 0)
  | digit :: digits =>
      if 10 * significand + Numeral.digitValue digit ≤ significandLimit then
        let (grown, used) := addFraction (10 * significand + Numeral.digitValue digit) digits
        (grown, used + 1)
      else
        (significand, 0)

/-- The power of ten closest to `10 ^ exponent`. -/
def powerOfTen (exponent : Nat) : Float :=
  Decimal.toFloat ⟨1, exponent⟩

/-- Scale a significand by a power of ten; a result out of range is refused. -/
def scale? (significand : Nat) (exponent : Int) : Option Float :=
  let value := Float.ofNat significand
  if significand = 0 then
    some value
  else if 308 < exponent then
    none
  else if 0 ≤ exponent then
    let scaled := value * powerOfTen exponent.toNat
    if scaled.isInf then none else some scaled
  else if -308 ≤ exponent then
    some (value / powerOfTen (-exponent).toNat)
  else if -616 ≤ exponent then
    some (value / powerOfTen 308 / powerOfTen (-exponent - 308).toNat)
  else
    some 0.0

/-- The exponent of a number after its mark, if digits follow. -/
def readExponent : Reader Int := fun text =>
  let (negative, unsigned) := match text with
    | '-' :: tail => (true, tail)
    | '+' :: tail => (false, tail)
    | _ => (false, text)
  match Numeral.spanDigits unsigned with
  | ([], _) => none
  | (digits, rest) =>
      let value : Int := Numeral.valueOf digits
      some (if negative then -value else value, rest)

/-- The exponent that may end a number, zero if there is none. -/
def readShift : Reader Int
  | 'e' :: tail => readExponent tail
  | 'E' :: tail => readExponent tail
  | rest => some (0, rest)

/-- A double with a sign. -/
def signedReal (negative : Bool) (value : Float) : Json :=
  real (if negative then -value else value)

/-- The end of a number with a point or an exponent, or with more digits than fit 64 bits. -/
def readScaled (negative : Bool) (significand : Nat) (exponent : Int) (text : List Char) :
    Option (Json × List Char) := do
  let (shift, rest) ← readShift text
  let value ← scale? significand (exponent + shift)
  return (signedReal negative value, rest)

/-- The number of an integer numeral.  There is no negative zero among the integers, and none below
`- 2 ^ 63`. -/
def ofInteger (negative : Bool) (significand : Nat) : Json :=
  if !negative then integer significand
  else if significand = 0 || Nat.pow 2 63 < significand then
    signedReal true (Float.ofNat significand)
  else integer (-(significand : Int))

/-- A number without its sign: digits that do not start with a needless zero, perhaps a point with
digits after it, perhaps an exponent. -/
def readUnsigned (negative : Bool) : Reader Json := fun text =>
  match Numeral.spanDigits text with
  | ([], _) => none
  | ('0' :: _ :: _, _) => none
  | (digits, rest) =>
      let (significand, dropped) := addWhole 0 digits
      match rest with
      | '.' :: tail =>
          match Numeral.spanDigits tail with
          | ([], _) => none
          | (fraction, rest) =>
              let (grown, used) := addFraction significand fraction
              readScaled negative grown ((dropped : Int) - used) rest
      | 'e' :: _ => readScaled negative significand dropped rest
      | 'E' :: _ => readScaled negative significand dropped rest
      | _ =>
          if dropped = 0 then some (ofInteger negative significand, rest)
          else readScaled negative significand dropped rest

/-- A number. -/
def readNumber : Reader Json
  | '-' :: tail => readUnsigned true tail
  | text => readUnsigned false text

/-- What comes after a part of an array or object: another part, or the closing bracket. -/
def readMore (closing : Char) (text : List Char) : Option (Bool × List Char) :=
  match skipSpace text with
  | ',' :: tail => some (true, tail)
  | character :: tail => if character = closing then some (false, tail) else none
  | [] => none

/-- The items of an array up to the closing bracket, at most `limit` of them. -/
def readItems (item : Reader Json) : Nat → Reader (List Json)
  | 0, _ => none
  | limit + 1, text => do
      let (value, rest) ← item text
      let (more, rest) ← readMore ']' rest
      if more then
        let (values, rest) ← readItems item limit rest
        return (value :: values, rest)
      else
        return ([value], rest)

/-- One field of an object. -/
def readField (item : Reader Json) : Reader (String × Json) := fun text =>
  match skipSpace text with
  | '"' :: tail => do
      let (name, rest) ← readString tail
      match skipSpace rest with
      | ':' :: rest =>
          let (value, rest) ← item rest
          return ((String.ofList name, value), rest)
      | _ => none
  | _ => none

/-- The fields of an object up to the closing brace, at most `limit` of them. -/
def readFields (item : Reader Json) : Nat → Reader (List (String × Json))
  | 0, _ => none
  | limit + 1, text => do
      let (field, rest) ← readField item text
      let (more, rest) ← readMore '\x7d' rest
      if more then
        let (fields, rest) ← readFields item limit rest
        return (field :: fields, rest)
      else
        return ([field], rest)

/-- An array after its opening bracket. -/
def readArray (item : Reader Json) : Reader Json := fun text =>
  match skipSpace text with
  | ']' :: rest => some (array [], rest)
  | rest => (readItems item rest.length rest).map fun (items, rest) => (array items, rest)

/-- An object after its opening brace. -/
def readObject (item : Reader Json) : Reader Json := fun text =>
  match skipSpace text with
  | '\x7d' :: rest => some (object [], rest)
  | rest =>
      (readFields item rest.length rest).map fun (fields, rest) =>
        (object (Keyed.ofList fields), rest)

/-- A value whose items and fields, where there is room for them, are read by `inner`. -/
def readWith (inner : Option (Reader Json)) : Reader Json := fun text =>
  match skipSpace text with
  | 'n' :: 'u' :: 'l' :: 'l' :: rest => some (null, rest)
  | 't' :: 'r' :: 'u' :: 'e' :: rest => some (bool true, rest)
  | 'f' :: 'a' :: 'l' :: 's' :: 'e' :: rest => some (bool false, rest)
  | '"' :: tail => (readString tail).map fun (value, rest) => (string (String.ofList value), rest)
  | '[' :: tail => inner.bind fun item => readArray item tail
  | '\x7b' :: tail => inner.bind fun item => readObject item tail
  | rest => readNumber rest

/-- A value with at most the given number of levels of nesting. -/
def readLevels : Nat → Reader Json
  | 0 => readWith none
  | levels + 1 => readWith (some (readLevels levels))

/-- The number of levels of nesting that are accepted. -/
def maxLevels : Nat := 127

/-- Read a whole document. -/
def parse? (text : List Char) : Option Json :=
  match readLevels maxLevels text with
  | some (document, rest) => if (skipSpace rest).isEmpty then some document else none
  | none => none

end Json
end ChatMacro
