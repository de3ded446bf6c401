import ChatMacro.Text.Blank
import ChatMacro.Text.Property.DefaultIgnorable
import ChatMacro.Text.Property.GraphemeExtend
import ChatMacro.Text.Property.Unprintable

/-!
# Quoted text

The form in which messages show a text or a character: between quotes, with a backslash before the
quote and the backslash, short escapes for the common controls, and the hexadecimal code point of
every other character that would not show by itself.
-/

namespace ChatMacro
namespace Text

/-- The digits of a number to base sixteen, in small letters and without leading zeros. -/
def hexDigits (code : Nat) : List Char :=
  Nat.toDigits 16 code

/-- Whether a character shows by itself: it is printable, leaves a mark and does not extend its
neighbour. -/
def showsAlone (character : Char) : Bool :=
  if character.toNat < 127 then 32 ≤ character.toNat
  else
    !inRanges graphemeExtendRanges character && !inRanges unprintableRanges character &&
      !inRanges defaultIgnorableRanges character

/-- One character between quotes of the kind `quote`. -/
def escaped (quote character : Char) : List Char :=
  if character = '\x00' then ['\\', '0']
  else if character = '\t' then ['\\', 't']
  else if character = '\r' then ['\\', 'r']
  else if character = '\n' then ['\\', 'n']
  else if character = '\\' || character = quote then ['\\', character]
  else if showsAlone character then [character]
  else ['\\', 'u', '\x7b'] ++ hexDigits character.toNat ++ ['\x7d']

/-- A text between double quotes. -/
def quoted (text : String) : String :=
  String.ofList ('"' :: text.toList.flatMap (escaped '"') ++ ['"'])

/-- A character between single quotes. -/
def quotedChar (character : Char) : String :=
  String.ofList ('\'' :: escaped '\'' character ++ ['\''])

end Text
end ChatMacro
