import ChatMacro.Text.Blank
import ChatMacro.Text.Property.Alphabetic
import ChatMacro.Text.Property.Numeric

/-!
# Letters and digits

The characters of which a script writes its names.
-/

namespace ChatMacro
namespace Text

/-- Whether a character has the Unicode property `Alphabetic`. -/
def isLetter (character : Char) : Bool :=
  if character.toNat < 128 then character.isAlpha
  else inRanges alphabeticRanges character

/-- Whether a character is a letter or has the Unicode general category `N`. -/
def isLetterOrNumber (character : Char) : Bool :=
  if character.toNat < 128 then character.isAlphanum
  else inRanges alphabeticRanges character || inRanges numericRanges character

end Text
end ChatMacro
