/-!
# Ignorable characters

The inclusive code point ranges of the Unicode property `Default_Ignorable_Code_Point`, in
increasing order.  Such a character leaves no mark where it is displayed.  Most of them are format
characters or extend their neighbour; the fillers for Korean syllables are letters.
-/

namespace ChatMacro
namespace Text

/-- The inclusive ranges of the Unicode property `Default_Ignorable_Code_Point`. -/
def defaultIgnorableRanges : List (Nat × Nat) :=
  [(173, 173), (847, 847), (1564, 1564), (4447, 4448), (6068, 6069), (6155, 6159), (8203, 8207),
   (8234, 8238), (8288, 8303), (12644, 12644), (65024, 65039), (65279, 65279), (65440, 65440),
   (65520, 65528), (113824, 113827), (119155, 119162), (917504, 921599)]

end Text
end ChatMacro
