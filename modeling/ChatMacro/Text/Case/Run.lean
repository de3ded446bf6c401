/-!
# Runs of case forms

Case forms come in runs: in most scripts a block of capital letters stands at a fixed distance
from its block of small letters, and in some the two alternate.
-/

namespace ChatMacro
namespace Text

/-- The characters `first`, `first + stride`, up to `last`, with forms from `target` on at the same
distances. -/
structure CaseRun where
  /-- First code point of the run. -/
  first : Nat
  /-- Last code point of the run. -/
  last : Nat
  /-- Distance of two neighbours. -/
  stride : Nat
  /-- Form of the first code point. -/
  target : Nat

namespace CaseRun

/-- The form of a code point, if it lies on the run. -/
def form? (run : CaseRun) (code : Nat) : Option Nat :=
  if run.first ≤ code && code ≤ run.last && (code - run.first) % run.stride == 0 then
    some (run.target + (code - run.first))
  else
    none

end CaseRun
end Text
end ChatMacro
