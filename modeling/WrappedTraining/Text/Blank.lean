import WrappedTraining.Text.Cut

/-!
# White space

`isBlank` is the class of white space characters in any script. `trimBlank` removes them from
both ends of a text, as is done before a quantity is read.
-/

namespace WrappedTraining.Text

/-- White space outside ASCII: ranges of code points, both ends included. -/
def blankRanges : List (Nat × Nat) :=
  [(0x85, 0x85), (0xA0, 0xA0), (0x1680, 0x1680), (0x2000, 0x200A), (0x2028, 0x2029),
   (0x202F, 0x202F), (0x205F, 0x205F), (0x3000, 0x3000)]

/-- The character is white space. -/
def isBlank (c : Char) : Bool :=
  c = ' ' || (9 ≤ c.toNat && c.toNat ≤ 13) ||
    blankRanges.any fun r => r.1 ≤ c.toNat && c.toNat ≤ r.2

/-- The text without white space at either end. -/
def trimBlank (s : String) : String := trim isBlank s

end WrappedTraining.Text
