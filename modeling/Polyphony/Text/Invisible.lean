import Polyphony.Text.Extending
import Polyphony.Text.Unassigned

namespace Polyphony.Text

/-!
# Characters without a shape of their own

The characters beyond ASCII that a reader cannot see where they stand: blank
ones, those that extend the character before them, and code points without a
character.  Quoted text spells them out.
-/

/-- Whether a code point lies in one of the ranges, both ends included. -/
def inRanges
    (ranges : List (Nat × Nat))
    (codePoint : Nat) :
    Bool :=
  ranges.any fun range => range.1 ≤ codePoint && codePoint ≤ range.2

/--
Controls, format characters, separators, characters for private use, and the
letters that fill an empty place, in order.
-/
def blankRanges : List (Nat × Nat) :=
  [(0x80, 0xA0), (0xAD, 0xAD), (0x600, 0x605), (0x61C, 0x61C), (0x6DD, 0x6DD),
   (0x70F, 0x70F), (0x890, 0x891), (0x8E2, 0x8E2), (0x115F, 0x1160), (0x1680, 0x1680),
   (0x180E, 0x180E), (0x2000, 0x200F), (0x2028, 0x202F), (0x205F, 0x2064),
   (0x2066, 0x206F), (0x3000, 0x3000), (0x3164, 0x3164), (0xE000, 0xF8FF),
   (0xFEFF, 0xFEFF), (0xFFA0, 0xFFA0), (0xFFF9, 0xFFFB), (0x110BD, 0x110BD),
   (0x110CD, 0x110CD), (0x13430, 0x1343F), (0x1BCA0, 0x1BCA3), (0x1D173, 0x1D17A),
   (0xE0001, 0xE0001), (0xE0020, 0xE007F), (0xF0000, 0xFFFFD), (0x100000, 0x10FFFD)]

/-- Whether a character beyond ASCII has no shape of its own. -/
def isInvisible (character : Char) : Bool :=
  inRanges blankRanges character.toNat ||
    inRanges extendingRanges character.toNat ||
    inRanges unassignedRanges character.toNat

end Polyphony.Text
