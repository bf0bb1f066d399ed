/-
Characters without a picture of their own.

* `invisible`: controls, formats, private use and every separator but the space,
  by Unicode general category;
* `fillers`: the letters that are ignored by default;
* `isShown`: the characters that a quoted text can show as they are: neither of
  these, nor an unassigned code point, nor a mark that extends the character
  before it.
-/
import FieldRules.Text.Combining
import FieldRules.Text.Unassigned

namespace FieldRules.Text

/-- First and last code points of the controls (Cc), formats (Cf), private use characters (Co) and
separators (Zl, Zp, and Zs without the space), in rising order. -/
def invisible : List (Nat × Nat) :=
  [
    (0x0, 0x1F), (0x7F, 0xA0), (0xAD, 0xAD), (0x600, 0x605), (0x61C, 0x61C), (0x6DD, 0x6DD),
    (0x70F, 0x70F), (0x890, 0x891), (0x8E2, 0x8E2), (0x1680, 0x1680), (0x180E, 0x180E),
    (0x2000, 0x200F), (0x2028, 0x202F), (0x205F, 0x2064), (0x2066, 0x206F), (0x3000, 0x3000),
    (0xE000, 0xF8FF), (0xFEFF, 0xFEFF), (0xFFF9, 0xFFFB), (0x110BD, 0x110BD), (0x110CD, 0x110CD),
    (0x13430, 0x1343F), (0x1BCA0, 0x1BCA3), (0x1D173, 0x1D17A), (0xE0001, 0xE0001),
    (0xE0020, 0xE007F), (0xF0000, 0xFFFFD), (0x100000, 0x10FFFD)]

/-- First and last code points of the letters with the property Default_Ignorable_Code_Point, the
fillers of Hangul, in rising order. -/
def fillers : List (Nat × Nat) :=
  [(0x115F, 0x1160), (0x3164, 0x3164), (0xFFA0, 0xFFA0)]

/-- Whether a code point lies in one of the ranges. -/
def inRanges (n : Nat) (ranges : List (Nat × Nat)) : Bool :=
  ranges.any fun r => r.1 ≤ n && n ≤ r.2

/-- Whether no character stands at a code point. -/
def isUnassigned (n : Nat) : Bool :=
  if n < 0x10000 then inRanges n unassignedBasic else inRanges n unassignedBeyond

/-- A character is shown as it is when it has a picture of its own and stands alone. The ASCII
characters from the space to the tilde are decided without the tables. -/
def isShown (c : Char) : Bool :=
  let n := c.toNat
  (0x20 ≤ n && n < 0x7F) ||
    !(inRanges n invisible || inRanges n fillers || isUnassigned n || inRanges n combining)

end FieldRules.Text
