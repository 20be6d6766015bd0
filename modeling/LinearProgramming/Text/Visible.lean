import LinearProgramming.Text.CodePoints.GraphemeExtend
import LinearProgramming.Text.CodePoints.Unassigned

/-!
# Characters that show

A character shows by itself if it draws something of its own: it is assigned, it is neither
a control nor a separator nor for private use, it does not extend the character before it
without a place of its own, and it is not one that displays leave out. The tables hold for
Unicode 17.
-/

namespace LinearProgramming.Text

namespace CodePoints

/-- Controls, format characters, surrogates, private use characters, and all separators
but the space. -/
def invisible : CodePoints where
  ranges :=
    [(0x0, 0x1F), (0x7F, 0xA0), (0xAD, 0xAD), (0x600, 0x605), (0x61C, 0x61C), (0x6DD, 0x6DD),
     (0x70F, 0x70F), (0x890, 0x891), (0x8E2, 0x8E2), (0x1680, 0x1680), (0x180E, 0x180E),
     (0x2000, 0x200F), (0x2028, 0x202F), (0x205F, 0x2064), (0x2066, 0x206F), (0x3000, 0x3000),
     (0xD800, 0xF8FF), (0xFEFF, 0xFEFF), (0xFFF9, 0xFFFB), (0x110BD, 0x110BD), (0x110CD, 0x110CD),
     (0x13430, 0x1343F), (0x1BCA0, 0x1BCA3), (0x1D173, 0x1D17A), (0xE0001, 0xE0001),
     (0xE0020, 0xE007F), (0xF0000, 0xFFFFD), (0x100000, 0x10FFFD)]

/-- The property Default_Ignorable_Code_Point: what a display leaves out if it cannot do
anything better. It has some letters, the fillers of the Hangul script. -/
def defaultIgnorable : CodePoints where
  ranges :=
    [(0xAD, 0xAD), (0x34F, 0x34F), (0x61C, 0x61C), (0x115F, 0x1160), (0x17B4, 0x17B5),
     (0x180B, 0x180F), (0x200B, 0x200F), (0x202A, 0x202E), (0x2060, 0x206F), (0x3164, 0x3164),
     (0xFE00, 0xFE0F), (0xFEFF, 0xFEFF), (0xFFA0, 0xFFA0), (0xFFF0, 0xFFF8), (0x1BCA0, 0x1BCA3),
     (0x1D173, 0x1D17A), (0xE0000, 0xE0FFF)]

/-- The letters among the grapheme extenders: the two sound marks of halfwidth Katakana.
They belong to the letter before them, but stand beside it in a place of their own. -/
def soundMarks : CodePoints where
  ranges := [(0xFF9E, 0xFF9F)]

end CodePoints

/-- Whether a character shows by itself. -/
def isVisible (c : Char) : Bool :=
  c.toNat ∉ CodePoints.invisible ∧ c.toNat ∉ CodePoints.unassigned ∧
    c.toNat ∉ CodePoints.defaultIgnorable ∧
    (c.toNat ∈ CodePoints.graphemeExtend → c.toNat ∈ CodePoints.soundMarks)

end LinearProgramming.Text
