import GuestInit.Text.Extending
import GuestInit.Text.Unassigned

/-! Code points that a quoted text does not show as they stand, because a reader could not see them
or could not tell what they belong to: controls, formats, spaces and separators, private use, code
points without a character, fillers, and marks on the character before. The tables are those of
Unicode 17.0. -/

namespace GuestInit.Unprintable

/-- The general category `Cc`. -/
def controls : Runs := [(0x0, 0x1F), (0x7F, 0x9F)]

/-- The general category `Cf`. -/
def formats : Runs :=
  [(0xAD, 0xAD), (0x600, 0x605), (0x61C, 0x61C), (0x6DD, 0x6DD), (0x70F, 0x70F), (0x890, 0x891),
   (0x8E2, 0x8E2), (0x180E, 0x180E), (0x200B, 0x200F), (0x202A, 0x202E), (0x2060, 0x2064),
   (0x2066, 0x206F), (0xFEFF, 0xFEFF), (0xFFF9, 0xFFFB), (0x110BD, 0x110BD), (0x110CD, 0x110CD),
   (0x13430, 0x1343F), (0x1BCA0, 0x1BCA3), (0x1D173, 0x1D17A), (0xE0001, 0xE0001),
   (0xE0020, 0xE007F)]

/-- Every space but U+0020, and the line and paragraph separators. -/
def separators : Runs :=
  [(0xA0, 0xA0), (0x1680, 0x1680), (0x2000, 0x200A), (0x2028, 0x2029), (0x202F, 0x202F),
   (0x205F, 0x205F), (0x3000, 0x3000)]

/-- The general category `Co`. -/
def privateUse : Runs := [(0xE000, 0xF8FF), (0xF0000, 0xFFFFD), (0x100000, 0x10FFFD)]

/-- The letters that are drawn as nothing: the four fillers of Hangul. -/
def fillers : Runs := [(0x115F, 0x1160), (0x3164, 0x3164), (0xFFA0, 0xFFA0)]

def tables : List Runs :=
  [controls, formats, separators, privateUse, fillers, Extending.runs, Unassigned.runs]

def contains (c : Char) : Bool := tables.any fun runs => runs.covers c.toNat

end GuestInit.Unprintable
