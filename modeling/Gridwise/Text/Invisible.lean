import Gridwise.Text.Extending
import Gridwise.Text.Unassigned

/-!
# Characters that do not show

A character leaves no mark of its own on the page if it is a control or a format
character, a separator other than the space, a filler that stands for a missing letter, or
for private use, if it only extends the character before it, or if its code point is
unassigned.
-/

namespace Gridwise

namespace Invisible

/-- Controls, format characters, separators other than the space, and private use, in
    ascending order. -/
def blanks : List (Nat × Nat) :=
  [(0x0, 0x1f), (0x7f, 0xa0), (0xad, 0xad), (0x600, 0x605), (0x61c, 0x61c), (0x6dd, 0x6dd),
   (0x70f, 0x70f), (0x890, 0x891), (0x8e2, 0x8e2), (0x1680, 0x1680), (0x180e, 0x180e),
   (0x2000, 0x200f), (0x2028, 0x202f), (0x205f, 0x2064), (0x2066, 0x206f), (0x3000, 0x3000),
   (0xe000, 0xf8ff), (0xfeff, 0xfeff), (0xfff9, 0xfffb), (0x110bd, 0x110bd), (0x110cd, 0x110cd),
   (0x13430, 0x1343f), (0x1bca0, 0x1bca3), (0x1d173, 0x1d17a), (0xe0001, 0xe0001),
   (0xe0020, 0xe007f), (0xf0000, 0xffffd), (0x100000, 0x10fffd)]

/-- The letters of Korean that stand for the absence of one, in ascending order. -/
def fillers : List (Nat × Nat) :=
  [(0x115f, 0x1160), (0x3164, 0x3164), (0xffa0, 0xffa0)]

/-- A code point lies in one of the ranges of a table. -/
def inRanges (code : Nat) (ranges : List (Nat × Nat)) : Bool :=
  ranges.any fun range => decide (range.1 ≤ code ∧ code ≤ range.2)

end Invisible

/-- The character leaves no mark of its own on the page. -/
def isInvisible (c : Char) : Bool :=
  let code := c.toNat
  Invisible.inRanges code Invisible.blanks || Invisible.inRanges code Invisible.fillers ||
    Invisible.inRanges code Invisible.extending || Invisible.inRanges code Invisible.unassigned

end Gridwise
