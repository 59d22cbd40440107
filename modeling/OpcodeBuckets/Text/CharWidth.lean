import OpcodeBuckets.Text.CharWidth.Ranges
import OpcodeBuckets.Text.CodePoint

/-!
# Character Widths

How many columns a character takes on a fixed-width display.

Most characters take one column. Control characters and marks that join their
neighbours take none, characters that are wide in East Asian text take two, and
one Khmer sign, an abbreviation written as a word of its own, takes three. A
tab has no width of its own: it moves to the next column that is a multiple of
`tabStop`, so how far it moves depends on where it stands.

## Main definitions

* `isControl`: Whether a character is a control character.
* `charWidth`: The columns a character takes.
* `tabAdvance`: The columns a tab takes at a column.
-/

namespace OpcodeBuckets

namespace Text

/-- Whether a character is a control character of either set. -/
def isControl (c : Char) : Bool :=
  decide (c.toNat < 0x20) || (decide (0x7F ≤ c.toNat) && decide (c.toNat < 0xA0))

/-- The columns a character takes wherever it stands. -/
def charWidth (c : Char) : Nat :=
  if isControl c then 0
  else if c.toNat < 0x7F then 1
  else if c.toNat = 0x17D8 then 3
  else if inRanges zeroWidthRanges c.toNat then 0
  else if inRanges wideRanges c.toNat then 2
  else 1

/-- How far apart the columns are that a tab goes to. -/
def tabStop : Nat :=
  4

/-- The columns a tab takes when it stands at the given column, counted from zero. -/
def tabAdvance (column : Nat) : Nat :=
  tabStop - column % tabStop

end Text

end OpcodeBuckets
