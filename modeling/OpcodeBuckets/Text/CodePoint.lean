/-!
# Sets of Code Points

Sets of characters given as closed ranges of code points.

## Main definitions

* `inRanges`: Whether a code point lies in a range of a table.
* `whiteSpaceRanges`: The characters with the white space property.
* `isWhiteSpace`: Whether a character has that property.
-/

namespace OpcodeBuckets

namespace Text

/-- Whether a code point lies in one of the closed ranges. -/
def inRanges (ranges : List (Nat × Nat)) (codePoint : Nat) : Bool :=
  ranges.any fun range => decide (range.1 ≤ codePoint) && decide (codePoint ≤ range.2)

/-- The characters with the white space property, 25 in all. -/
def whiteSpaceRanges : List (Nat × Nat) :=
  [(0x0009, 0x000D), (0x0020, 0x0020), (0x0085, 0x0085), (0x00A0, 0x00A0), (0x1680, 0x1680),
    (0x2000, 0x200A), (0x2028, 0x2029), (0x202F, 0x202F), (0x205F, 0x205F), (0x3000, 0x3000)]

/-- Whether a character has the white space property. -/
def isWhiteSpace (c : Char) : Bool :=
  inRanges whiteSpaceRanges c.toNat

end Text

end OpcodeBuckets
