import OpcodeBuckets.Text.CodePoint
import OpcodeBuckets.Text.Letter.Ranges

/-!
# Letters and Numerals

Which characters belong to words and numbers, in any script.

A letter here is any character with the alphabetic property, and a numeral is
any character that stands for a number. Both are wider than a first look
suggests: some vowel signs are letters, while tone marks and accents that only
join a letter are not, and a Roman numeral is both a letter and a numeral.

## Main definitions

* `isLetter`: Whether a character is a letter of some script.
* `isNumeral`: Whether a character is a numeral of some script.
* `isLetterOrNumeral`: Whether a character is one of the two.
-/

namespace OpcodeBuckets

namespace Text

/-- Whether a character is a letter of some script. -/
def isLetter (c : Char) : Bool :=
  inRanges alphabeticRanges c.toNat

/-- Whether a character is a numeral of some script. -/
def isNumeral (c : Char) : Bool :=
  inRanges numeralRanges c.toNat

/-- Whether a character is a letter or a numeral of some script. -/
def isLetterOrNumeral (c : Char) : Bool :=
  isLetter c || isNumeral c

end Text

end OpcodeBuckets
