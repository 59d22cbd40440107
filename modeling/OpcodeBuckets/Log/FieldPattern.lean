import OpcodeBuckets.Log.Pattern

/-!
# Field Patterns

The values that a directive wants events to carry.

    name
    name=value

A value is a number or a pattern of texts. Most numbers are patterns as well,
but one with a plus sign is not, since nothing stands before the sign that
could be repeated; so numbers are tried first. A value that is neither makes
the directive malformed. What follows a second equals sign is not looked at.

## Main definitions

* `isNumber`: Whether a text is a number.
* `FieldPattern`: The value that events must carry.
* `FieldPattern.ofText?`: The field pattern a text spells.
-/

namespace OpcodeBuckets

namespace Log

/-- Whether a text is what may follow the digits of a number: nothing, or a power
    of ten. -/
def isPowerOfTen : List Char → Bool
  | [] => true
  | c :: rest =>
    let digits := if rest.head? = some '+' ∨ rest.head? = some '-' then rest.tail else rest
    (c == 'e' || c == 'E') && !digits.isEmpty && digits.all Char.isDigit

/-- Whether a text is a number without a sign: digits, which a point may divide or
    end, and a power of ten. -/
def isUnsignedNumber (text : List Char) : Bool :=
  let whole := text.takeWhile Char.isDigit
  match text.dropWhile Char.isDigit with
  | '.' :: rest =>
    !(whole.isEmpty && (rest.takeWhile Char.isDigit).isEmpty) &&
      isPowerOfTen (rest.dropWhile Char.isDigit)
  | rest => !whole.isEmpty && isPowerOfTen rest

/-- The words, in any letter case, that stand for what no digits can write. -/
def numberWords : List String :=
  ["inf", "infinity", "nan"]

/-- Whether a text is a number, with a sign or without. -/
def isNumber (text : List Char) : Bool :=
  let unsigned := if text.head? = some '+' ∨ text.head? = some '-' then text.tail else text
  isUnsignedNumber unsigned || numberWords.contains (String.ofList (unsigned.map Char.toLower))

/-- A value that events must carry. -/
structure FieldPattern where
  /-- The name of the value. -/
  name : String
  /-- Whether the pattern also says what the value must be. -/
  hasValue : Bool
  deriving DecidableEq, Repr

namespace FieldPattern

/-- The field pattern a text spells: a name, and a value behind an equals sign. -/
def ofText? (text : List Char) : Option FieldPattern :=
  let name := String.ofList (text.takeWhile (· != '='))
  match text.dropWhile (· != '=') with
  | [] => some { name, hasValue := false }
  | _ :: rest =>
    let value := rest.takeWhile (· != '=')
    if isNumber value || Pattern.isUsable value then some { name, hasValue := true } else none

end FieldPattern

end Log

end OpcodeBuckets
