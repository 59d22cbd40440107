/-!
# Byte Ranges

Parts of a text that are given by offsets in bytes of its UTF-8 form.

An offset may fall inside a character that takes more than one byte, or behind
the end of the text. There is no part of the text at such an offset.

## Main definitions

* `firstBytes?`: The beginning of a text, of a given size.
* `behindBytes?`: What stands behind the beginning of a given size.
* `byteRange?`: The part of a text at an offset, of a given size.
-/

namespace OpcodeBuckets

namespace Text

/-- The beginning of a text that takes so many bytes. -/
def firstBytes? : Nat → List Char → Option (List Char)
  | 0, _ => some []
  | _ + 1, [] => none
  | size + 1, c :: rest =>
    if c.utf8Size ≤ size + 1 then (firstBytes? (size + 1 - c.utf8Size) rest).map (c :: ·)
    else none

/-- What stands in a text behind so many bytes. -/
def behindBytes? : Nat → List Char → Option (List Char)
  | 0, text => some text
  | _ + 1, [] => none
  | size + 1, c :: rest =>
    if c.utf8Size ≤ size + 1 then behindBytes? (size + 1 - c.utf8Size) rest else none

/-- The part of a text that begins at an offset and takes so many bytes. -/
def byteRange? (offset size : Nat) (text : List Char) : Option (List Char) :=
  (behindBytes? offset text).bind (firstBytes? size)

/-- The bytes that a text takes. -/
def byteSize (text : List Char) : Nat :=
  (String.ofList text).utf8ByteSize

end Text

end OpcodeBuckets
