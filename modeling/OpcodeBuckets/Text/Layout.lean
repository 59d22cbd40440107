/-!
# Layout of Text in Fields

How a text or a number is set into a field of a given width.

A `Layout` records what a caller asked for, and the kind of the content decides
what applies. Texts stand on the left unless told otherwise and may be cut to a
number of characters. Numbers stand on the right, may show a plus sign and the
marker of their base, and may be filled with zeros, which go between the marker
and the digits and leave no room for any other alignment.

A field never cuts a number and never cuts a text unless a precision says so:
content wider than the field is written in full. When the blanks around centred
content are odd in number, the smaller half goes to the left.

## Main definitions

* `Layout`: What a caller asked of a field.
* `Layout.text`: A text in its field.
* `Layout.number`: A number in its field, from its digits.
* `Layout.Admissible`: The limit on the counts of a layout.
-/

namespace OpcodeBuckets

namespace Text

/-- A text of one character, repeated. -/
def replicate (n : Nat) (c : Char) : String :=
  String.ofList (List.replicate n c)

/-- Where content stands in a field wider than itself. -/
inductive Alignment where
  | left
  | centre
  | right
  deriving DecidableEq, Repr

/-- What a caller asked of a field. -/
structure Layout where
  /-- The character that stands in the unused part of the field. -/
  fill : Char := ' '
  /-- Where the content stands, if the caller said so. -/
  alignment : Option Alignment := none
  /-- Whether a number shows a plus sign. -/
  plusSign : Bool := false
  /-- Whether a number shows the marker of its base. -/
  baseMarker : Bool := false
  /-- Whether a number is filled with zeros to the width of the field. -/
  zeroFill : Bool := false
  /-- The least number of characters in the field. -/
  width : Nat := 0
  /-- The greatest number of characters kept of a text. -/
  precision : Option Nat := none
  deriving DecidableEq, Repr

namespace Layout

/-- The greatest width or precision a layout may ask for. -/
def limit : Nat :=
  65535

/-- The counts of the layout are within the limit. -/
def Admissible (layout : Layout) : Prop :=
  layout.width ≤ limit ∧ layout.precision.getD 0 ≤ limit

instance (layout : Layout) : Decidable layout.Admissible :=
  inferInstanceAs (Decidable (_ ∧ _))

/-- Sets content into the field, at the given alignment if the layout names none. -/
def pad (layout : Layout) (standard : Alignment) (content : String) : String :=
  let missing := layout.width - content.length
  match layout.alignment.getD standard with
  | .left => content ++ replicate missing layout.fill
  | .right => replicate missing layout.fill ++ content
  | .centre =>
    replicate (missing / 2) layout.fill ++ content ++
      replicate (missing - missing / 2) layout.fill

/-- A text cut to the precision of the layout. -/
def cut (layout : Layout) (content : String) : String :=
  match layout.precision with
  | none => content
  | some count => String.ofList (content.toList.take count)

/-- A text in its field. Signs, markers and zeros are for numbers only. -/
def text (layout : Layout) (content : String) : String :=
  layout.pad .left (layout.cut content)

/-- What stands before the digits of a number whose base has the given marker. -/
def lead (layout : Layout) (marker : String) : String :=
  (if layout.plusSign then "+" else "") ++ (if layout.baseMarker then marker else "")

/-- A number in its field, from its digits and the marker of its base. -/
def number (layout : Layout) (marker digits : String) : String :=
  let lead := layout.lead marker
  if layout.zeroFill then
    lead ++ replicate (layout.width - lead.length - digits.length) '0' ++ digits
  else
    layout.pad .right (lead ++ digits)

end Layout

/-- A text in a field of the given width, standing on the left. -/
def padRight (width : Nat) (content : String) : String :=
  Layout.text { alignment := some .left, width } content

end Text

end OpcodeBuckets
