/-!
# Positions

The line and column of a byte offset, as a reader counts them.

Lines and columns count from one. A line ends at a line feed and nowhere else,
so a carriage return is a character of its line like any other. A column counts
characters and not bytes.

## Main definitions

* `Position`: A line and a column.
* `before`: The characters of a text that stand before a byte offset.
* `Position.ofOffset`: The position of a byte offset.
* `lineAt`: The text of a line.
* `lineStart`: The byte offset at which the line of an offset begins.
-/

namespace OpcodeBuckets

namespace Source

/-- A line and a column, both counted from one. -/
structure Position where
  /-- The number of the line. -/
  line : Nat
  /-- The number of the character in its line. -/
  column : Nat
  deriving DecidableEq, Repr

/-- The characters of a text that begin before a byte offset. -/
def before (offset : Nat) : List Char → List Char
  | [] => []
  | c :: rest => if 0 < offset then c :: before (offset - c.utf8Size) rest else []

/-- The characters between the last line feed of a text and its end. -/
def lastLine (text : List Char) : List Char :=
  (text.reverse.takeWhile (· != '\n')).reverse

/-- The position of a byte offset. -/
def Position.ofOffset (source : String) (offset : Nat) : Position where
  line := 1 + (before offset source.toList).count '\n'
  column := 1 + (lastLine (before offset source.toList)).length

/-- The text of a line, without the line feed that ends it. -/
def lineAt (source : String) (line : Nat) : List Char :=
  (source.toList.splitOn '\n')[line - 1]?.getD []

/-- The byte offset at which the line of an offset begins. -/
def lineStart (source : String) (offset : Nat) : Nat :=
  offset - (String.ofList (lastLine (before offset source.toList))).utf8ByteSize

end Source

end OpcodeBuckets
