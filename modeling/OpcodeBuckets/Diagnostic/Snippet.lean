import OpcodeBuckets.Diagnostic
import OpcodeBuckets.Source.Position
import OpcodeBuckets.Text.CharWidth
import OpcodeBuckets.Text.Layout

/-!
# Snippets

A diagnostic as text, with the line of the source that it points into.

    error: unknown instruction `Pop`
      ┌─ program:3:6
      │
    3 │ push Pop
      │      ^^^ not a mnemonic
      │
      = mnemonics are lower case, e.g. `read_mem`

The line is shown without the line breaks and null characters at its end and
with its tabs spread out to the columns they reach. Below it stand as many
carets as the labelled characters take columns, under the same columns. What
was cut off the end of the line counts as one more character there, one column
wide, so that a label on it still has a caret. A label that is not the primary one
has dashes for carets. A diagnostic without a label has no snippet, and its notes
stand directly below the message. There is a snippet for one label and not for
several: no diagnostic of this library has more than one.

## Main definitions

* `Snippet.Cell`: A character of a line and the columns it takes.
* `Snippet.cells`: The characters of a line with their widths.
* `Snippet.caretLine`: The carets below a line.
* `Snippet.render`: The snippet of a label.
* `Diagnostic.render`: A diagnostic as text.
-/

namespace OpcodeBuckets

namespace Snippet

/-- A character of a line, the byte at which it begins, and the columns it takes. -/
structure Cell where
  /-- The offset of the character in its line, in bytes. -/
  offset : Nat
  /-- The number of bytes in the character. -/
  size : Nat
  /-- The number of columns the character takes. -/
  width : Nat
  /-- What is shown for the character. -/
  shown : String
  deriving DecidableEq, Repr

/-- A character at the given byte and column of its line. -/
def Cell.ofChar (offset column : Nat) (c : Char) : Cell :=
  if c = '\t' then
    ⟨offset, c.utf8Size, Text.tabAdvance column, Text.replicate (Text.tabAdvance column) ' '⟩
  else ⟨offset, c.utf8Size, Text.charWidth c, c.toString⟩

/-- The cells of a line from the given byte and column on. -/
def cellsFrom (offset column : Nat) : List Char → List Cell
  | [] => []
  | c :: rest =>
    let cell := Cell.ofChar offset column c
    cell :: cellsFrom (offset + cell.size) (column + cell.width) rest

/-- The cells of a line. -/
def cells (line : List Char) : List Cell :=
  cellsFrom 0 0 line

/-- The line without the characters at its end that are not shown. -/
def trimLineEnd (line : List Char) : List Char :=
  (line.reverse.dropWhile fun c => c == '\n' || c == '\r' || c == '\x00').reverse

/-- The cell that stands for what was cut off the end of a line. -/
def endCell (line : List Char) : Cell :=
  ⟨(String.ofList line).utf8ByteSize, 1, 1, ""⟩

/-- What stands below a cell: carets if the label, given by its first byte and
    the byte behind it, reaches the cell, blanks if the label is yet to end. -/
def mark (caret : Char) (first behind : Nat) (cell : Cell) : String :=
  if cell.offset < behind ∧ first < cell.offset + cell.size then Text.replicate cell.width caret
  else if cell.offset < behind then Text.replicate cell.width ' '
  else ""

/-- What stands below a line that is shown, for a label from byte `start` to byte
    `stop` of it. A label always takes at least one byte. -/
def caretLine (caret : Char) (line : List Char) (start stop : Nat) : String :=
  String.join ((cells line ++ [endCell line]).map (mark caret start (max stop (start + 1))))

/-- The blanks that stand in for a line number on the other lines of a snippet. -/
def gutter (line : Nat) : String :=
  Text.replicate line.repr.length ' '

/-- The snippet of a label: where it is, its line, and the carets below. -/
def render (name source : String) (label : Label) : String :=
  let position := Source.Position.ofOffset source label.span.start
  let lineStart := Source.lineStart source label.span.start
  let line := trimLineEnd (Source.lineAt source position.line)
  let gutter := gutter position.line
  gutter ++ " ┌─ " ++ name ++ ":" ++ position.line.repr ++ ":" ++ position.column.repr ++ "\n" ++
    gutter ++ " │\n" ++
    position.line.repr ++ " │ " ++ String.join ((cells line).map Cell.shown) ++ "\n" ++
    gutter ++ " │ " ++
    caretLine label.style.caret line (label.span.start - lineStart)
      (label.span.stop - lineStart) ++
    " " ++ label.message ++ "\n"

/-- A note on a line of its own, behind the given gutter. -/
def noteLine (gutter note : String) : String :=
  gutter ++ " = " ++ note ++ "\n"

end Snippet

namespace Diagnostic

/-- What stands below the message: the snippet of the first label, if there is one, and
    the notes. -/
def body (name source : String) (diagnostic : Diagnostic) : String :=
  match diagnostic.labels with
  | [] => String.join (diagnostic.notes.map (Snippet.noteLine ""))
  | label :: _ =>
    let gutter := Snippet.gutter (Source.Position.ofOffset source label.span.start).line
    Snippet.render name source label ++
      (if diagnostic.notes.isEmpty then "" else gutter ++ " │\n") ++
      String.join (diagnostic.notes.map (Snippet.noteLine gutter))

/-- A diagnostic about a source of the given name as text. An empty line ends it. -/
def render (name source : String) (diagnostic : Diagnostic) : String :=
  diagnostic.severity.name ++ ": " ++ diagnostic.message ++ "\n" ++
    diagnostic.body name source ++ "\n"

/-- Diagnostics about one source, one after another. -/
def renderAll (name source : String) (diagnostics : List Diagnostic) : String :=
  String.join (diagnostics.map (render name source))

end Diagnostic

end OpcodeBuckets
