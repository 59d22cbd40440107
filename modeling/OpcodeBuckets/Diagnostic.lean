import OpcodeBuckets.Assignment.Collision
import OpcodeBuckets.Source.Span

/-!
# Diagnostics

What a user is told about a fault.

A diagnostic says how bad the fault is and what is wrong, may point at stretches of
the source, and may add notes. A label says whether its stretch is the one to blame
or is there to explain. The faults of this library are errors all of them, and those
with a place in a source point at that place alone.

## Main definitions

* `Severity`: How bad a fault is.
* `LabelStyle`: What part a label has in its diagnostic.
* `Label`: A stretch of a source and what to say about it.
* `Diagnostic`: What a user is told about a fault.
* `UniquenessError.diagnostic`: The diagnostic of opcodes that are not distinct.
-/

namespace OpcodeBuckets

/-- How bad a fault is. -/
inductive Severity where
  /-- The program is at fault itself. -/
  | bug
  /-- What was asked for cannot be done. -/
  | error
  /-- It can be done, and should perhaps not be. -/
  | warning
  /-- There is something to know. -/
  | note
  /-- There is something to try. -/
  | help
  deriving DecidableEq, Repr

/-- The word a diagnostic begins with. -/
def Severity.name : Severity → String
  | .bug => "bug"
  | .error => "error"
  | .warning => "warning"
  | .note => "note"
  | .help => "help"

/-- What part a label has in its diagnostic. -/
inductive LabelStyle where
  /-- The label is on what is to blame. -/
  | primary
  /-- The label is on what helps to understand it. -/
  | secondary
  deriving DecidableEq, Repr

/-- The character that marks what a label is on. -/
def LabelStyle.caret : LabelStyle → Char
  | .primary => '^'
  | .secondary => '-'

/-- A stretch of a source and what to say about it. -/
structure Label where
  /-- What part the label has. -/
  style : LabelStyle
  /-- The stretch to point at. -/
  span : Source.Span
  /-- What to say about it. -/
  message : String
  deriving DecidableEq, Repr

/-- What a user is told about a fault. -/
structure Diagnostic where
  /-- How bad it is. -/
  severity : Severity
  /-- What is wrong. -/
  message : String
  /-- Where it is wrong, if it is wrong at a place, and what places have to do with it. -/
  labels : List Label := []
  /-- What else there is to say. -/
  notes : List String := []
  deriving DecidableEq, Repr

/-- The diagnostic of opcodes that are not distinct: a note for each collision,
    then the advice. -/
def UniquenessError.diagnostic (error : UniquenessError) : Diagnostic where
  severity := .error
  message := UniquenessError.headline
  notes := error.collisions.map Collision.message ++ [UniquenessError.hint]

end OpcodeBuckets
