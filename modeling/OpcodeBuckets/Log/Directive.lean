import OpcodeBuckets.Log.Event
import OpcodeBuckets.Log.FieldPattern
import OpcodeBuckets.Text.ByteRange

/-!
# Log Directives

The single parts of a log filter as a user writes them.

    level
    origin
    origin=level
    origin[span{field=value}]=level

A directive lets the events it concerns through up to its level. It may concern
those of one origin, those inside a span of work, and those that carry a named
value. Each of these parts may be left out, and a level that is left out lets
everything through. A text that stands alone is read as a level if it names one
and as an origin otherwise.

Blanks around a directive are not part of its grammar, but they are not taken
away either. The parts of the directive are found as if the blanks were not
there, and then read at those places of the text with its blanks. Blanks behind
a directive thus belong to its last word, and blanks in front shift every part:
a directive that has them names no level and no origin that exists, and one that
also has an equals sign in front of a level is malformed. Places count bytes, so
a shifted part may begin or end inside a character.

## Main definitions

* `Directive`: One part of a log filter.
* `Directive.Fault`: What is wrong with a text that spells no directive.
* `Directive.parse`: The directive a text spells.
* `Directive.concerns`: Whether a directive speaks about an event.
* `Directive.outranks`: Which of two directives about one event is followed.
-/

namespace OpcodeBuckets

namespace Log

/-- One part of a log filter. -/
structure Directive where
  /-- How much is let through. -/
  level : Level
  /-- The beginning of the origins that are concerned, if not all are. -/
  origin : Option String := none
  /-- The span of work that is concerned, if not all of it is. -/
  span : Option String := none
  /-- The value that events must carry, if they must carry one. -/
  field : Option FieldPattern := none
  deriving DecidableEq, Repr

namespace Directive

/-- What is wrong with a text that spells no directive. -/
inductive Fault where
  /-- The text is not built like a directive. -/
  | malformed
  /-- A part of the text would begin or end inside a character. -/
  | splitCharacter
  deriving DecidableEq, Repr

/-- Whether a character may begin an origin. -/
def startsOrigin (c : Char) : Bool :=
  Text.isLetterOrNumeral c || c == '-' || c == ':' || c == '_'

/-- A text without the blanks around it. -/
def trimmed (text : List Char) : List Char :=
  ((text.dropWhile Text.isWhiteSpace).reverse.dropWhile Text.isWhiteSpace).reverse

/-- The part of a text at a place. -/
def part (written : List Char) (offset size : Nat) : Except Fault (List Char) :=
  match Text.byteRange? offset size written with
  | some part => .ok part
  | none => .error .splitCharacter

/-- The level that a text names from a place on. One that is left out lets everything
    through. -/
def levelFrom (written : List Char) (offset : Nat) : Except Fault Level :=
  match Text.behindBytes? offset written with
  | none => .error .splitCharacter
  | some [] => .ok .trace
  | some text =>
    match Level.ofText? text with
    | some level => .ok level
    | none => .error .malformed

/-- The level behind a closing bracket, given what follows the bracket and where. -/
def levelBehindBracket (written : List Char) (offset : Nat) : List Char → Except Fault Level
  | [] => .ok .trace
  | '=' :: _ => levelFrom written (offset + 1)
  | _ => .error .malformed

/-- The field pattern at a place. -/
def fieldAt (written : List Char) (offset size : Nat) : Except Fault FieldPattern := do
  let text ← part written offset size
  if text.isEmpty then throw .malformed
  match FieldPattern.ofText? text with
  | some field => return field
  | none => throw .malformed

/-- A directive from its opening bracket on, given what follows the bracket and where. -/
def bracketed (written : List Char) (origin : Option String) (offset : Nat)
    (text : List Char) : Except Fault Directive := do
  let nameSize := Text.byteSize (text.takeWhile fun c => c != ']' && c != '{')
  let behindName := offset + nameSize + 1
  match text.dropWhile fun c => c != ']' && c != '{' with
  | ']' :: rest =>
    let span := some (String.ofList (← part written offset nameSize))
    return { level := ← levelBehindBracket written behindName rest, origin, span }
  | '{' :: inner =>
    let name ← part written offset nameSize
    let span := if name.isEmpty then none else some (String.ofList name)
    match inner.dropWhile (· != '}') with
    | _ :: rest =>
      let fieldSize := Text.byteSize (inner.takeWhile (· != '}'))
      let field := some (← fieldAt written behindName fieldSize)
      match rest with
      | ']' :: rest =>
        let level ← levelBehindBracket written (behindName + fieldSize + 2) rest
        return { level, origin, span, field }
      | _ => throw .malformed
    | [] => throw .malformed
  | _ => throw .malformed

/-- The directive of a text that stands alone: a level if it names one, and an origin
    otherwise. -/
def alone (text : List Char) : Directive :=
  match Level.ofText? text with
  | some level => { level }
  | none => { level := .trace, origin := some (String.ofList text) }

/-- The directive a text spells. Where its parts are is found in the text without the
    blanks around it, and what they say is read at the same places of the text as it
    was written. -/
def parse (written : List Char) : Except Fault Directive := do
  match trimmed written with
  | [] => throw .malformed
  | '[' :: rest => bracketed written none 1 rest
  | c :: rest =>
    if !startsOrigin c then throw .malformed
    let word := (c :: rest).takeWhile fun c => c != '=' && c != '['
    match (c :: rest).dropWhile fun c => c != '=' && c != '[' with
    | [] => return alone written
    | mark :: rest =>
      let origin := some (String.ofList (← part written 0 (Text.byteSize word)))
      let offset := Text.byteSize word + 1
      if mark == '[' then bracketed written origin offset rest
      else return { level := ← levelFrom written offset, origin }

/-- Whether the directive can decide about an event by itself. The program does its
    work in no span, and patterns that ask for a value are tried on spans only. -/
def actsOnEvents (directive : Directive) : Bool :=
  directive.span.isNone && !directive.field.any FieldPattern.hasValue

/-- Whether the directive speaks about an event. -/
def concerns (directive : Directive) (event : Event) : Bool :=
  directive.actsOnEvents &&
    directive.origin.all (fun origin => origin.toList.isPrefixOf event.origin.toList) &&
    directive.field.all (fun field => event.names.contains field.name)

/-- The name of the value the directive asks for; none comes before all others. -/
def fieldName (directive : Directive) : String :=
  (directive.field.map FieldPattern.name).getD ""

/-- Whether the first of two directives about one event is followed when the second
    was given before it: it names at least as much of the origin, and of two that
    name as much, its field comes no earlier. -/
def outranks (later earlier : Directive) : Bool :=
  let size := fun directive : Directive => (directive.origin.getD "").length
  decide (size earlier < size later) ||
    (size earlier == size later && decide (earlier.fieldName ≤ later.fieldName))

end Directive

end Log

end OpcodeBuckets
