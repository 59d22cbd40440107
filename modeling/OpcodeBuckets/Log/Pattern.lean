import OpcodeBuckets.Log.Pattern.CharSet
import OpcodeBuckets.Text.Letter

/-!
# Patterns

Which texts spell a pattern that can be used.

A pattern says of a text whether it matches: signs stand for characters, a sign
may be repeated, parts follow one another or are offered for choice, and round
brackets make a group of a part. A group may have a name of its own or set
switches, and switches in brackets by themselves set them for the rest of the
group around.

The program only ever has to tell patterns that can be used from those that
cannot, so reading one keeps the modes, names and depths that decide that and
nothing else. Braces would count repetitions, but a pattern stands between
braces itself and so holds none that closes. An opening brace that counts is
therefore never followed by what it needs.

## Main definitions

* `OpenGroup`: A group that is being read.
* `State`: How far a pattern has been read.
* `step`: Reads on behind a character of a pattern.
* `isUsable`: Whether a text spells a pattern that can be used.
-/

namespace OpcodeBuckets

namespace Log

namespace Pattern

open Text (Reader)

/-- A part of a pattern that has been read. -/
structure Part where
  /-- How deep the part nests. -/
  depth : Nat
  /-- Whether the part is something that can be repeated. -/
  repeatable : Bool := true
  deriving DecidableEq, Repr

/-- A group that is being read, or the pattern as a whole. -/
structure OpenGroup where
  /-- How the signs are read from here on. -/
  mode : Mode
  /-- The parts of the present choice, the last one first. -/
  parts : List Part := []
  /-- How deep each choice nests that came before. -/
  choices : List Nat := []
  deriving DecidableEq, Repr

namespace OpenGroup

/-- How deep the present choice nests. -/
def choiceDepth (group : OpenGroup) : Nat :=
  joined (group.parts.map Part.depth)

/-- How deep all nests that the group has so far. -/
def depth (group : OpenGroup) : Nat :=
  joined (group.choiceDepth :: group.choices)

/-- The group with another part. -/
def add (group : OpenGroup) (part : Part) : OpenGroup :=
  { group with parts := part :: group.parts }

/-- The group with its last part repeated, if that can be. -/
def repeatLast? (group : OpenGroup) : Option OpenGroup :=
  match group.parts with
  | [] => none
  | last :: others =>
    if last.repeatable then some { group with parts := ⟨last.depth + 1, true⟩ :: others }
    else none

/-- The group with another choice begun. -/
def nextChoice (group : OpenGroup) : OpenGroup :=
  { group with parts := [], choices := group.choiceDepth :: group.choices }

end OpenGroup

/-- How far a pattern has been read. -/
structure State where
  /-- The group that is being read. -/
  group : OpenGroup := { mode := {} }
  /-- The groups around it, from the inside out. -/
  around : List OpenGroup := []
  /-- The names that groups have been given. -/
  names : List (List Char) := []
  deriving DecidableEq, Repr

namespace State

/-- The state with another part in the group that is being read. -/
def add (state : State) (part : Part) : State :=
  { state with group := state.group.add part }

/-- The state with another group open. -/
def enter (state : State) (mode : Mode) : State :=
  { state with group := { mode }, around := state.group :: state.around }

/-- The state with the innermost group closed, if one is open. -/
def leave? (state : State) : Option State :=
  match state.around with
  | [] => none
  | group :: around => some { state with group := group.add ⟨1 + state.group.depth, true⟩, around }

end State

/-- How deep a pattern may nest. -/
def depthLimit : Nat :=
  250

/-- Whether a text can name a group. -/
def isGroupName : List Char → Bool
  | [] => false
  | c :: rest =>
    (c == '_' || Text.isLetter c) &&
      rest.all fun c => ['_', '.', '[', ']'].contains c || Text.isLetterOrNumeral c

/-- Reads the name of a group and the angle bracket behind it. -/
def groupName : Reader (List Char) := do
  let name ← Reader.takeWhile (· != '>')
  Reader.only '>'
  Reader.require (isGroupName name)
  return name

/-- Reads the beginning of a group with a name, up to the bracket before the name. -/
def nameMark : Reader Unit := do
  Reader.only '?'
  let _ ← Reader.optional 'P'
  Reader.only '<'

/-- Reads the beginning of a group behind its bracket, or all of a group that only
    sets switches. -/
def openGroup (state : State) : Reader State := do
  let mode := state.group.mode
  mode.skip
  if (← Reader.attempt nameMark).isSome then
    let name ← groupName
    Reader.require (!state.names.contains name)
    return { state with names := name :: state.names }.enter mode
  else if ← Reader.optional '?' then
    let switches ← Reader.takeWhile fun c => c != ':' && c != ')'
    match mode.switch? switches, ← Reader.next with
    | some mode, ':' => return state.enter mode
    | some mode, _ =>
      Reader.require (!switches.isEmpty)
      let group := { state.group with mode }
      return { state with group := group.add ⟨0, false⟩ }
    | none, _ => Reader.refuse
  else
    return state.enter mode

/-- Reads nothing and adds a sign, if it can be used. -/
def addSign (state : State) (sign : Sign) : Reader State := do
  Reader.require (sign.standsAlone state.group.mode)
  return state.add ⟨0, true⟩

/-- Reads on behind a character of a pattern. -/
def step (state : State) (c : Char) : Reader State := do
  let mode := state.group.mode
  match c with
  | '(' => openGroup state
  | ')' =>
    match state.leave? with
    | some state => return state
    | none => Reader.refuse
  | '|' => return { state with group := state.group.nextChoice }
  | '*' | '+' | '?' =>
    match state.group.repeatLast? with
    | some group =>
      -- A question mark right behind the repetition makes it as short as can be.
      let _ ← Reader.optional '?'
      return { state with group }
    | none => Reader.refuse
  | '{' => Reader.refuse
  | '[' => return state.add ⟨← charSet mode, true⟩
  | '.' => addSign state .any
  | '^' | '$' => addSign state .border
  | _ => addSign state (← Sign.beginningWith mode c)

/-- Whether a pattern may end where it has been read to. -/
def State.isComplete (state : State) : Bool :=
  state.around.isEmpty && decide (state.group.depth ≤ depthLimit)

/-- Reads a pattern to its end. -/
def whole : Reader Unit :=
  Reader.untilDone (fun state => state.group.mode.skip)
    (fun state c => do return .inl (← step state c))
    (fun state => if state.isComplete then some () else none) ({} : State)

/-- Whether a text spells a pattern that can be used. -/
def isUsable (text : List Char) : Bool :=
  (whole text).isSome

end Pattern

end Log

end OpcodeBuckets
