/-!
# Log Events

What the program has to say about its own work.

An event has a level, the part of the program it comes from, a message and some
named values. It is written as one line: the level, the message, and each value
behind its name.

Levels are ordered by how much they let through. `off` is the level of a
setting that lets nothing through, and no event has it.

## Main definitions

* `Level`: How much a setting lets through, or how grave an event is.
* `Level.ofText?`: The level a text names.
* `Event`: What the program says at one point.
* `Event.line`: An event as one line.
-/

namespace OpcodeBuckets

namespace Log

/-- How much a setting lets through, or how grave an event is. -/
inductive Level where
  | off
  | error
  | warn
  | info
  | debug
  | trace
  deriving DecidableEq, Repr

namespace Level

/-- Every level, from the one that lets through least. -/
def all : List Level :=
  [.off, .error, .warn, .info, .debug, .trace]

/-- How much a level lets through, counted from nothing. -/
def rank : Level → Nat
  | .off => 0
  | .error => 1
  | .warn => 2
  | .info => 3
  | .debug => 4
  | .trace => 5

/-- The name of a level, as lines of a log show it. -/
def name : Level → String
  | .off => "OFF"
  | .error => "ERROR"
  | .warn => "WARN"
  | .info => "INFO"
  | .debug => "DEBUG"
  | .trace => "TRACE"

/-- Whether a setting of the first level lets an event of the second through. -/
def admits (setting event : Level) : Bool :=
  decide (event.rank ≤ setting.rank)

/-- The number a text denotes: ASCII digits, behind a plus sign or not. -/
def numeral? (text : List Char) : Option Nat :=
  let digits := if text.head? = some '+' then text.tail else text
  if digits.isEmpty || !digits.all Char.isDigit then none
  else some (Nat.ofDigitChars 10 digits 0)

/-- The level a text names: by its name in any letter case, or by its rank. -/
def ofText? (text : List Char) : Option Level :=
  match numeral? text with
  | some n => all[n]?
  | none => all.find? fun level => level.name.toList == text.map Char.toUpper

end Level

/-- What the program says at one point. -/
structure Event where
  /-- How grave the event is. -/
  level : Level
  /-- The part of the program the event comes from. -/
  origin : String
  /-- What happened. -/
  message : String
  /-- The values that belong to the event, each behind its name. -/
  values : List (String × String)
  deriving DecidableEq, Repr

namespace Event

/-- The names under which an event carries something; the message is one of them. -/
def names (event : Event) : List String :=
  "message" :: event.values.map Prod.fst

/-- The event as one line. -/
def line (event : Event) : String :=
  event.level.name ++ " " ++ event.message ++
    String.join (event.values.map fun (name, value) => " " ++ name ++ "=" ++ value)

end Event

end Log

end OpcodeBuckets
