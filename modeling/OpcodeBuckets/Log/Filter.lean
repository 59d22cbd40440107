import OpcodeBuckets.Log.Directive

/-!
# Log Filters

Which events of a program reach its log.

A filter is a list of directives, set apart by commas. About each event the most
specific of the directives that concern it decides, and of directives that are
equally specific the last one given. An event that no directive concerns does
not reach the log.

A setting that is missing or malformed is no reason to stop: the filter is then
the one that lets warnings through. Only a setting whose parts cut through its
characters leaves the program without a filter. Of two faults the first decides.

## Main definitions

* `Filter`: The directives of a filter.
* `Filter.parse`: The filter a text spells.
* `Filter.ofSetting?`: The filter of a setting that may be missing or malformed.
* `Filter.admits`: Whether an event reaches the log.
-/

namespace OpcodeBuckets

namespace Log

/-- The directives of a filter, in the order they were given. -/
structure Filter where
  /-- The directives themselves. -/
  directives : List Directive
  deriving DecidableEq, Repr

namespace Filter

/-- The filter a text spells. It is no fault if nothing stands between two commas. -/
def parse (text : String) : Except Directive.Fault Filter := do
  let pieces := (text.toList.splitOn ',').filter fun piece => !piece.isEmpty
  return ⟨← pieces.mapM Directive.parse⟩

/-- The filter that lets warnings through. -/
def standard : Filter :=
  ⟨[{ level := .warn }]⟩

/-- The filter of a setting that may be missing or malformed. There is none for a
    setting that cannot be taken apart between its characters. -/
def ofSetting? : Option String → Option Filter
  | none => some standard
  | some text =>
    match parse text with
    | .ok filter => some filter
    | .error .malformed => some standard
    | .error .splitCharacter => none

/-- The directive that decides about an event. -/
def decisive? (filter : Filter) (event : Event) : Option Directive :=
  (filter.directives.filter fun directive => directive.concerns event).foldl
    (fun best directive =>
      match best with
      | none => some directive
      | some earlier => if directive.outranks earlier then some directive else some earlier)
    none

/-- Whether an event reaches the log. -/
def admits (filter : Filter) (event : Event) : Bool :=
  (filter.decisive? event).any fun directive => directive.level.admits event.level

/-- The lines of a log: the events that reach it, each on its own. -/
def lines (filter : Filter) (events : List Event) : List String :=
  (events.filter filter.admits).map Event.line

end Filter

end Log

end OpcodeBuckets
