import OpcodeBuckets.Log.Pattern.Sign

/-!
# Sets in Patterns

The sets of characters that a pattern writes in brackets.

A set lists characters, ranges, named classes and further sets, and it may be
combined from two parts by a doubled operator: what both have, what only the
first has, or what just one of them has. A caret behind the opening bracket
stands for all that the set leaves out. At the beginning of a set hyphens stand
for themselves, and so does a closing bracket if nothing at all precedes it:
there is no writing an empty set by just closing it.

Reading a set finds out whether it can be used and how deep it nests.

## Main definitions

* `joined`: How deep parts nest that stand side by side.
* `OpenSet`: A set that is being read.
* `charSet`: Reads a set behind its opening bracket.
-/

namespace OpcodeBuckets

namespace Log

namespace Pattern

open Text (Reader)

/-- How deep parts nest that stand side by side: one part as deep as it does by
    itself, and several one level deeper than the deepest. -/
def joined : List Nat → Nat
  | [] => 0
  | [depth] => depth
  | depths => 1 + depths.foldl max 0

/-- A set that is being read. -/
structure OpenSet where
  /-- Whether hyphens still stand for themselves. -/
  fresh : Bool := true
  /-- How deep each item nests that has been read since the last operator. -/
  items : List Nat := []
  /-- How deep all nests that stands before the last operator. -/
  before : Option Nat := none
  deriving DecidableEq, Repr

namespace OpenSet

/-- How deep the set nests, so far as it has been read. -/
def depth (set : OpenSet) : Nat :=
  match set.before with
  | none => joined set.items
  | some before => 1 + max before (joined set.items)

/-- The set with another item. -/
def add (set : OpenSet) (depth : Nat) : OpenSet :=
  { set with fresh := false, items := depth :: set.items }

/-- The set with another hyphen at its beginning. -/
def addHyphen (set : OpenSet) : OpenSet :=
  { set with items := 0 :: set.items }

/-- The set with an operator behind what has been read. -/
def combine (set : OpenSet) : OpenSet :=
  { fresh := false, before := some set.depth }

end OpenSet

/-- The names of the ASCII classes. -/
def asciiClasses : List String :=
  ["alnum", "alpha", "ascii", "blank", "cntrl", "digit", "graph", "lower", "print", "punct",
    "space", "upper", "word", "xdigit"]

/-- Reads the name of an ASCII class between colons, behind an opening bracket, and
    the bracket that closes it. Answers whether all outside the class is meant. -/
def asciiClass : Reader Bool := do
  Reader.only ':'
  let outside ← Reader.optional '^'
  let name ← Reader.takeWhile (· != ':')
  Reader.only ':'
  Reader.only ']'
  Reader.require (asciiClasses.contains (String.ofList name))
  return outside

/-- Reads the caret of a set, if it has one, behind the opening bracket. About bytes
    a set cannot stand for what it leaves out. -/
def caret (mode : Mode) : Reader Unit := do
  mode.skip
  if ← Reader.optional '^' then Reader.require mode.unicode

/-- Reads a sign of a set, or a range of characters that begins with it. -/
def setItem (mode : Mode) (c : Char) : Reader Unit := do
  let first ← Sign.beginningWith mode c
  Reader.require (first.standsInSet mode)
  mode.skip
  match ← Reader.ahead with
  | '-' :: rest =>
    -- Before a closing bracket or another hyphen, a hyphen makes no range.
    unless [some ']', some '-'].contains (mode.firstOf? rest) do
      let _ ← Reader.next
      mode.skip
      let last ← Sign.beginningWith mode (← Reader.next)
      Reader.require (last.standsInSet mode)
      match first, last with
      | .character low _, .character high _ => Reader.require (decide (low ≤ high))
      | _, _ => Reader.refuse
  | _ => pure ()

/-- Reads on behind a character of a set. There is at least one set open, and those
    around it are kept from the inside out. -/
def setStep (mode : Mode) (sets : OpenSet × List OpenSet) (c : Char) :
    Reader ((OpenSet × List OpenSet) ⊕ Nat) := do
  let (set, around) := sets
  let doubled := (← Reader.ahead).head? == some c
  if c == '[' then
    match ← Reader.attempt asciiClass with
    | some outside =>
      Reader.require (if mode.unicode then !mode.caseless else !outside)
      return .inl (set.add 0, around)
    | none =>
      caret mode
      return .inl ({}, set :: around)
  else if c == ']' && !(set.fresh && set.items.isEmpty) then
    match around with
    | [] => return .inr (1 + set.depth)
    | parent :: around => return .inl (parent.add (1 + set.depth), around)
  else if c == '-' && set.fresh then
    Reader.require ((Sign.character c false).standsInSet mode)
    return .inl (set.addHyphen, around)
  else if doubled && (c == '&' || c == '-' || c == '~') then
    let _ ← Reader.next
    return .inl (set.combine, around)
  else if c == ']' then
    Reader.require ((Sign.character c false).standsInSet mode)
    return .inl (set.add 0, around)
  else
    setItem mode c
    return .inl (set.add 0, around)

/-- Reads a set behind its opening bracket, and answers how deep it nests. -/
def charSet (mode : Mode) : Reader Nat := do
  caret mode
  Reader.untilDone (fun _ => mode.skip) (setStep mode) (fun _ => none) ({}, [])

end Pattern

end Log

end OpcodeBuckets
