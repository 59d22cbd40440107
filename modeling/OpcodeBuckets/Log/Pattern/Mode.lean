import OpcodeBuckets.Text.CodePoint
import OpcodeBuckets.Text.Reader

/-!
# Modes of Patterns

How the signs of a pattern are read, and how a pattern changes that.

A pattern is read about characters or about bytes, with letter case counting or
not, and with blanks standing for themselves or for nothing. Switches, which are
single letters, turn these on and off, and the mode they leave holds to the end
of the group in which they stand. Three further switches change what a pattern
matches but not how its signs are read.

## Main definitions

* `Mode`: How the signs of a pattern are read.
* `Mode.skip`: Reads blanks and comments where they count for nothing.
* `Mode.switch?`: The mode after a row of switches.
-/

namespace OpcodeBuckets

namespace Log

namespace Pattern

open Text (Reader)

/-- How the signs of a pattern are read from some point on. -/
structure Mode where
  /-- Whether the pattern is about characters; otherwise it is about bytes. -/
  unicode : Bool := true
  /-- Whether small and capital letters count as one. -/
  caseless : Bool := false
  /-- Whether blanks and comments count for nothing. -/
  spaced : Bool := false
  deriving DecidableEq, Repr

/-- What is left of a text behind its blanks and comments. A comment runs from a
    number sign to the end of its line. -/
def behindBlanks (inComment : Bool) : List Char → List Char
  | [] => []
  | c :: rest =>
    if inComment then behindBlanks (c != '\n') rest
    else if Text.isWhiteSpace c then behindBlanks false rest
    else if c == '#' then behindBlanks true rest
    else c :: rest

theorem length_behindBlanks_le (inComment : Bool) (text : List Char) :
    (behindBlanks inComment text).length ≤ text.length := by
  induction text generalizing inComment with
  | nil => exact Nat.le_refl _
  | cons c rest ih =>
    rw [behindBlanks]
    split
    · exact Nat.le_succ_of_le (ih _)
    split
    · exact Nat.le_succ_of_le (ih _)
    split
    · exact Nat.le_succ_of_le (ih _)
    · exact Nat.le_refl _

namespace Mode

/-- Reads blanks and comments where they count for nothing. -/
def skip (mode : Mode) : Reader Unit := fun text =>
  if mode.spaced then some ((), ⟨behindBlanks false text, length_behindBlanks_le false text⟩)
  else Reader.answer () text

/-- The first character of a text that counts. A comment counts here from the
    character behind its number sign on. -/
def firstOf? (mode : Mode) (text : List Char) : Option Char :=
  if mode.spaced then
    match text.dropWhile Text.isWhiteSpace with
    | '#' :: comment => (comment.dropWhile Text.isWhiteSpace).head?
    | rest => rest.head?
  else text.head?

/-- The mode with one switch on or off, if there is such a switch. -/
def turn? (on : Bool) (mode : Mode) : Char → Option Mode
  | 'u' => some { mode with unicode := on }
  | 'i' => some { mode with caseless := on }
  | 'x' => some { mode with spaced := on }
  | 'm' | 's' | 'R' | 'U' => some mode
  | _ => none

/-- The mode after a row of switches. Those behind a minus sign are turned off, and
    at least one must stand there if the sign does. Nothing may stand twice. -/
def switch? (mode : Mode) (switches : List Char) : Option Mode :=
  if switches.Nodup ∧ switches.getLast? ≠ some '-' then
    ((switches.takeWhile (· != '-')).foldlM (turn? true) mode).bind fun mode =>
      (switches.dropWhile (· != '-')).tail.foldlM (turn? false) mode
  else none

end Mode

end Pattern

end Log

end OpcodeBuckets
