import OpcodeBuckets.Log.Pattern.Mode

/-!
# Signs of Patterns

The smallest parts of a pattern, and where each of them can be used.

A pattern is tried on texts, and it is made ready for that without any table of
the letters and digits of the world's scripts. Whatever would need such a table
can only be used where the pattern is about bytes: the classes that a letter
names, the edges of words, and, where case does not count, every character.

Bytes have a limit of their own. No sign may match a part of a character, so
about bytes there is nothing that stands for a byte beyond ASCII: neither its
number, nor any character whatever, nor all that lies outside a class.

## Main definitions

* `Sign`: The smallest part of a pattern.
* `Sign.standsAlone`: Whether a sign can be used by itself.
* `Sign.standsInSet`: Whether a sign can be used in a set.
* `Sign.escaped`: Reads the sign that a backslash announces.
-/

namespace OpcodeBuckets

namespace Log

namespace Pattern

open Text (Reader)

/-- The smallest part of a pattern. -/
inductive Sign where
  /-- A character, which may have been given by the number of a byte. -/
  | character (c : Char) (byNumber : Bool)
  /-- Any character of a line. -/
  | any
  /-- A class that a letter names, or all that lies outside it. -/
  | named (outside : Bool)
  /-- The beginning or the end of a line or text. -/
  | border
  /-- A place where a word begins or ends, or one where none does. -/
  | wordBorder
  deriving DecidableEq, Repr

namespace Sign

/-- Whether the sign can be used by itself in the given mode. -/
def standsAlone (mode : Mode) : Sign → Bool
  | .character c byNumber =>
    if mode.unicode then !mode.caseless else !(byNumber && decide (0x7F < c.toNat))
  | .any => mode.unicode
  | .named outside => !mode.unicode && !outside
  | .border => true
  | .wordBorder => !mode.unicode

/-- Whether the sign can be used in a set in the given mode. -/
def standsInSet (mode : Mode) : Sign → Bool
  | .character c _ => if mode.unicode then !mode.caseless else decide (c.toNat ≤ 0x7F)
  | .named outside => !mode.unicode && !outside
  | .any | .border | .wordBorder => false

/-- What a hexadecimal digit stands for. -/
def hexDigit? (c : Char) : Option Nat :=
  if c.isDigit then some (c.toNat - '0'.toNat)
  else if 'a' ≤ c ∧ c ≤ 'f' then some (c.toNat - 'a'.toNat + 10)
  else if 'A' ≤ c ∧ c ≤ 'F' then some (c.toNat - 'A'.toNat + 10)
  else none

/-- Reads so many hexadecimal digits, which follow those of the given value. -/
def hexNumber (mode : Mode) : Nat → Nat → Reader Nat
  | 0, value => pure value
  | digits + 1, value => do
    mode.skip
    match hexDigit? (← Reader.next) with
    | some digit => hexNumber mode digits (16 * value + digit)
    | none => Reader.refuse

/-- Reads the number of a character in so many digits. Two digits number a byte. -/
def numbered (mode : Mode) (digits : Nat) : Reader Sign := do
  let number ← hexNumber mode digits 0
  Reader.require (decide number.isValidChar)
  return .character (Char.ofNat number) (digits == 2)

/-- Reads the sign that a backslash announces, which has been read. A letter or digit
    means something of its own or nothing, and other ASCII characters mean themselves;
    what is beyond ASCII needs no backslash and takes none. -/
def escaped (mode : Mode) : Reader Sign := do
  let c ← Reader.next
  match c with
  | 'x' => numbered mode 2
  | 'u' => numbered mode 4
  | 'U' => numbered mode 8
  | 'd' | 's' | 'w' => return .named false
  | 'D' | 'S' | 'W' => return .named true
  | 'A' | 'z' => return .border
  | 'b' | 'B' | '<' | '>' => return .wordBorder
  | 'a' => return .character '\x07' false
  | 't' => return .character '\t' false
  | 'n' => return .character '\n' false
  | 'v' => return .character '\x0B' false
  | 'f' => return .character '\x0C' false
  | 'r' => return .character '\r' false
  | _ =>
    Reader.require (decide (c.toNat < 0x80) && !c.isAlphanum)
    return .character c false

/-- Reads the sign that begins with the given character, in a place where only a
    backslash is more than a character. -/
def beginningWith (mode : Mode) (c : Char) : Reader Sign :=
  if c == '\\' then escaped mode else pure (.character c false)

end Sign

end Pattern

end Log

end OpcodeBuckets
