/-!
# Readers

Functions that read something from the beginning of a text.

A reader takes a text and either refuses it or answers with what it has read
and with what is left. That it never leaves more than it was given is part of
its type, so whatever reads on behind a first character has a shorter text
before it. `untilDone` rests on that: it is the one loop, and the readers built
with it need no argument of their own for coming to an end.

Readers are put together with `do`, where a refusal anywhere refuses the whole.

## Main definitions

* `Behind`: What may be left of a text.
* `Reader`: A function that reads from the beginning of a text.
* `Reader.next`, `Reader.ahead`: The next character, read or only looked at.
* `Reader.attempt`: A reader whose refusal is an answer.
* `Reader.untilDone`: Reading character by character until something is done.
-/

namespace OpcodeBuckets

namespace Text

/-- What may be left of a text when something has been read from its beginning. -/
abbrev Behind (text : List Char) : Type :=
  { rest : List Char // rest.length ≤ text.length }

/-- A function that reads something from the beginning of a text, or refuses it. -/
def Reader (α : Type) : Type :=
  (text : List Char) → Option (α × Behind text)

namespace Reader

variable {σ α β : Type}

/-- Reads nothing and answers with a value. -/
def answer (a : α) : Reader α :=
  fun text => some (a, ⟨text, Nat.le_refl _⟩)

/-- Reads something, and then what depends on it. -/
def followedBy (reader : Reader α) (next : α → Reader β) : Reader β :=
  fun text =>
    match reader text with
    | none => none
    | some (a, rest) =>
      match next a rest.val with
      | none => none
      | some (b, last) => some (b, ⟨last.val, Nat.le_trans last.property rest.property⟩)

instance : Monad Reader where
  pure := answer
  bind := followedBy

/-- Refuses every text. -/
def refuse : Reader α :=
  fun _ => none

/-- Refuses the text unless something holds. -/
def require (holds : Bool) : Reader Unit :=
  if holds then answer () else refuse

/-- Reads a character. -/
def next : Reader Char
  | [] => none
  | c :: rest => some (c, ⟨rest, Nat.le_succ _⟩)

/-- Looks at the whole text and reads nothing. -/
def ahead : Reader (List Char) :=
  fun text => some (text, ⟨text, Nat.le_refl _⟩)

/-- Reads characters as long as they satisfy a condition. -/
def takeWhile (condition : Char → Bool) : Reader (List Char) :=
  fun text => some (text.takeWhile condition,
    ⟨text.dropWhile condition, (List.dropWhile_sublist condition).length_le⟩)

/-- Reads the given character. -/
def only (c : Char) : Reader Unit := do
  require ((← next) == c)

/-- Reads what a reader reads, or nothing where the reader refuses the text. -/
def attempt (reader : Reader α) : Reader (Option α) :=
  fun text =>
    match reader text with
    | none => some (none, ⟨text, Nat.le_refl _⟩)
    | some (a, rest) => some (some a, rest)

/-- Reads the given character if it is the next one, and says whether it was. -/
def optional (c : Char) : Reader Bool := do
  return (← attempt (only c)).isSome

/-- Reads character by character. The state decides what is passed over before the
    next character; the step reads on behind the character and answers with a state
    to go on with or with a result; at the end of the text the state decides whether
    there is a result after all. -/
def untilDone (between : σ → Reader Unit) (step : σ → Char → Reader (σ ⊕ α))
    (finish : σ → Option α) (state : σ) : Reader α := fun text =>
  match between state text with
  | none => none
  | some (_, ⟨[], shorter⟩) => (finish state).map fun a => (a, ⟨[], shorter⟩)
  | some (_, ⟨c :: tail, shorter⟩) =>
    match step state c tail with
    | none => none
    | some (.inr a, rest) =>
      some (a, ⟨rest.val, Nat.le_trans (Nat.le_succ_of_le rest.property) shorter⟩)
    | some (.inl state, rest) =>
      (untilDone between step finish state rest.val).map fun (a, last) =>
        (a, ⟨last.val,
          Nat.le_trans last.property (Nat.le_trans (Nat.le_succ_of_le rest.property) shorter)⟩)
  termination_by text => text.length
  decreasing_by exact Nat.lt_of_lt_of_le (Nat.lt_succ_of_le rest.property) shorter

end Reader

end Text

end OpcodeBuckets
