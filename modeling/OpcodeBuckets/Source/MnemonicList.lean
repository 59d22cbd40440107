import OpcodeBuckets.Diagnostic
import OpcodeBuckets.Source.Token

/-!
# Mnemonic Lists

Reading the instructions that a source text names.

Mnemonics are separated by blanks, commas, line breaks and comments, in any
number and order. A word that is not a mnemonic is at fault, and so is every
stray character, each by itself. One fault is enough to refuse the source, but
reading goes on to the end so that all of them are reported, in source order.

## Main definitions

* `Fault`: What can be wrong with a token.
* `SourceError`: A fault and its place.
* `SourceError.message`, `SourceError.diagnostic`: A fault in words.
* `Token.instruction?`, `Token.error?`: What a token means.
* `readMnemonics`: The instructions a source names, or its errors.
-/

namespace OpcodeBuckets

namespace Source

/-- What can be wrong with a token. -/
inductive Fault where
  /-- A word that is not a mnemonic. -/
  | unknownMnemonic (word : String)
  /-- A character that begins no token. -/
  | unexpectedCharacter (text : String)
  deriving DecidableEq, Repr

namespace Fault

/-- The offending text. -/
def text : Fault → String
  | .unknownMnemonic word => word
  | .unexpectedCharacter text => text

/-- What is wrong, in words. -/
def message : Fault → String
  | .unknownMnemonic word => "unknown instruction `" ++ word ++ "`"
  | .unexpectedCharacter text => "unexpected `" ++ text ++ "`"

/-- What to say where the fault stands. -/
def pointer : Fault → String
  | .unknownMnemonic _ => "not a mnemonic"
  | .unexpectedCharacter _ => "separate mnemonics with spaces or commas"

/-- What else to say about the fault. -/
def notes : Fault → List String
  | .unknownMnemonic _ => ["mnemonics are lower case, e.g. `read_mem`"]
  | .unexpectedCharacter _ => []

end Fault

/-- A fault and its place in the source. -/
structure SourceError where
  /-- Where the fault stands. -/
  span : Span
  /-- What is wrong there. -/
  fault : Fault
  deriving DecidableEq, Repr

namespace SourceError

/-- The error in one line. -/
def message (error : SourceError) : String :=
  "error at " ++ error.span.start.repr ++ ".." ++ error.span.stop.repr ++ ": " ++
    error.fault.message

/-- The error as a diagnostic that points at the offending text. -/
def diagnostic (error : SourceError) : Diagnostic where
  severity := .error
  message := error.fault.message
  labels := [⟨.primary, error.span, error.fault.pointer⟩]
  notes := error.fault.notes

end SourceError

/-- The instruction a token names. -/
def Token.instruction? (token : Token) : Option Instruction :=
  match token.kind with
  | .mnemonic => Instruction.ofMnemonic? token.text
  | _ => none

/-- What is wrong with a token. -/
def Token.fault? (token : Token) : Option Fault :=
  match token.kind with
  | .mnemonic =>
    if (Instruction.ofMnemonic? token.text).isNone then some (.unknownMnemonic token.text)
    else none
  | .stray => some (.unexpectedCharacter token.text)
  | _ => none

/-- What is wrong with a token, and where. -/
def Token.error? (token : Token) : Option SourceError :=
  token.fault?.map fun fault => ⟨token.span, fault⟩

/-- The instructions a source names, in source order and repeats kept, or all its
    errors in source order. -/
def readMnemonics (source : String) : Except (List SourceError) (List Instruction) :=
  let tokens := Token.scan source
  match tokens.filterMap Token.error? with
  | [] => .ok (tokens.filterMap Token.instruction?)
  | errors => .error errors

end Source

end OpcodeBuckets
