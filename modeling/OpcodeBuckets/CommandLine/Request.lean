import OpcodeBuckets.Report

/-!
# Requests

What a user asks of the program on its command line.

Arguments are read from left to right. The first names a command, and what
follows belongs to it; with no arguments at all the table is asked for. A help
flag is granted as soon as it is met, so arguments behind it are not looked at
and arguments in front of it need only have been acceptable one by one. Behind a
lone double dash nothing is a flag any more.

Arguments that spell no request are refused as a whole.

## Main definitions

* `CommandName`: The commands of the program, by name.
* `Topic`: What help can be asked about.
* `Command`: Work on the opcode table.
* `Request`: What a user asks of the program.
* `Request.ofArguments?`: The request that arguments spell.
-/

namespace OpcodeBuckets

namespace CommandLine

/-- The commands of the program, by name. -/
inductive CommandName where
  | table
  | lookup
  | check
  | help
  deriving DecidableEq, Repr

namespace CommandName

/-- Every command. -/
def all : List CommandName :=
  [.table, .lookup, .check, .help]

/-- The word that names a command on the command line. -/
def word : CommandName → String
  | .table => "table"
  | .lookup => "lookup"
  | .check => "check"
  | .help => "help"

/-- The command a word names. Commands are not abbreviated. -/
def ofWord? (word : String) : Option CommandName :=
  all.find? fun name => name.word == word

end CommandName

/-- What help can be asked about. -/
inductive Topic where
  /-- The program as a whole. -/
  | program
  /-- One of its commands. -/
  | command (name : CommandName)
  deriving DecidableEq, Repr

/-- Work on the opcode table. -/
inductive Command where
  /-- Print every instruction with its opcode. -/
  | table (options : ReportOptions)
  /-- Print the opcodes of the instructions that the words name. -/
  | lookup (words : List String)
  /-- Only check that the opcodes are distinct. -/
  | check
  deriving DecidableEq, Repr

/-- What a user asks of the program. -/
inductive Request where
  /-- Do some work. -/
  | command (command : Command)
  /-- Print help. -/
  | help (topic : Topic)
  deriving DecidableEq, Repr

/-- Whether an argument asks for help. The short flag may have more letters
    behind it, which are not looked at. -/
def isHelpFlag (argument : String) : Bool :=
  argument == "--help" || "-h".toList.isPrefixOf argument.toList

/-- Whether an argument has the form of a flag: a dash and more. -/
def isFlag (argument : String) : Bool :=
  argument.toList.head? == some '-' && argument != "-"

/-- The flags of the command that prints the table. -/
inductive TableFlag where
  | noBinary
  | bits
  | noSummary
  deriving DecidableEq, Repr

namespace TableFlag

/-- How a flag is written. -/
def word : TableFlag → String
  | .noBinary => "--no-binary"
  | .bits => "--bits"
  | .noSummary => "--no-summary"

/-- The flag an argument spells. Flags are not abbreviated. -/
def ofWord? (argument : String) : Option TableFlag :=
  [noBinary, bits, noSummary].find? fun flag => flag.word == argument

/-- The report that flags ask for. -/
def options (flags : List TableFlag) : ReportOptions where
  binary := !flags.contains .noBinary
  instructionBits := flags.contains .bits
  summary := !flags.contains .noSummary

end TableFlag

namespace Request

/-- A table with the flags met so far. No flag may be given twice, which is noticed
    only when all arguments have been read. -/
def ofTableArguments? (flags : List TableFlag) : List String → Option Request
  | [] => if flags.Nodup then some (.command (.table (TableFlag.options flags))) else none
  | ["--"] => if flags.Nodup then some (.command (.table (TableFlag.options flags))) else none
  | argument :: rest =>
    if isHelpFlag argument then some (.help (.command .table))
    else
      match TableFlag.ofWord? argument with
      | some flag => ofTableArguments? (flags ++ [flag]) rest
      | none => none

/-- A request to look up words, of which there must be at least one. -/
def ofWords? (words : List String) : Option Request :=
  if words.isEmpty then none else some (.command (.lookup words))

/-- A request to look up words, with the words met so far. -/
def ofLookupArguments? (words : List String) : List String → Option Request
  | [] => ofWords? words
  | "--" :: rest => ofWords? (words ++ rest)
  | argument :: rest =>
    if isHelpFlag argument then some (.help (.command .lookup))
    else if isFlag argument then none
    else ofLookupArguments? (words ++ [argument]) rest

/-- A request to check the table, which takes no arguments. -/
def ofCheckArguments? : List String → Option Request
  | [] => some (.command .check)
  | ["--"] => some (.command .check)
  | argument :: _ => if isHelpFlag argument then some (.help (.command .check)) else none

/-- A request for help, about one command at most. -/
def ofHelpArguments? : List String → Option Request
  | [] => some (.help .program)
  | [word] => (CommandName.ofWord? word).map fun name => .help (.command name)
  | _ => none

/-- The request that arguments spell. -/
def ofArguments? : List String → Option Request
  | [] => some (.command (.table {}))
  | ["--"] => some (.command (.table {}))
  | argument :: rest =>
    if isHelpFlag argument then some (.help .program)
    else
      match CommandName.ofWord? argument with
      | some .table => ofTableArguments? [] rest
      | some .lookup => ofLookupArguments? [] rest
      | some .check => ofCheckArguments? rest
      | some .help => ofHelpArguments? rest
      | none => none

end Request

end CommandLine

end OpcodeBuckets
