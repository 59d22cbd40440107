import OpcodeBuckets.CommandLine.Help
import OpcodeBuckets.Diagnostic.Snippet
import OpcodeBuckets.Log.Filter
import OpcodeBuckets.Source.MnemonicList

/-!
# Running the Program

What the program does with its arguments, as a value.

A run has an exit code, what it prints, what it reports beside that, and the
events it logs. Which of the events are shown is the business of a filter, and
`start` is a run with its filter. Help and refused arguments are answered at
once. Everything else goes through the checked table of the standard instruction
set first.

Looking up is all or nothing: when the words hold an error, the run reports each
of the errors and prints nothing.

## Main definitions

* `Outcome`: What a run comes to.
* `passEvents`: What is logged about assigning opcodes.
* `lookup`: The instructions that a source names, with their opcodes.
* `lookupLine`: An instruction as looking up prints it.
* `perform`: What a command comes to, given the standard table.
* `run`: What the program does with its arguments.
* `start`: What the program leaves behind under a setting of its log.
-/

namespace OpcodeBuckets

namespace CommandLine

/-- What a run comes to. -/
structure Outcome where
  /-- The exit code. -/
  exitCode : UInt32 := 0
  /-- What is printed. -/
  output : String := ""
  /-- What is reported beside the output. -/
  reports : String := ""
  /-- What is logged. -/
  events : List Log.Event := []
  deriving DecidableEq, Repr

/-- The lines of what a run reports. -/
def Outcome.reportLines (outcome : Outcome) : List String :=
  (outcome.reports.toList.splitOn '\n').dropLast.map String.ofList

/-- What is logged about assigning opcodes in one pass: each class, then the whole. -/
def passEvents (pass : Assignment.Pass) : List Log.Event :=
  let origin := "stack_opcodes::assign::table"
  pass.classes.map (fun (buckets, cursor) =>
    { level := .debug, origin, message := "bucket class",
      values := [("buckets", buckets.text), ("members", cursor.seen.toNat.repr)] }) ++
  [{ level := .info, origin, message := "opcodes assigned",
     values := [("instructions", pass.steps.length.repr),
       ("classes", pass.classes.length.repr)] }]

/-- What is logged about a table whose opcodes are distinct. -/
def checkEvent (table : OpcodeTable) : Log.Event where
  level := .info
  origin := "stack_opcodes"
  message := "opcodes are unique"
  values := [("instructions", table.size.repr)]

/-- The name of the arguments in diagnostics about them. -/
def argumentsName : String :=
  "<arguments>"

/-- The name of the instruction set in diagnostics about it. -/
def instructionSetName : String :=
  "<instruction set>"

/-- The instructions that a source names, with their opcodes in a table. -/
def lookup (table : OpcodeTable) (source : String) :
    Except (List Source.SourceError) (List (Instruction × Opcode)) :=
  (Source.readMnemonics source).map fun instructions =>
    instructions.filterMap fun instruction =>
      (table.opcode? instruction).map fun opcode => (instruction, opcode)

/-- An instruction as looking up prints it: mnemonic, opcode in base ten and in base
    two, and buckets. -/
def lookupLine (table : OpcodeTable) (entry : Instruction × Opcode) : String :=
  Text.padRight 16 entry.1.mnemonic ++
    " " ++ entry.2.decimalColumn 3 ++
    " " ++ entry.2.binaryColumn table.bitWidth ++
    "  " ++ (InstructionSet.standard.bucketSet entry.1).text ++ "\n"

/-- The diagnostics of the errors in a source of the given name, as text. -/
def renderErrors (name source : String) (errors : List Source.SourceError) : String :=
  Diagnostic.renderAll name source (errors.map Source.SourceError.diagnostic)

/-- The line that counts the errors of a lookup. -/
def failureLine (errors : List Source.SourceError) : String :=
  "Error: \"" ++ errors.length.repr ++ " unknown instruction(s)\"\n"

/-- Looks up the words of the arguments, which are read as one source. -/
def performLookup (table : OpcodeTable) (words : List String) : Outcome :=
  let source := " ".intercalate words
  match lookup table source with
  | .ok entries => { output := String.join (entries.map (lookupLine table)) }
  | .error errors =>
    { exitCode := 1, reports := renderErrors argumentsName source errors ++ failureLine errors }

/-- What a command comes to, given the standard table. -/
def perform (table : OpcodeTable) : Command → Outcome
  | .table options => { output := Report.render table options }
  | .lookup words => performLookup table words
  | .check =>
    { output := table.size.repr ++ " instructions, all opcodes distinct, " ++
        table.bitWidth.repr ++ " instruction bits\n"
      events := [checkEvent table] }

/-- What a command comes to, the standard table being checked first. -/
def performChecked (command : Command) : Outcome :=
  match OpcodeTable.standard with
  | .ok table =>
    let outcome := perform table command
    { outcome with
      events := passEvents (.ofInstructionSet .standard) ++ outcome.events }
  | .error refusal =>
    { exitCode := 1, reports := refusal.diagnostic.render instructionSetName "" }

/-- What the program does with its arguments. -/
def run (arguments : List String) : Outcome :=
  match Request.ofArguments? arguments with
  | none => { exitCode := 2, reports := usageNotice }
  | some (.help topic) => { output := topic.text }
  | some (.command command) => performChecked command

/-- What a run leaves behind for its user to see. -/
structure Transcript where
  /-- The exit code. -/
  exitCode : UInt32
  /-- What is printed. -/
  output : String
  /-- The lines of the log that the filter lets through. -/
  logLines : List String
  /-- The lines reported beside the output, which come after those of the log. -/
  reportLines : List String
  deriving DecidableEq, Repr

/-- The exit code of a run that ends before it has begun. -/
def abortedCode : UInt32 :=
  101

/-- What the program leaves behind when it runs under a setting of its log. Without a
    filter for the log it does not begin. -/
def start (setting : Option String) (arguments : List String) : Transcript :=
  match Log.Filter.ofSetting? setting with
  | none =>
    { exitCode := abortedCode
      output := ""
      logLines := []
      reportLines := ["the log setting cannot be taken apart between its characters"] }
  | some filter =>
    let outcome := run arguments
    { exitCode := outcome.exitCode
      output := outcome.output
      logLines := filter.lines outcome.events
      reportLines := outcome.reportLines }

end CommandLine

end OpcodeBuckets
