import OpcodeBuckets.CommandLine.Request

/-!
# Help Texts

What the program prints when it is asked for help.

## Main definitions

* `Topic.text`: The help about a topic.
* `usageNotice`: What is printed when arguments spell no request.
-/

namespace OpcodeBuckets

namespace CommandLine

/-- Lines of text, each ended by a line feed. -/
def lines (texts : List String) : String :=
  String.join (texts.map fun text => text ++ "\n")

/-- The help about a topic. -/
def Topic.text : Topic → String
  | .program => lines [
      "stack-opcodes ",
      "Assigns bucketed opcodes to the stack machine's instructions",
      "",
      "USAGE:",
      "    stack-opcodes [SUBCOMMAND]",
      "",
      "OPTIONS:",
      "    -h, --help    Print help information",
      "",
      "SUBCOMMANDS:",
      "    check     Only run the uniqueness check",
      "    help      Print this message or the help of the given subcommand(s)",
      "    lookup    Print the opcode and buckets of the named instructions",
      "    table     Print every instruction with its opcode (the default)"]
  | .command .table => lines [
      "stack-opcodes-table ",
      "Print every instruction with its opcode (the default)",
      "",
      "USAGE:",
      "    stack-opcodes table [OPTIONS]",
      "",
      "OPTIONS:",
      "        --bits          Also print the individual instruction bits",
      "    -h, --help          Print help information",
      "        --no-binary     ",
      "        --no-summary    "]
  | .command .lookup => lines [
      "stack-opcodes-lookup ",
      "Print the opcode and buckets of the named instructions",
      "",
      "USAGE:",
      "    stack-opcodes lookup <MNEMONICS>...",
      "",
      "ARGS:",
      "    <MNEMONICS>...    ",
      "",
      "OPTIONS:",
      "    -h, --help    Print help information"]
  | .command .check => lines [
      "stack-opcodes-check ",
      "Only run the uniqueness check",
      "",
      "USAGE:",
      "    stack-opcodes check",
      "",
      "OPTIONS:",
      "    -h, --help    Print help information"]
  | .command .help => lines [
      "stack-opcodes-help ",
      "Print this message or the help of the given subcommand(s)",
      "",
      "USAGE:",
      "    stack-opcodes help [SUBCOMMAND]...",
      "",
      "ARGS:",
      "    <SUBCOMMAND>...    The subcommand whose help message to display"]

/-- What is printed when arguments spell no request. -/
def usageNotice : String :=
  lines [
    "error: the arguments do not spell a request",
    "",
    "USAGE:",
    "    stack-opcodes [SUBCOMMAND]",
    "",
    "For more information try --help"]

end CommandLine

end OpcodeBuckets
