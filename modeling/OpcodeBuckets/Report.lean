import OpcodeBuckets.OpcodeTable

/-!
# Reports

An opcode table as text.

Each entry has a line: the opcode in base ten, in base two if asked for, the
mnemonic, and the single bits if asked for. The columns line up because the
decimal field, the binary field and the space a mnemonic takes before the bits
are each of one width for the whole table. A summary of two lines may close the
report; a blank line sets it off from the entries when there are any.

## Main definitions

* `ReportOptions`: What a report shows.
* `Report.entryLine`: The line of one entry.
* `Report.summary`: The lines that close a report.
* `Report.render`: The whole report.
-/

namespace OpcodeBuckets

/-- What a report shows beside the opcode in base ten and the mnemonic. -/
structure ReportOptions where
  /-- The opcode in base two, as wide as the widest of the table. -/
  binary : Bool := true
  /-- The single bits of the opcode, `ib0` first. -/
  instructionBits : Bool := false
  /-- The highest opcode and the number of instruction bits. -/
  summary : Bool := true
  deriving DecidableEq, Repr

namespace Report

/-- The single bits of an opcode, each behind a blank and its own name. -/
def bitColumns (bits : List Bool) : String :=
  String.join (bits.zipIdx.map fun (bit, index) =>
    " ib" ++ index.repr ++ "=" ++ if bit then "1" else "0")

/-- The line of one entry, in a table whose opcodes take `width` bits. -/
def entryLine (options : ReportOptions) (width : Nat) (entry : Instruction × Opcode) : String :=
  entry.2.decimalColumn 3 ++
    (if options.binary then " " ++ entry.2.binaryColumn width else "") ++
    " " ++
    (if options.instructionBits then
      Text.padRight 16 entry.1.mnemonic ++ bitColumns (entry.2.instructionBits width)
    else entry.1.mnemonic) ++
    "\n"

/-- The lines that close a report. -/
def summary (table : OpcodeTable) : String :=
  (if table.isEmpty then "" else "\n") ++
    "highest opcode: " ++ table.maxOpcode.decimalDigits ++ "\n" ++
    "#ibs:           " ++ table.bitWidth.repr ++ "\n"

/-- The whole report. -/
def render (table : OpcodeTable) (options : ReportOptions) : String :=
  String.join (table.entries.map (entryLine options table.bitWidth)) ++
    if options.summary then summary table else ""

end Report

end OpcodeBuckets
