import OpcodeBuckets.Assignment.Pass

/-!
# Opcode Tables

The opcodes of an instruction set, assigned in one pass and checked.

A table is built only from a pass whose opcodes are distinct, so looking an
instruction up by name finds the one entry it has. The entries stand in ordinal
order whatever the order of the list was.

The pass can be traced. A step is printed when it is taken, and the opcodes are
judged when the pass is over, so what is printed does not depend on the verdict
and the lines of a refused list are printed as well.

## Main definitions

* `OpcodeTable`: Instructions with their opcodes.
* `OpcodeTable.Build`: What building a table comes to.
* `OpcodeTable.build`: Builds the table of an instruction set, traced or not.
* `OpcodeTable.ofInstructionSet`: The table of an instruction set, or the refusal.
* `OpcodeTable.opcode?`: The opcode of an instruction.
* `OpcodeTable.maxOpcode`, `OpcodeTable.bitWidth`: The highest opcode, and the
  bits it takes.
* `OpcodeTable.standard`: The table of the standard instruction set.

## Theorems

* `OpcodeTable.ofPass_eq_ok_iff`, `OpcodeTable.ofPass_eq_error_iff`: The two verdicts on
  a pass.
* `OpcodeTable.verdict_build`: Tracing prints and does nothing else.
-/

namespace OpcodeBuckets

/-- Instructions with their opcodes, in ordinal order. -/
structure OpcodeTable where
  /-- Every instruction of the table with its opcode. -/
  entries : List (Instruction × Opcode)
  deriving DecidableEq, Repr

namespace OpcodeTable

/-- The table of a finished pass, refused when two instructions share an opcode. -/
def ofPass (pass : Assignment.Pass) : Except UniquenessError OpcodeTable :=
  (Assignment.checkDistinct (pass.entries.map Prod.swap)).map fun _ => ⟨pass.entries⟩

theorem ofPass_eq_ok_iff {pass : Assignment.Pass} {table : OpcodeTable} :
    ofPass pass = .ok table ↔
      Assignment.checkDistinct (pass.entries.map Prod.swap) = .ok () ∧
        table.entries = pass.entries := by
  rcases table with ⟨entries⟩
  rw [ofPass]
  cases Assignment.checkDistinct (pass.entries.map Prod.swap) with
  | error refusal => simp only [Except.map, reduceCtorEq, false_and]
  | ok _ =>
    simp only [Except.map, Except.ok.injEq, mk.injEq, true_and]
    exact eq_comm

theorem ofPass_eq_error_iff {pass : Assignment.Pass} {refusal : UniquenessError} :
    ofPass pass = .error refusal ↔
      Assignment.checkDistinct (pass.entries.map Prod.swap) = .error refusal := by
  rw [ofPass]
  cases Assignment.checkDistinct (pass.entries.map Prod.swap) with
  | error other => simp only [Except.map, Except.error.injEq]
  | ok _ => simp only [Except.map, reduceCtorEq]

/-- What building a table comes to. -/
structure Build where
  /-- The lines that are printed. -/
  printed : List String
  /-- The table, or the refusal. -/
  verdict : Except UniquenessError OpcodeTable

/-- Builds the table of an instruction set. With tracing each step of the pass is printed,
    before the opcodes are judged. -/
def build (tracing : Bool) (set : InstructionSet) : Build :=
  let pass := Assignment.Pass.ofInstructionSet set
  { printed := if tracing then pass.trace else []
    verdict := ofPass pass }

/-- The table of an instruction set, refused when two instructions share an opcode. -/
def ofInstructionSet (set : InstructionSet) : Except UniquenessError OpcodeTable :=
  (build false set).verdict

/-- Tracing prints and does nothing else. -/
theorem verdict_build (tracing : Bool) (set : InstructionSet) :
    (build tracing set).verdict = ofInstructionSet set :=
  rfl

theorem ofInstructionSet_eq_ofPass (set : InstructionSet) :
    ofInstructionSet set = ofPass (.ofInstructionSet set) :=
  rfl

/-- The table of the standard instruction set, after both ways of assigning
    opcodes have been checked. -/
def standard : Except UniquenessError OpcodeTable := do
  InstructionSet.standard.verify
  ofInstructionSet .standard

/-- The opcode of an instruction, if the table has it. -/
def opcode? (table : OpcodeTable) (instruction : Instruction) : Option Opcode :=
  table.entries.lookup instruction

/-- The number of instructions in the table. -/
def size (table : OpcodeTable) : Nat :=
  table.entries.length

/-- Whether the table has no instructions. -/
def isEmpty (table : OpcodeTable) : Bool :=
  table.entries.isEmpty

/-- The highest opcode of the table, or zero when it is empty. -/
def maxOpcode (table : OpcodeTable) : Opcode :=
  (Opcode.highest? (table.entries.map Prod.snd)).getD ⟨0⟩

/-- The bits it takes to write down any opcode of the table. -/
def bitWidth (table : OpcodeTable) : Nat :=
  table.maxOpcode.bitLength

end OpcodeTable

end OpcodeBuckets
