import OpcodeBuckets.Instruction
import OpcodeBuckets.Opcode

/-!
# Collisions

Opcodes that were handed out more than once.

`checkDistinct` takes opcodes with the instructions that received them, in any
order and from any source, and refuses the list when an opcode occurs twice.
The refusal lists each such opcode once, by ascending value, with everything
that received it in the order of the list, repeats kept.

The work is done in two steps that are useful apart. `holders` gathers the
instructions of each opcode, and its groups stand in the order in which their
opcodes first arrived. `collisionsOf` keeps the groups of more than one and
sorts them, after which that order is forgotten.

## Main definitions

* `Collision`: An opcode and the instructions that share it.
* `UniquenessError`: The refusal of a list of opcodes.
* `holders`: The instructions of each opcode.
* `collisionsOf`: The groups of more than one instruction, by opcode.
* `checkDistinct`: Refuses a list in which an opcode occurs twice.
-/

namespace OpcodeBuckets

/-- An opcode together with the instructions that share it. -/
structure Collision where
  /-- The shared opcode. -/
  opcode : Opcode
  /-- The instructions that received it, in the order they were looked at. -/
  instructions : List Instruction
  deriving DecidableEq, Repr

/-- An instruction list and a bucket table that do not produce distinct opcodes. -/
structure UniquenessError where
  /-- The opcodes that were handed out more than once. -/
  collisions : List Collision
  deriving DecidableEq, Repr

/-- The wording of one collision. -/
def Collision.message (collision : Collision) : String :=
  "opcode " ++ collision.opcode.decimalDigits ++ " is shared by " ++
    ", ".intercalate (collision.instructions.map fun i => "`" ++ i.mnemonic ++ "`")

namespace UniquenessError

/-- What every refusal says first. -/
def headline : String :=
  "opcodes are not unique"

/-- The advice that closes a refusal shown to a user. -/
def hint : String :=
  "adjust the bucket table or the instruction list"

/-- The wording of the refusal: the headline, then a line for each collision. -/
def message (error : UniquenessError) : String :=
  headline ++ String.join (error.collisions.map fun collision => "\n  " ++ collision.message)

end UniquenessError

namespace Assignment

/-- The instructions that hold one opcode. -/
abbrev Holders := List (Opcode × List Instruction)

/-- Adds an instruction to the group of its opcode, or opens that group at the end. -/
def addHolder (opcode : Opcode) (instruction : Instruction) : Holders → Holders
  | [] => [(opcode, [instruction])]
  | (other, held) :: rest =>
    if other = opcode then (other, held ++ [instruction]) :: rest
    else (other, held) :: addHolder opcode instruction rest

/-- The instructions of each opcode, the opcodes in the order they first arrive. -/
def holders (assigned : List (Opcode × Instruction)) : Holders :=
  assigned.foldl (fun groups pair => addHolder pair.1 pair.2 groups) []

/-- The groups of more than one instruction, by ascending opcode. -/
def collisionsOf (groups : Holders) : List Collision :=
  ((groups.filter fun group => decide (1 < group.2.length)).map fun group =>
    ⟨group.1, group.2⟩).mergeSort fun a b => decide (a.opcode ≤ b.opcode)

/-- Accepts a list of opcodes in which none occurs twice. -/
def checkDistinct (assigned : List (Opcode × Instruction)) : Except UniquenessError Unit :=
  match collisionsOf (holders assigned) with
  | [] => .ok ()
  | collisions => .error ⟨collisions⟩

end Assignment

end OpcodeBuckets
