import OpcodeBuckets.Assignment.Collision
import OpcodeBuckets.InstructionSet

/-!
# Opcodes by Rank

The opcode of an instruction, worked out from the instruction set alone.

The instructions of one bucket set form a class. An instruction's index in its
class is its rank there: the number of listed classmates of lower ordinal, each
counted as often as it is listed. Together with the bucket set the rank makes
the opcode. Nothing is looked up and nothing is remembered, so the rank is
defined for instructions that the list does not contain too; it is the index
they would have.

## Main definitions

* `InstructionSet.bucketSet`: The buckets of an instruction.
* `InstructionSet.classIndex`: The rank of an instruction in its class.
* `InstructionSet.opcode`: The opcode of an instruction.
* `InstructionSet.maxOpcode`: The highest opcode of a listed instruction.
* `InstructionSet.bitWidth`: The bits it takes to write any of them down.
* `InstructionSet.verify`: Refuses a list whose opcodes are not distinct.
-/

namespace OpcodeBuckets

namespace InstructionSet

/-- The buckets of an instruction. -/
def bucketSet (set : InstructionSet) (instruction : Instruction) : BucketSet :=
  (Bucket.all.filter fun bucket => set.inBucket bucket instruction).foldl BucketSet.insert ∅

/-- The listed classmates of an instruction that have a lower ordinal. -/
def preceding (set : InstructionSet) (instruction : Instruction) : List Instruction :=
  set.instructions.filter fun other =>
    decide (other < instruction) && set.bucketSet other == set.bucketSet instruction

/-- The rank of an instruction in its class. A count too great for a word becomes
    the greatest word. -/
def classIndex (set : InstructionSet) (instruction : Instruction) : UInt32 :=
  UInt32.ofNatClamp (set.preceding instruction).length

/-- The opcode of an instruction, which need not be listed. -/
def opcode (set : InstructionSet) (instruction : Instruction) : Opcode :=
  .pack (set.classIndex instruction) (set.bucketSet instruction)

/-- The highest opcode of a listed instruction, or zero when none is listed. -/
def maxOpcode (set : InstructionSet) : Opcode :=
  (Opcode.highest? (set.instructions.map set.opcode)).getD ⟨0⟩

/-- The bits it takes to write down the opcode of any listed instruction. -/
def bitWidth (set : InstructionSet) : Nat :=
  set.maxOpcode.bitLength

/-- The listed instructions with their opcodes, in list order. -/
def opcodes (set : InstructionSet) : List (Instruction × Opcode) :=
  set.instructions.map fun instruction => (instruction, set.opcode instruction)

/-- Accepts an instruction set whose opcodes are distinct. A refusal names the
    instructions of each collision in list order. -/
def verify (set : InstructionSet) : Except UniquenessError Unit :=
  Assignment.checkDistinct (set.opcodes.map Prod.swap)

/-- Whether the opcodes of the instruction set are distinct. -/
def isUnique (set : InstructionSet) : Bool :=
  set.verify.isOk

end InstructionSet

end OpcodeBuckets
