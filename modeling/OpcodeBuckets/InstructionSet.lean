import OpcodeBuckets.Bucket
import OpcodeBuckets.Instruction

/-!
# Instruction Sets

A list of instructions together with a table that sorts instructions into
buckets.

The table is a list of rows, and its rows are free: several may name the same
bucket, a bucket may have none, a row may be empty or name an instruction
twice. A bucket holds an instruction when some row of that bucket names it, so
rows of one bucket are merged and their order is without effect. The table also
speaks about instructions that the list does not contain.

## Main definitions

* `BucketRow`: One row of a bucket table.
* `InstructionSet`: A list of instructions and a bucket table.
* `InstructionSet.inBucket`: Whether the table puts an instruction in a bucket.
* `InstructionSet.members`: What the table puts in a bucket, by ordinal.
* `InstructionSet.standard`: All instructions and their usual buckets.
-/

namespace OpcodeBuckets

/-- One row of a bucket table. -/
structure BucketRow where
  /-- The bucket the row is about. -/
  bucket : Bucket
  /-- The instructions the row puts into the bucket. -/
  members : List Instruction
  deriving DecidableEq, Repr

/-- A list of instructions and the table that sorts instructions into buckets. -/
structure InstructionSet where
  /-- The instructions that are to receive opcodes. -/
  instructions : List Instruction
  /-- The rows of the bucket table. -/
  bucketTable : List BucketRow
  deriving DecidableEq, Repr

namespace InstructionSet

/-- The rows of the table that are about a bucket. -/
def rowsOf (set : InstructionSet) (bucket : Bucket) : List BucketRow :=
  set.bucketTable.filter fun row => row.bucket == bucket

/-- Whether some row of the bucket names the instruction. -/
def inBucket (set : InstructionSet) (bucket : Bucket) (instruction : Instruction) : Bool :=
  (set.rowsOf bucket).any fun row => row.members.contains instruction

/-- The instructions the table puts in a bucket, by ascending ordinal and each
    one once: sorting brings repeats together, and all but the first are dropped. -/
def members (set : InstructionSet) (bucket : Bucket) : List Instruction :=
  (Instruction.sorted ((set.rowsOf bucket).flatMap BucketRow.members)).eraseReps

/-- The usual buckets. -/
def standardBuckets : List BucketRow :=
  [⟨.hasArg, [.push, .dup, .swap, .call]⟩,
    ⟨.shrinkStack, [.pop, .skiz, .assert, .writeIo, .add, .mul, .eq, .xbMul]⟩,
    ⟨.u32, [.lt, .and, .xor, .log2Floor, .pow, .div, .split]⟩]

/-- All instructions and their usual buckets. -/
def standard : InstructionSet :=
  ⟨Instruction.all, standardBuckets⟩

end InstructionSet

end OpcodeBuckets
