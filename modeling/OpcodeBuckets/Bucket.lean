/-!
# Buckets

The properties of instructions that opcodes carry in their own bits.

Bucket `i` owns bit `i` of every opcode, so the order of the buckets is the
order of the lowest bits. A bucket has one name in tables and two more
spellings for listings of a set's internals.

## Main definitions

* `Bucket`: A property of instructions.
* `Bucket.all`: Every bucket, by ascending index.
* `Bucket.index`: The bit a bucket owns.
* `Bucket.name`, `Bucket.ofName?`: The name a bucket is written by, and back.
* `Bucket.before`: The buckets ordered before a bucket.

## Theorems

* `Bucket.mem_all`: The list of all buckets leaves none out.
* `Bucket.index_inj`: Buckets of one index are one.
-/

namespace OpcodeBuckets

/-- A property of instructions that their opcodes carry in one bit. -/
inductive Bucket where
  /-- The instruction carries an immediate argument. -/
  | hasArg
  /-- The instruction shrinks the operational stack. -/
  | shrinkStack
  /-- The instruction works on 32-bit words. -/
  | u32
  deriving DecidableEq, Repr, Inhabited

namespace Bucket

/-- Every bucket, by ascending index. -/
def all : List Bucket :=
  [.hasArg, .shrinkStack, .u32]

/-- The number of buckets, which is the number of bits they take. -/
def count : Nat :=
  all.length

/-- The bit a bucket owns. -/
def index : Bucket → Nat
  | .hasArg => 0
  | .shrinkStack => 1
  | .u32 => 2

/-- The name a bucket is written by. -/
def name : Bucket → String
  | .hasArg => "has_arg"
  | .shrinkStack => "shrink_stack"
  | .u32 => "u32"

/-- The name of the bucket in camel case. -/
def label : Bucket → String
  | .hasArg => "HasArg"
  | .shrinkStack => "ShrinkStack"
  | .u32 => "U32"

/-- The name of the bucket as a constant, in capitals. -/
def constantName : Bucket → String
  | .hasArg => "HAS_ARG"
  | .shrinkStack => "SHRINK_STACK"
  | .u32 => "U32"

/-- The bucket of a name. -/
def ofName? (text : String) : Option Bucket :=
  all.find? fun bucket => bucket.name == text

/-- The list of all buckets leaves none out. -/
theorem mem_all (bucket : Bucket) : bucket ∈ all := by
  cases bucket <;> decide

/-- Buckets of one index are one. -/
theorem index_inj {a b : Bucket} : a.index = b.index ↔ a = b := by
  cases a <;> cases b <;> decide

/-- Buckets are ordered by index. -/
instance : LT Bucket where
  lt a b := a.index < b.index

instance (a b : Bucket) : Decidable (a < b) :=
  inferInstanceAs (Decidable (a.index < b.index))

/-- The buckets ordered before a bucket. -/
def before (bucket : Bucket) : List Bucket :=
  all.filter fun other => decide (other < bucket)

end Bucket

end OpcodeBuckets
