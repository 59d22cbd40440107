import OpcodeBuckets.BucketSet
import OpcodeBuckets.Text.Layout

/-!
# Opcodes

A machine word that tells which buckets its instruction belongs to.

The lowest three bits of an opcode are the bits of a bucket set, and the bits
above them are the index of the instruction among those with that set:

    cccc ... cbbb
             bbb  the bucket set, one bit per bucket
    cccc ... c    the class index

Nothing but the word itself is needed to ask for the buckets again. The word
has 32 bits, so a class index has room for 29 of them, and the bits above are
lost when an opcode is packed.

An opcode has three views: the word, its digits in base ten or two, and its
single bits, `ib0` for the lowest.

## Main definitions

* `Opcode`: A machine word.
* `Opcode.pack`: The opcode of a class index and a bucket set.
* `Opcode.classIndex`, `Opcode.bucketSet`: The two parts of the word.
* `Opcode.inBucket`: Whether the bit of a bucket is set.
* `Opcode.instructionBit`, `Opcode.instructionBits`: The single bits.
* `Opcode.bitLength`: How many bits it takes to write the opcode down.
* `Opcode.highest?`: The greatest opcode of a list.
* `Opcode.decimal`, `Opcode.binary`: The digits, set into a field.
-/

namespace OpcodeBuckets

/-- A word that identifies an instruction and carries its buckets. -/
structure Opcode where
  /-- The word itself. -/
  value : UInt32
  deriving DecidableEq, Repr, Inhabited

namespace Opcode

/-- Opcodes are ordered as numbers. -/
instance : LE Opcode where
  le a b := a.value ≤ b.value

/-- Opcodes are ordered as numbers. -/
instance : LT Opcode where
  lt a b := a.value < b.value

instance (a b : Opcode) : Decidable (a ≤ b) :=
  inferInstanceAs (Decidable (a.value ≤ b.value))

instance (a b : Opcode) : Decidable (a < b) :=
  inferInstanceAs (Decidable (a.value < b.value))

instance : Max Opcode where
  max a b := if a ≤ b then b else a

/-- The opcode of a class index and a bucket set. The highest bits of the index
    do not fit and are dropped. -/
def pack (classIndex : UInt32) (buckets : BucketSet) : Opcode :=
  ⟨(classIndex <<< 3) ||| buckets.toUInt32⟩

/-- The index of the instruction among those with its bucket set. -/
def classIndex (opcode : Opcode) : UInt32 :=
  opcode.value >>> 3

/-- The buckets of the instruction, from the opcode alone. -/
def bucketSet (opcode : Opcode) : BucketSet :=
  .truncate (opcode.value &&& BucketSet.mask)

/-- Whether the bit of a bucket is set. -/
def inBucket (opcode : Opcode) (bucket : Bucket) : Bool :=
  opcode.value &&& (BucketSet.ofBucket bucket).toUInt32 != 0

/-- Instruction bit `index`, which is unset beyond the word. -/
def instructionBit (opcode : Opcode) (index : Nat) : Bool :=
  opcode.value.toNat.testBit index

/-- The lowest `width` instruction bits, `ib0` first. -/
def instructionBits (opcode : Opcode) (width : Nat) : List Bool :=
  (List.range width).map opcode.instructionBit

/-- The number of bits it takes to write the opcode down; zero still takes one. -/
def bitLength (opcode : Opcode) : Nat :=
  if opcode.value = 0 then 1 else opcode.value.toNat.log2 + 1

/-- The greatest opcode of a list, if the list has any. -/
def highest? (opcodes : List Opcode) : Option Opcode :=
  opcodes.max?

/-- The opcodes of a list by ascending value. -/
def sorted (opcodes : List Opcode) : List Opcode :=
  opcodes.mergeSort fun a b => decide (a ≤ b)

/-- The digits of the opcode in base ten. -/
def decimalDigits (opcode : Opcode) : String :=
  opcode.value.toNat.repr

/-- The digits of the opcode in base two, as few as denote it. -/
def binaryDigits (opcode : Opcode) : String :=
  String.ofList (Nat.toDigits 2 opcode.value.toNat)

/-- The opcode in base ten, set into a field. Base ten has no marker. -/
def decimal (opcode : Opcode) (layout : Text.Layout) : String :=
  layout.number "" opcode.decimalDigits

/-- The opcode in base two, set into a field. -/
def binary (opcode : Opcode) (layout : Text.Layout) : String :=
  layout.number "0b" opcode.binaryDigits

/-- The opcode in base ten on the right of a field of the given width. -/
def decimalColumn (opcode : Opcode) (width : Nat) : String :=
  opcode.decimal { alignment := some .right, width }

/-- The opcode in base two, filled with zeros to the given number of digits. -/
def binaryColumn (opcode : Opcode) (width : Nat) : String :=
  opcode.binary { zeroFill := true, width }

end Opcode

end OpcodeBuckets
