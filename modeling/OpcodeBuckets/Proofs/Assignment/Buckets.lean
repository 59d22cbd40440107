import OpcodeBuckets.Assignment.Rank
import OpcodeBuckets.Proofs.Membership
import OpcodeBuckets.Proofs.Opcodes
import Mathlib.Data.Nat.Bitwise
import Mathlib.Tactic.TFAE

/-!
# A Bucket Seen from All Sides

Whether a bucket holds an instruction can be asked of the table and of the
opcode, and of each in three ways.

The table answers by a scan of its rows, by the list of a bucket's members, and
by the set of an instruction's buckets. The opcode answers by a mask, by one of
its bits, and by the set it spells in its lowest three. On the side of the table
all comes down to the scan, on the side of the opcode to a single bit, and what
joins the sides is that packing keeps the bucket set whole. It does so for every
class index: what a word has no room for is lost at its upper end, far from the
buckets.

## Theorems

* `BucketSet.contains_foldl_insert`: What a set contains after several insertions.
* `Opcode.instructionBit_index`: A bucket of an opcode is one of its bits.
* `Opcode.inBucket_eq`: The mask of a bucket selects that bit.
* `InstructionSet.contains_bucketSet`: The buckets of an instruction are those that
  hold it.
* `InstructionSet.membership_views`: Six ways to ask, and one answer.
-/

namespace OpcodeBuckets

namespace BucketSet

theorem contains_foldl_insert (buckets : List Bucket) (set : BucketSet) (bucket : Bucket) :
    (buckets.foldl insert set).contains bucket = true ↔
      set.contains bucket = true ∨ bucket ∈ buckets := by
  induction buckets generalizing set with
  | nil => simp only [List.foldl_nil, List.not_mem_nil, or_false]
  | cons head rest ih =>
      rw [List.foldl_cons, ih, contains_insert, Bool.or_eq_true, decide_eq_true_eq, List.mem_cons,
        eq_comm (a := head), or_assoc]

/-- A set has the flag of a bucket exactly when it contains the bucket. -/
theorem containsAll_ofBucket (set : BucketSet) (bucket : Bucket) :
    set.containsAll (ofBucket bucket) = true ↔ set.contains bucket = true := by
  have hinter : ∀ other, (set ∩ ofBucket bucket).contains other =
      (set.contains other && decide (bucket = other)) := by
    intro other
    rw [← contains_ofBucket]
    exact BitVec.getLsbD_and
  rw [containsAll, beq_iff_eq]
  constructor
  · intro h
    have hflag := hinter bucket
    rw [h, contains_ofBucket, decide_eq_true rfl, Bool.and_true] at hflag
    exact hflag.symm
  · intro h
    refine ext_contains fun other => ?_
    rw [hinter, contains_ofBucket]
    by_cases hother : bucket = other
    · rw [← hother, h, Bool.true_and]
    · rw [decide_eq_false hother, Bool.and_false]

theorem toNat_ofBucket (bucket : Bucket) : (ofBucket bucket).toUInt32.toNat = 2 ^ bucket.index := by
  cases bucket <;> rfl

end BucketSet

namespace Opcode

/-- A bucket of an opcode is one of its bits. -/
theorem instructionBit_index (opcode : Opcode) (bucket : Bucket) :
    opcode.instructionBit bucket.index = opcode.bucketSet.contains bucket := by
  have hindex : bucket.index < 3 := by
    cases bucket <;> decide
  rw [BucketSet.contains, ← BitVec.testBit_toNat, toNat_bits_bucketSet, instructionBit,
    show (8 : Nat) = 2 ^ 3 from rfl, Nat.testBit_mod_two_pow, decide_eq_true hindex, Bool.true_and]

/-- The mask of a bucket selects one bit of an opcode. -/
theorem inBucket_eq (opcode : Opcode) (bucket : Bucket) :
    opcode.inBucket bucket = opcode.instructionBit bucket.index := by
  rw [inBucket, instructionBit, Bool.eq_iff_iff, bne_iff_ne, Ne, ← UInt32.toNat_inj,
    UInt32.toNat_and, BucketSet.toNat_ofBucket, Nat.and_two_pow, UInt32.toNat_zero,
    Nat.mul_eq_zero, not_or]
  cases opcode.value.toNat.testBit bucket.index with
  | false => simp only [Bool.toNat_false, not_true_eq_false, false_and, Bool.false_eq_true]
  | true =>
      have hpow : 2 ^ bucket.index ≠ 0 := Nat.pos_iff_ne_zero.mp (Nat.two_pow_pos _)
      exact iff_of_true ⟨Nat.one_ne_zero, hpow⟩ rfl

end Opcode

namespace InstructionSet

variable (set : InstructionSet)

/-- The buckets of an instruction are those that hold it. -/
theorem contains_bucketSet (bucket : Bucket) (i : Instruction) :
    (set.bucketSet i).contains bucket = set.inBucket bucket i := by
  rw [Bool.eq_iff_iff, bucketSet, BucketSet.contains_foldl_insert, BucketSet.contains_empty,
    List.mem_filter]
  simp only [Bool.false_eq_true, Bucket.mem_all, true_and, false_or]

/-- An opcode spells the buckets of its instruction, however great its class index. -/
theorem bucketSet_opcode (i : Instruction) : (set.opcode i).bucketSet = set.bucketSet i := by
  rw [opcode, Opcode.bucketSet_pack]

/-- Six ways to ask whether a bucket holds an instruction have one answer, whatever the
    rows of the table and however long the list. The opcode of an instruction spells its
    buckets, and the members of a bucket ascend strictly. -/
theorem membership_views (bucket : Bucket) (i : Instruction) :
    [set.inBucket bucket i = true,
      i ∈ set.members bucket,
      (set.bucketSet i).containsAll (.ofBucket bucket) = true,
      (set.opcode i).inBucket bucket = true,
      (set.opcode i).instructionBit bucket.index = true,
      bucket ∈ (set.opcode i).bucketSet.buckets].TFAE ∧
    (set.opcode i).bucketSet = set.bucketSet i ∧
    (set.members bucket).Pairwise (· < ·) := by
  refine ⟨?_, set.bucketSet_opcode i, set.pairwise_members bucket⟩
  -- The first three are answers of the table, the last three of the opcode.
  tfae_have 1 ↔ 2 := (set.mem_members_iff).symm
  tfae_have 1 ↔ 3 := by rw [BucketSet.containsAll_ofBucket, contains_bucketSet]
  tfae_have 4 ↔ 5 := by rw [Opcode.inBucket_eq]
  tfae_have 5 ↔ 6 := by rw [Opcode.instructionBit_index, BucketSet.mem_buckets]
  tfae_have 6 ↔ 1 := by rw [BucketSet.mem_buckets, bucketSet_opcode, contains_bucketSet]
  tfae_finish

end InstructionSet

end OpcodeBuckets
