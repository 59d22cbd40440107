import OpcodeBuckets.Proofs.Assignment.Agreement
import OpcodeBuckets.Proofs.Membership
import OpcodeBuckets.Report

/-!
# What an Assignment Depends On

An instruction list counts as a multiset, and a bucket table as what it says of
each bucket and instruction.

A list is read in order, sorted, grouped and printed, and a table is scanned row
by row, so neither is free of its order by the way it is used. It is free of it
in the result. A bucket set asks about membership and nothing else. A rank is a
count, and a count over a reordered list is the same. From there on all is a
matter of the opcodes, with one exception: a collision keeps the order in which
it met its instructions. That order is not visible either, since what meets in a
collision are copies of one instruction.

## Main definitions

* `InstructionSet.SameContent`: Sets with the same listed instructions, repeats
  counted, and the same buckets for each of them.
* `OpcodeTable.SameOutcome`: Equal refusals, or tables that hold, find and show the
  same.

## Theorems

* `InstructionSet.bucketSet_congr`: Bucket sets depend on membership alone.
* `InstructionSet.opcode_congr`: Opcodes do not depend on the order of the list.
* `InstructionSet.verify_congr`: The verdict does not, down to its collisions.
* `InstructionSet.assignment_congr`: All that is computed from the content of a set.
-/

namespace OpcodeBuckets

namespace OpcodeTable

/-- Outcomes that cannot be told apart: the same refusal, or tables with the same
    entries, which find the same opcodes and show as the same reports. -/
def SameOutcome : Except UniquenessError OpcodeTable → Except UniquenessError OpcodeTable → Prop
  | .error error, .error other => error = other
  | .ok table, .ok other =>
    table.entries = other.entries ∧ (∀ i, table.opcode? i = other.opcode? i) ∧
      ∀ options, Report.render table options = Report.render other options
  | .error _, .ok _ | .ok _, .error _ => False

theorem sameOutcome_refl (outcome : Except UniquenessError OpcodeTable) :
    SameOutcome outcome outcome := by
  cases outcome with
  | error error => exact rfl
  | ok table => exact ⟨rfl, fun _ => rfl, fun _ => rfl⟩

end OpcodeTable

namespace InstructionSet

open Assignment

/-- Two sets whose lists hold the same instructions equally often, and whose tables put
    the same instructions in the same buckets. -/
structure SameContent (a b : InstructionSet) : Prop where
  /-- The lists differ in their order at most. -/
  perm : a.instructions.Perm b.instructions
  /-- The tables agree on each bucket and instruction, listed or not. -/
  inBucket_eq : ∀ bucket i, a.inBucket bucket i = b.inBucket bucket i

variable {a b : InstructionSet}

theorem bucketSet_congr (h : SameContent a b) : a.bucketSet = b.bucketSet := by
  funext i
  simp only [bucketSet, h.inBucket_eq]

theorem classIndex_congr (h : SameContent a b) : a.classIndex = b.classIndex := by
  funext i
  rw [classIndex, classIndex, length_preceding, length_preceding, bucketSet_congr h,
    rank_perm _ h.perm]

theorem opcode_congr (h : SameContent a b) : a.opcode = b.opcode := by
  funext i
  rw [opcode, opcode, classIndex_congr h, bucketSet_congr h]

theorem maxOpcode_congr (h : SameContent a b) : a.maxOpcode = b.maxOpcode := by
  rw [maxOpcode, maxOpcode, opcode_congr h, Opcode.highest?_perm (h.perm.map b.opcode)]

/-- The verdict is the same down to the collisions, because a collision lists copies of
    one instruction and these look alike in any order. -/
theorem verify_congr (h : SameContent a b) (hlength : a.instructions.length < 2 ^ 29) :
    a.verify = b.verify := by
  have hshort : b.instructions.length < 2 ^ 29 := by
    rwa [← h.perm.length_eq]
  rw [a.verify_eq, b.verify_eq, opcode_congr h]
  refine checkDistinct_map_perm h.perm fun i hi j hj => ?_
  rw [h.perm.mem_iff] at hi hj
  exact (b.opcode_inj hshort hi hj).mp

theorem table_congr (h : SameContent a b) (hlength : a.instructions.length < 2 ^ 29) :
    OpcodeTable.ofInstructionSet a = OpcodeTable.ofInstructionSet b := by
  have hshort : b.instructions.length < 2 ^ 29 := by
    rwa [← h.perm.length_eq]
  rw [OpcodeTable.ofInstructionSet_eq a hlength, OpcodeTable.ofInstructionSet_eq b hshort,
    verify_congr h hlength, Instruction.sorted_congr h.perm, opcode_congr h]

/-- All that is computed from an instruction set is computed from its content: the
    members of the buckets, the bucket set, class index and opcode of every instruction,
    the highest opcode and its width, the verdict with its collisions, and the table with
    what it holds, finds and shows. -/
theorem assignment_congr (h : SameContent a b) (hlength : a.instructions.length < 2 ^ 29) :
    (∀ bucket, a.members bucket = b.members bucket) ∧
    (∀ i, a.bucketSet i = b.bucketSet i ∧ a.classIndex i = b.classIndex i ∧
      a.opcode i = b.opcode i) ∧
    a.maxOpcode = b.maxOpcode ∧
    a.bitWidth = b.bitWidth ∧
    a.verify = b.verify ∧
    OpcodeTable.SameOutcome (OpcodeTable.ofInstructionSet a) (OpcodeTable.ofInstructionSet b) := by
  refine ⟨fun bucket => members_congr (h.inBucket_eq bucket), fun i => ⟨?_, ?_, ?_⟩,
    maxOpcode_congr h, ?_, verify_congr h hlength, ?_⟩
  · rw [bucketSet_congr h]
  · rw [classIndex_congr h]
  · rw [opcode_congr h]
  · rw [bitWidth, bitWidth, maxOpcode_congr h]
  · rw [table_congr h hlength]
    exact OpcodeTable.sameOutcome_refl _

/-- A list in two orders, under a table in one row and in three of which one is empty.
    The copies of `dup` collide either way, and the refusal is the same. -/
theorem assignment_congr_reordered :
    let a : InstructionSet := ⟨[.dup, .push, .halt, .dup], [⟨.hasArg, [.push, .dup]⟩]⟩
    let b : InstructionSet := ⟨[.halt, .dup, .dup, .push],
      [⟨.hasArg, [.dup]⟩, ⟨.u32, []⟩, ⟨.hasArg, [.push, .dup]⟩]⟩
    SameContent a b ∧ a.instructions.length < 2 ^ 29 ∧ a.members .hasArg = b.members .hasArg ∧
      a.opcode .swap = b.opcode .swap ∧ b.opcode .swap = ⟨8⟩ ∧
      a.verify = b.verify ∧ b.verify = .error ⟨[⟨⟨9⟩, [.dup, .dup]⟩]⟩ ∧
      OpcodeTable.SameOutcome (OpcodeTable.ofInstructionSet a)
        (OpcodeTable.ofInstructionSet b) := by
  intro a b
  have hlength : a.instructions.length < 2 ^ 29 := by decide
  have hcontent : SameContent a b :=
    ⟨by decide, fun bucket i => by cases bucket <;> cases i <;> rfl⟩
  rcases assignment_congr hcontent hlength with ⟨hmembers, hopcodes, _, _, hverify, houtcome⟩
  exact ⟨hcontent, hlength, hmembers .hasArg, (hopcodes .swap).2.2, by decide, hverify,
    b.verify_eq_error_of_perm (by decide) (by decide) (by decide), houtcome⟩

end InstructionSet

end OpcodeBuckets
