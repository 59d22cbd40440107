import OpcodeBuckets.Assignment.Rank
import OpcodeBuckets.Proofs.Opcodes

/-!
# Ranks as Counts

The rank of an instruction, as a count over a list.

An instruction set computes a rank as a word, from its own list. What makes
ranks agree or differ is a property of the count behind that word, and the list
may be any: the whole list, the list in another order, or the part of it that a
walk has behind itself. `rank` is that count, and `toNat_classIndex` says that
the word is the count as long as the list is shorter than words are many.

Of two classmates the one of lower ordinal is counted for the other and never
the other way about, so a listed instruction stays strictly below its later
classmates. Repeats raise the ranks behind them and cannot close that gap. With
fewer than `2 ^ 29` instructions no rank outgrows its place in an opcode, and
distinct instructions keep distinct opcodes whatever the bucket table says.

## Main definitions

* `Assignment.rank`: The number of listed classmates of lower ordinal.

## Theorems

* `Assignment.rank_perm`: The order of a list does not matter.
* `Assignment.rank_lt_rank`: A listed instruction is below its later classmates.
* `InstructionSet.toNat_classIndex`: The class index is the rank.
* `InstructionSet.toNat_opcode`: The opcode is eight times the rank, and the buckets.
* `InstructionSet.opcode_inj`: Listed instructions of one opcode are one.
* `InstructionSet.opcode_le_maxOpcode`, `InstructionSet.exists_opcode_eq_maxOpcode`:
  The highest opcode is that of a listed instruction, and no other exceeds it.
-/

namespace OpcodeBuckets

namespace Instruction

theorem lt_iff {i j : Instruction} : i < j ↔ i.ordinal < j.ordinal :=
  Iff.rfl

theorem le_iff {i j : Instruction} : i ≤ j ↔ i.ordinal ≤ j.ordinal :=
  Iff.rfl

end Instruction

namespace Assignment

variable (bucketSet : Instruction → BucketSet)

/-- The number of listed classmates of an instruction that have a lower ordinal,
    each counted as often as it is listed. -/
def rank (listed : List Instruction) (instruction : Instruction) : Nat :=
  listed.countP fun other =>
    decide (other < instruction) && bucketSet other == bucketSet instruction

theorem rank_le_length (listed : List Instruction) (i : Instruction) :
    rank bucketSet listed i ≤ listed.length :=
  List.countP_le_length

theorem rank_perm {listed others : List Instruction} (h : listed.Perm others) (i : Instruction) :
    rank bucketSet listed i = rank bucketSet others i :=
  h.countP_eq _

theorem rank_append (front back : List Instruction) (i : Instruction) :
    rank bucketSet (front ++ back) i = rank bucketSet front i + rank bucketSet back i :=
  List.countP_append

theorem rank_singleton (j i : Instruction) :
    rank bucketSet [j] i = if j < i ∧ bucketSet j = bucketSet i then 1 else 0 := by
  rw [rank, List.countP_singleton]
  simp only [Bool.and_eq_true, decide_eq_true_eq, beq_iff_eq]

/-- Instructions that are not below one leave its rank alone. -/
theorem rank_eq_zero {listed : List Instruction} {i : Instruction} (h : ∀ j ∈ listed, i ≤ j) :
    rank bucketSet listed i = 0 := by
  rw [rank, List.countP_eq_zero]
  intro j hj
  rw [Bool.and_eq_true, decide_eq_true_eq, not_and]
  intro hlt
  exact absurd hlt (Nat.not_lt.mpr (h j hj))

/-- A listed instruction is strictly below its later classmates: they count it,
    and they count all that it counts. -/
theorem rank_lt_rank {listed : List Instruction} {i j : Instruction} (hi : i ∈ listed)
    (hlt : i < j) (hclass : bucketSet i = bucketSet j) :
    rank bucketSet listed i < rank bucketSet listed j := by
  rcases List.append_of_mem hi with ⟨front, back, rfl⟩
  -- Around the copy of `i` all that counts for `i` counts for `j`, and the copy itself
  -- makes the difference.
  have hmono : ∀ part : List Instruction, rank bucketSet part i ≤ rank bucketSet part j := by
    intro part
    refine List.countP_mono_left fun other _ h => ?_
    rw [Bool.and_eq_true, decide_eq_true_eq, beq_iff_eq] at h ⊢
    exact ⟨Nat.lt_trans h.1 hlt, h.2.trans hclass⟩
  have hself : rank bucketSet [i] i = 0 := by
    rw [rank_singleton, if_neg fun h => Nat.lt_irrefl i.ordinal h.1]
  have hcounted : rank bucketSet [i] j = 1 := by
    rw [rank_singleton, if_pos ⟨hlt, hclass⟩]
  have hfront := hmono front
  have hback := hmono back
  rw [List.append_cons, rank_append, rank_append, rank_append, rank_append, hself, hcounted]
  omega

end Assignment

namespace InstructionSet

variable (set : InstructionSet)

theorem length_preceding (i : Instruction) :
    (set.preceding i).length = Assignment.rank set.bucketSet set.instructions i :=
  List.countP_eq_length_filter.symm

/-- The class index is the rank, for lists that a word can count. -/
theorem toNat_classIndex (hlength : set.instructions.length < 2 ^ 32) (i : Instruction) :
    (set.classIndex i).toNat = Assignment.rank set.bucketSet set.instructions i := by
  have hle := Assignment.rank_le_length set.bucketSet set.instructions i
  rw [classIndex, length_preceding, UInt32.toNat_ofNatClamp_of_lt (by rw [UInt32.size]; omega)]

/-- The opcode as a number, for lists whose ranks fit into an opcode. -/
theorem toNat_opcode (hlength : set.instructions.length < 2 ^ 29) (i : Instruction) :
    (set.opcode i).value.toNat =
      8 * Assignment.rank set.bucketSet set.instructions i + (set.bucketSet i).bits.toNat := by
  have hle := Assignment.rank_le_length set.bucketSet set.instructions i
  rw [opcode, Opcode.toNat_pack, toNat_classIndex set (by omega), Nat.mod_eq_of_lt (by omega),
    Nat.mul_comm]

/-- Listed instructions of one opcode are one, whatever the bucket table says and
    however often others are repeated. -/
theorem opcode_inj (hlength : set.instructions.length < 2 ^ 29) {i j : Instruction}
    (hi : i ∈ set.instructions) (hj : j ∈ set.instructions) :
    set.opcode i = set.opcode j ↔ i = j := by
  have hindex : ∀ k, (set.classIndex k).toNat < 2 ^ 29 := by
    intro k
    have hle := Assignment.rank_le_length set.bucketSet set.instructions k
    rw [toNat_classIndex set (by omega)]
    omega
  refine ⟨fun h => ?_, congrArg set.opcode⟩
  -- Of one opcode are only classmates of one index, hence of one rank.
  rcases (Opcode.pack_inj (hindex i) (hindex j)).mp h with ⟨hsame, hclass⟩
  have hrank : Assignment.rank set.bucketSet set.instructions i =
      Assignment.rank set.bucketSet set.instructions j := by
    rw [← toNat_classIndex set (by omega), ← toNat_classIndex set (by omega), hsame]
  -- Classmates of unequal ordinal have unequal ranks.
  rcases Nat.lt_trichotomy i.ordinal j.ordinal with hlt | heq | hgt
  · have := Assignment.rank_lt_rank set.bucketSet hi hlt hclass
    omega
  · exact Instruction.ordinal_inj.mp heq
  · have := Assignment.rank_lt_rank set.bucketSet hj hgt hclass.symm
    omega

theorem maxOpcode_of_nil (h : set.instructions = []) : set.maxOpcode = ⟨0⟩ := by
  rw [maxOpcode, h]
  rfl

theorem highest?_eq_some_maxOpcode (h : set.instructions ≠ []) :
    Opcode.highest? (set.instructions.map set.opcode) = some set.maxOpcode := by
  cases hhighest : Opcode.highest? (set.instructions.map set.opcode) with
  | none =>
      rw [Opcode.highest?, List.max?_eq_none_iff, List.map_eq_nil_iff] at hhighest
      exact absurd hhighest h
  | some opcode => rw [maxOpcode, hhighest, Option.getD_some]

/-- The highest opcode is that of a listed instruction. -/
theorem exists_opcode_eq_maxOpcode (h : set.instructions ≠ []) :
    ∃ i ∈ set.instructions, set.opcode i = set.maxOpcode := by
  have hhighest := set.highest?_eq_some_maxOpcode h
  rw [Opcode.highest?, List.max?_eq_some_iff] at hhighest
  exact List.mem_map.mp hhighest.1

/-- No listed instruction has an opcode above the highest. -/
theorem opcode_le_maxOpcode {i : Instruction} (hi : i ∈ set.instructions) :
    set.opcode i ≤ set.maxOpcode := by
  have hhighest := set.highest?_eq_some_maxOpcode (List.ne_nil_of_mem hi)
  rw [Opcode.highest?, List.max?_eq_some_iff] at hhighest
  exact hhighest.2 _ (List.mem_map_of_mem hi)

end InstructionSet

end OpcodeBuckets
