import OpcodeBuckets.Proofs.Assignment.Ranks
import Mathlib.Data.List.Basic

/-!
# Classes as Sorted Lists

Opcodes read off a class that is written down in order.

A rank is a count over the whole list, in whatever order the list stands. The
class of a bucket set is a list of its own, `classOf`: the listed instructions
with that bucket set, by ascending ordinal. In a sorted list whatever is below a
member stands in front of its first copy and nothing else does, so the rank of
an instruction is the position where its class first has it.

Without repeats every position of a class is somebody's first, so the opcodes of
a class are numbered from zero without a gap, and all opcodes together are what
the sizes of the classes say. The highest is then the last of some class.

## Main definitions

* `InstructionSet.classOf`: The listed instructions of a bucket set, by ordinal.

## Theorems

* `Assignment.idxOf_eq_countP`: What stands in front of a member of a sorted list.
* `InstructionSet.rank_eq_idxOf`: A rank is a position in a class.
* `InstructionSet.exists_opcode_of_lt`: Without repeats each position is taken.
* `InstructionSet.map_classIndex_classOf`: Classes are numbered without a gap.
* `InstructionSet.isGreatest_maxOpcode`: The highest opcode ends some class.
* `InstructionSet.opcodes_from_classes`: The opcodes, from the classes alone.
-/

namespace OpcodeBuckets

namespace Assignment

/-- In a sorted list, what stands in front of the first copy of a member is what is
    below it. By induction on the list: a head other than the member is below it. -/
theorem idxOf_eq_countP {l : List Instruction} {i : Instruction}
    (hsorted : l.Pairwise (· ≤ ·)) (hi : i ∈ l) :
    l.idxOf i = l.countP fun j => decide (j < i) := by
  induction l with
  | nil => exact absurd hi List.not_mem_nil
  | cons head rest ih =>
      rw [List.pairwise_cons] at hsorted
      by_cases hhead : head = i
      · -- The member is the least of the list, so nothing is counted.
        subst hhead
        rw [List.idxOf_cons_self, eq_comm, List.countP_eq_zero]
        intro j hj
        rw [decide_eq_true_eq]
        rcases List.mem_cons.mp hj with rfl | hj
        · exact Nat.lt_irrefl j.ordinal
        · exact Nat.not_lt.mpr (hsorted.1 j hj)
      · have hrest : i ∈ rest := (List.mem_cons.mp hi).resolve_left (Ne.symm hhead)
        have hlt : head < i :=
          Nat.lt_of_le_of_ne (hsorted.1 i hrest) fun h => hhead (Instruction.ordinal_inj.mp h)
        rw [List.idxOf_cons_ne _ hhead, ih hsorted.2 hrest, List.countP_cons, decide_eq_true hlt,
          if_pos rfl]

end Assignment

namespace InstructionSet

variable (set : InstructionSet)

/-- The listed instructions of a bucket set, by ascending ordinal and repeats kept. -/
def classOf (buckets : BucketSet) : List Instruction :=
  Instruction.sorted (set.instructions.filter fun i => set.bucketSet i == buckets)

theorem classOf_perm (buckets : BucketSet) :
    (set.classOf buckets).Perm (set.instructions.filter fun i => set.bucketSet i == buckets) :=
  Instruction.sorted_perm _

theorem mem_classOf {buckets : BucketSet} {i : Instruction} :
    i ∈ set.classOf buckets ↔ i ∈ set.instructions ∧ set.bucketSet i = buckets := by
  rw [(set.classOf_perm buckets).mem_iff, List.mem_filter, beq_iff_eq]

theorem nodup_classOf (hnodup : set.instructions.Nodup) (buckets : BucketSet) :
    (set.classOf buckets).Nodup := by
  rw [(set.classOf_perm buckets).nodup_iff]
  exact hnodup.sublist List.filter_sublist

/-- The rank of a listed instruction is the position where its class first has it. -/
theorem rank_eq_idxOf {buckets : BucketSet} {i : Instruction} (hi : i ∈ set.classOf buckets) :
    Assignment.rank set.bucketSet set.instructions i = (set.classOf buckets).idxOf i := by
  have hsorted : (set.classOf buckets).Pairwise (· ≤ ·) := Instruction.pairwise_sorted _
  rw [Assignment.idxOf_eq_countP hsorted hi, (set.classOf_perm buckets).countP_eq,
    List.countP_filter, Assignment.rank, (set.mem_classOf.mp hi).2]

theorem toNat_opcode_of_mem_classOf (hlength : set.instructions.length < 2 ^ 29)
    {buckets : BucketSet} {i : Instruction} (hi : i ∈ set.classOf buckets) :
    (set.opcode i).value.toNat = 8 * (set.classOf buckets).idxOf i + buckets.bits.toNat := by
  rw [set.toNat_opcode hlength, set.rank_eq_idxOf hi, (set.mem_classOf.mp hi).2]

/-- Without repeats each position of a class is the first of the instruction there. -/
theorem exists_opcode_of_lt (hlength : set.instructions.length < 2 ^ 29)
    (hnodup : set.instructions.Nodup) {buckets : BucketSet} {k : Nat}
    (hk : k < (set.classOf buckets).length) :
    ∃ i ∈ set.instructions, (set.opcode i).value.toNat = 8 * k + buckets.bits.toNat := by
  have hmem := List.getElem_mem hk
  refine ⟨(set.classOf buckets)[k], (set.mem_classOf.mp hmem).1, ?_⟩
  rw [set.toNat_opcode_of_mem_classOf hlength hmem,
    (set.nodup_classOf hnodup buckets).idxOf_getElem k hk]

/-- The opcodes of a list without repeats, from the sizes of its classes. -/
theorem mem_map_opcode_iff (hlength : set.instructions.length < 2 ^ 29)
    (hnodup : set.instructions.Nodup) {opcode : Opcode} :
    opcode ∈ set.instructions.map set.opcode ↔
      ∃ buckets k, k < (set.classOf buckets).length ∧
        opcode.value.toNat = 8 * k + buckets.bits.toNat := by
  rw [List.mem_map]
  constructor
  · rintro ⟨i, hi, rfl⟩
    have hmem : i ∈ set.classOf (set.bucketSet i) := set.mem_classOf.mpr ⟨hi, rfl⟩
    exact ⟨set.bucketSet i, _, List.idxOf_lt_length_of_mem hmem,
      set.toNat_opcode_of_mem_classOf hlength hmem⟩
  · rintro ⟨buckets, k, hk, hopcode⟩
    rcases set.exists_opcode_of_lt hlength hnodup hk with ⟨i, hi, heq⟩
    exact ⟨i, hi, Opcode.eq_of_toNat (heq.trans hopcode.symm)⟩

/-- Without repeats a class is numbered from zero, by ordinal and without a gap. -/
theorem map_classIndex_classOf (hlength : set.instructions.length < 2 ^ 29)
    (hnodup : set.instructions.Nodup) (buckets : BucketSet) :
    (set.classOf buckets).map (fun i => (set.classIndex i).toNat) =
      List.range (set.classOf buckets).length := by
  refine List.ext_getElem (by rw [List.length_map, List.length_range]) fun k hk _ => ?_
  rw [List.length_map] at hk
  rw [List.getElem_map, List.getElem_range, set.toNat_classIndex (by omega),
    set.rank_eq_idxOf (List.getElem_mem hk),
    (set.nodup_classOf hnodup buckets).idxOf_getElem k hk]

/-- Without repeats the highest opcode is the greatest among the last of the classes. -/
theorem isGreatest_maxOpcode (hlength : set.instructions.length < 2 ^ 29)
    (hnodup : set.instructions.Nodup) (hne : set.instructions ≠ []) :
    IsGreatest {n | ∃ buckets, set.classOf buckets ≠ [] ∧
        n = 8 * ((set.classOf buckets).length - 1) + buckets.bits.toNat}
      set.maxOpcode.value.toNat := by
  -- The last of a class is listed, so its opcode is at most the highest.
  have hlast : ∀ buckets, set.classOf buckets ≠ [] →
      8 * ((set.classOf buckets).length - 1) + buckets.bits.toNat ≤
        set.maxOpcode.value.toNat := by
    intro buckets hclass
    have hpos := List.length_pos_of_ne_nil hclass
    rcases set.exists_opcode_of_lt hlength hnodup (Nat.sub_one_lt_of_lt hpos) with ⟨i, hi, heq⟩
    rw [← heq]
    exact Opcode.le_iff.mp (set.opcode_le_maxOpcode hi)
  refine ⟨?_, ?_⟩
  · -- The highest opcode stands somewhere in its class, and the last of it is no higher.
    rcases set.exists_opcode_eq_maxOpcode hne with ⟨i, hi, hmax⟩
    have hmem : i ∈ set.classOf (set.bucketSet i) := set.mem_classOf.mpr ⟨hi, rfl⟩
    have hclass : set.classOf (set.bucketSet i) ≠ [] := List.ne_nil_of_mem hmem
    have hidx := List.idxOf_lt_length_of_mem hmem
    have hopcode := set.toNat_opcode_of_mem_classOf hlength hmem
    have hle := hlast (set.bucketSet i) hclass
    rw [← hmax] at hle ⊢
    exact ⟨set.bucketSet i, hclass, by omega⟩
  · rintro n ⟨buckets, hclass, rfl⟩
    exact hlast buckets hclass

/-- The opcodes, from the classes alone. An instruction has eight times its first
    position in its class, and the bits of its bucket set. Without repeats, that makes
    the opcodes those of all positions of all classes, numbers each class from zero, by
    ordinal and without a gap, and the highest opcode is the greatest among the last of
    the classes. Of an empty list it is zero. -/
theorem opcodes_from_classes (hlength : set.instructions.length < 2 ^ 29) :
    (∀ buckets, ∀ i ∈ set.classOf buckets,
      (set.opcode i).value.toNat = 8 * (set.classOf buckets).idxOf i + buckets.bits.toNat) ∧
    (set.instructions.Nodup →
      (∀ opcode, opcode ∈ set.instructions.map set.opcode ↔
        ∃ buckets k, k < (set.classOf buckets).length ∧
          opcode.value.toNat = 8 * k + buckets.bits.toNat) ∧
      (∀ buckets, (set.classOf buckets).map (fun i => (set.classIndex i).toNat) =
        List.range (set.classOf buckets).length) ∧
      (set.instructions ≠ [] →
        IsGreatest {n | ∃ buckets, set.classOf buckets ≠ [] ∧
            n = 8 * ((set.classOf buckets).length - 1) + buckets.bits.toNat}
          set.maxOpcode.value.toNat)) ∧
    (set.instructions = [] → set.maxOpcode = ⟨0⟩) := by
  refine ⟨fun buckets i hi => set.toNat_opcode_of_mem_classOf hlength hi, fun hnodup => ?_,
    set.maxOpcode_of_nil⟩
  exact ⟨fun opcode => set.mem_map_opcode_iff hlength hnodup,
    set.map_classIndex_classOf hlength hnodup, set.isGreatest_maxOpcode hlength hnodup⟩

/-- Of four instructions in falling order two share a class, and the later of the two
    has the highest opcode. -/
theorem opcodes_from_classes_four :
    let set : InstructionSet := ⟨[.xbMul, .push, .halt, .pop], standardBuckets⟩
    set.instructions.length < 2 ^ 29 ∧ set.instructions.Nodup ∧
      set.classOf ⟨2⟩ = [.pop, .xbMul] ∧ (set.opcode .xbMul).value.toNat = 8 * 1 + 2 ∧
      (⟨1⟩ : Opcode) ∈ set.instructions.map set.opcode ∧
      IsGreatest {n | ∃ buckets, set.classOf buckets ≠ [] ∧
        n = 8 * ((set.classOf buckets).length - 1) + buckets.bits.toNat} 10 := by
  intro set
  have hlength : set.instructions.length < 2 ^ 29 := by decide
  have hnodup : set.instructions.Nodup := by decide
  have hclass : set.classOf ⟨2⟩ = [.pop, .xbMul] :=
    Instruction.sorted_eq_of_perm (by decide) (by decide)
  have hmax : set.maxOpcode = ⟨10⟩ := by decide
  rcases set.opcodes_from_classes hlength with ⟨hposition, hclasses, _⟩
  rcases hclasses hnodup with ⟨himage, _, hgreatest⟩
  have hxbMul := hposition ⟨2⟩ .xbMul (by rw [hclass]; decide)
  have hten := hgreatest (by decide)
  rw [hclass] at hxbMul
  rw [hmax] at hten
  refine ⟨hlength, hnodup, hclass, hxbMul, ?_, hten⟩
  rw [himage]
  have hpush : set.classOf ⟨1⟩ = [.push] := Instruction.sorted_eq_of_perm (by decide) (by decide)
  exact ⟨⟨1⟩, 0, by rw [hpush]; decide, rfl⟩

end InstructionSet

end OpcodeBuckets
