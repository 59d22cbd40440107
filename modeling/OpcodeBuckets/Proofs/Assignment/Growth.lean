import OpcodeBuckets.Proofs.Assignment.Uniqueness

/-!
# Growing an Instruction Set

What one more instruction does to the opcodes of all others.

An instruction that is added to a list is counted by its later classmates and by
nobody else, wherever in the list it is put. So these move up by one index, which
is eight in the opcode, and everything else stays: other classes, earlier
classmates and the new instruction itself, whose opcode could be read off before
it was listed. Nothing ever moves down, hence neither does the highest opcode.

## Main definitions

* `InstructionSet.insertAt`: A set with one more instruction at a place in its list.

## Theorems

* `InstructionSet.rank_insertAt`: One more instruction adds one to some ranks.
* `InstructionSet.later_classmate_insertAt`, `InstructionSet.other_insertAt`: What
  moves, and what stays.
* `InstructionSet.maxOpcode_le_maxOpcode_insertAt`: The highest opcode never goes down.
* `InstructionSet.verify_insertAt_iff`: What is added must be new.
* `InstructionSet.insertAt_renumbers`: All that one more instruction changes.
-/

namespace OpcodeBuckets

namespace InstructionSet

open Assignment

/-- The set with one more instruction in front of the one at a position, or at the end.
    The table stays as it is. -/
def insertAt (set : InstructionSet) (position : Nat) (instruction : Instruction) :
    InstructionSet :=
  { set with instructions := set.instructions.insertIdx position instruction }

variable {set : InstructionSet} {position : Nat}

theorem bucketSet_insertAt (x : Instruction) :
    (set.insertAt position x).bucketSet = set.bucketSet :=
  rfl

theorem perm_insertAt (hposition : position ≤ set.instructions.length) (x : Instruction) :
    (set.insertAt position x).instructions.Perm (x :: set.instructions) :=
  List.perm_insertIdx x set.instructions hposition

theorem length_insertAt (hposition : position ≤ set.instructions.length) (x : Instruction) :
    (set.insertAt position x).instructions.length = set.instructions.length + 1 :=
  (perm_insertAt hposition x).length_eq

/-- One more instruction is counted by its later classmates. -/
theorem rank_insertAt (hposition : position ≤ set.instructions.length) (x y : Instruction) :
    rank set.bucketSet (set.insertAt position x).instructions y =
      rank set.bucketSet set.instructions y +
        if x < y ∧ set.bucketSet x = set.bucketSet y then 1 else 0 := by
  rw [rank_perm _ (perm_insertAt hposition x), ← List.singleton_append, rank_append,
    rank_singleton, Nat.add_comm]

section Counted

variable {x : Instruction} (hposition : position ≤ set.instructions.length)
  (hlength : (set.insertAt position x).instructions.length < 2 ^ 29)

include hposition hlength

theorem toNat_classIndex_insertAt (y : Instruction) :
    ((set.insertAt position x).classIndex y).toNat =
      (set.classIndex y).toNat + if x < y ∧ set.bucketSet x = set.bucketSet y then 1 else 0 := by
  have hgrown := length_insertAt hposition x
  rw [toNat_classIndex _ (by omega), toNat_classIndex _ (by omega), bucketSet_insertAt,
    rank_insertAt hposition]

theorem toNat_opcode_insertAt (y : Instruction) :
    ((set.insertAt position x).opcode y).value.toNat =
      (set.opcode y).value.toNat +
        if x < y ∧ set.bucketSet x = set.bucketSet y then 8 else 0 := by
  have hgrown := length_insertAt hposition x
  rw [toNat_opcode _ hlength, toNat_opcode _ (by omega), bucketSet_insertAt,
    rank_insertAt hposition]
  by_cases hcounts : x < y ∧ set.bucketSet x = set.bucketSet y
  · rw [if_pos hcounts, if_pos hcounts]
    omega
  · rw [if_neg hcounts, if_neg hcounts]
    omega

theorem opcode_le_opcode_insertAt (y : Instruction) :
    set.opcode y ≤ (set.insertAt position x).opcode y := by
  rw [Opcode.le_iff, toNat_opcode_insertAt hposition hlength]
  exact Nat.le_add_right _ _

theorem maxOpcode_le_maxOpcode_insertAt :
    set.maxOpcode ≤ (set.insertAt position x).maxOpcode := by
  by_cases hempty : set.instructions = []
  · rw [set.maxOpcode_of_nil hempty, Opcode.le_iff]
    exact Nat.zero_le _
  · -- The instruction with the highest opcode is still listed, and has not moved down.
    rcases set.exists_opcode_eq_maxOpcode hempty with ⟨y, hy, hmax⟩
    have hlisted : y ∈ (set.insertAt position x).instructions :=
      (perm_insertAt hposition x).mem_iff.mpr (List.mem_cons_of_mem x hy)
    rw [← hmax]
    exact Std.le_trans (opcode_le_opcode_insertAt hposition hlength y)
      (opcode_le_maxOpcode _ hlisted)

theorem verify_insertAt_iff :
    (set.insertAt position x).verify = .ok () ↔
      set.verify = .ok () ∧ x ∉ set.instructions := by
  have hgrown := length_insertAt hposition x
  rw [verify_eq_ok_iff _ hlength, verify_eq_ok_iff _ (by omega),
    (perm_insertAt hposition x).nodup_iff, List.nodup_cons, and_comm]

theorem later_classmate_insertAt {y : Instruction} (hclass : set.bucketSet y = set.bucketSet x)
    (hlt : x < y) :
    ((set.insertAt position x).classIndex y).toNat = (set.classIndex y).toNat + 1 ∧
      ((set.insertAt position x).opcode y).value.toNat = (set.opcode y).value.toNat + 8 := by
  have hcounts : x < y ∧ set.bucketSet x = set.bucketSet y := ⟨hlt, hclass.symm⟩
  rw [toNat_classIndex_insertAt hposition hlength, toNat_opcode_insertAt hposition hlength,
    if_pos hcounts, if_pos hcounts]
  exact ⟨rfl, rfl⟩

theorem other_insertAt {y : Instruction} (hother : ¬ (set.bucketSet y = set.bucketSet x ∧ x < y)) :
    (set.insertAt position x).classIndex y = set.classIndex y ∧
      (set.insertAt position x).opcode y = set.opcode y := by
  have hcounts : ¬ (x < y ∧ set.bucketSet x = set.bucketSet y) := fun h => hother ⟨h.2.symm, h.1⟩
  refine ⟨UInt32.toNat_inj.mp ?_, Opcode.eq_of_toNat ?_⟩
  · rw [toNat_classIndex_insertAt hposition hlength, if_neg hcounts, Nat.add_zero]
  · rw [toNat_opcode_insertAt hposition hlength, if_neg hcounts, Nat.add_zero]

end Counted

/-- One more instruction renumbers what it must and nothing else. Its classmates of
    higher ordinal move up by one index, listed or not, and all others keep index and
    opcode, the new instruction included. The highest opcode and its width never go down.
    The grown list is accepted exactly when the old one is and the instruction is new. -/
theorem insertAt_renumbers {x : Instruction} (hposition : position ≤ set.instructions.length)
    (hlength : (set.insertAt position x).instructions.length < 2 ^ 29) :
    (∀ y, set.bucketSet y = set.bucketSet x → x < y →
      ((set.insertAt position x).classIndex y).toNat = (set.classIndex y).toNat + 1 ∧
      ((set.insertAt position x).opcode y).value.toNat = (set.opcode y).value.toNat + 8) ∧
    (∀ y, ¬ (set.bucketSet y = set.bucketSet x ∧ x < y) →
      (set.insertAt position x).classIndex y = set.classIndex y ∧
      (set.insertAt position x).opcode y = set.opcode y) ∧
    (set.insertAt position x).classIndex x = set.classIndex x ∧
    (set.insertAt position x).opcode x = set.opcode x ∧
    set.maxOpcode ≤ (set.insertAt position x).maxOpcode ∧
    set.bitWidth ≤ (set.insertAt position x).bitWidth ∧
    ((set.insertAt position x).verify = .ok () ↔
      set.verify = .ok () ∧ x ∉ set.instructions) := by
  -- The new instruction is not below itself, so it is one of the others.
  have hself : ¬ (set.bucketSet x = set.bucketSet x ∧ x < x) := fun h =>
    Nat.lt_irrefl x.ordinal h.2
  have hkept := other_insertAt hposition hlength hself
  have hmax := maxOpcode_le_maxOpcode_insertAt hposition hlength
  refine ⟨fun y hclass hlt => later_classmate_insertAt hposition hlength hclass hlt,
    fun y hother => other_insertAt hposition hlength hother, hkept.1, hkept.2, hmax, ?_,
    verify_insertAt_iff hposition hlength⟩
  exact Opcode.bitLength_mono hmax

/-- By ordinal `dup` comes between its classmates `push` and `swap`. Put in the second
    place of a list of both it moves `swap` and leaves `push`, and has the opcode that it
    was known to have. -/
theorem insertAt_renumbers_dup :
    let set : InstructionSet := ⟨[.swap, .halt, .push], standardBuckets⟩
    let grown := set.insertAt 1 .dup
    1 ≤ set.instructions.length ∧ grown.instructions.length < 2 ^ 29 ∧
      set.bucketSet .swap = set.bucketSet .dup ∧ .dup < Instruction.swap ∧
      (grown.opcode .swap).value.toNat = (set.opcode .swap).value.toNat + 8 ∧
      grown.opcode .push = set.opcode .push ∧ grown.opcode .dup = set.opcode .dup ∧
      set.opcode .dup = ⟨9⟩ ∧ set.bitWidth ≤ grown.bitWidth ∧ grown.verify = .ok () := by
  intro set grown
  have hposition : 1 ≤ set.instructions.length := by decide
  have hlength : grown.instructions.length < 2 ^ 29 := by decide
  have hclass : set.bucketSet .swap = set.bucketSet .dup := by decide
  have hlt : Instruction.dup < .swap := by decide
  rcases insertAt_renumbers hposition hlength with
    ⟨hmoves, hstays, _, hdup, _, hwidth, hverify⟩
  refine ⟨hposition, hlength, hclass, hlt, (hmoves .swap hclass hlt).2,
    (hstays .push (by decide)).2, hdup, by decide, hwidth, hverify.mpr ⟨?_, by decide⟩⟩
  exact (set.verify_eq_ok_iff (by decide)).mpr (by decide)

end InstructionSet

end OpcodeBuckets
