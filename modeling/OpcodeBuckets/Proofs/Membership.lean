import OpcodeBuckets.InstructionSet
import Mathlib.Data.List.Destutter
import Mathlib.Data.List.Sort

/-!
# What a Bucket Holds

The members of a bucket, as a list that membership alone decides.

A bucket table can say one thing in many ways. Rows of one bucket may be split,
repeated, empty or out of order, and none of that is in the answer to whether a
bucket holds an instruction. It is not in the list of members either: that list
holds what the bucket holds, strictly by ordinal, and a strictly sorted list is
settled by what is in it.

## Theorems

* `Instruction.pairwise_lt_sorted`: Sorting a list without repeats is strict.
* `Instruction.sorted_congr`: Sorting forgets in which order a list stood.
* `eraseReps_eq_destutter`: Dropping repeats that stand side by side.
* `Instruction.eraseReps_sorted`: Of a sorted list that drops all repeats.
* `InstructionSet.mem_members_iff`: The members of a bucket are what it holds.
* `InstructionSet.pairwise_members`: They ascend strictly.
* `InstructionSet.members_congr`: Tables that agree on what buckets hold agree on
  the members.
-/

namespace OpcodeBuckets

namespace Instruction

instance : Std.Irrefl fun i j : Instruction => i < j where
  irrefl i := Nat.lt_irrefl i.ordinal

instance : Std.Antisymm fun i j : Instruction => i < j where
  antisymm _ _ hij hji := absurd hji (Nat.lt_asymm hij)

instance : Std.Antisymm fun i j : Instruction => i ≤ j where
  antisymm _ _ hij hji := ordinal_inj.mp (Nat.le_antisymm hij hji)

/-- A list that ascends does so strictly, when it is without repeats. -/
theorem pairwise_lt_of_nodup {l : List Instruction} (hsorted : l.Pairwise (· ≤ ·))
    (hnodup : l.Nodup) : l.Pairwise (· < ·) := by
  refine (hsorted.and hnodup).imp fun h => ?_
  exact Nat.lt_of_le_of_ne h.1 fun heq => h.2 (ordinal_inj.mp heq)

theorem pairwise_lt_sorted {l : List Instruction} (hnodup : l.Nodup) :
    (sorted l).Pairwise (· < ·) :=
  pairwise_lt_of_nodup (pairwise_sorted l) ((sorted_perm l).nodup_iff.mpr hnodup)

/-- Sorting forgets in which order a list stood. -/
theorem sorted_congr {l others : List Instruction} (h : l.Perm others) :
    sorted l = sorted others :=
  sorted_eq_of_perm (h.trans (sorted_perm others).symm) (pairwise_sorted others)

end Instruction

section Repeats

variable {α : Type} [DecidableEq α]

/-- What is left of a list when repeats that stand side by side are dropped, behind what was
    kept of the list so far. By induction on what lies ahead of the element kept last. -/
theorem eraseRepsBy_loop_eq (kept : α) (ahead done : List α) :
    List.eraseRepsBy.loop (· == ·) kept ahead done =
      done.reverse ++ ahead.destutter' (· ≠ ·) kept := by
  induction ahead generalizing kept done with
  | nil => rw [List.eraseRepsBy.loop, List.reverse_cons, List.destutter'_nil]
  | cons next ahead ih =>
      rw [List.eraseRepsBy.loop]
      by_cases h : kept = next
      · rw [beq_iff_eq.mpr h, List.destutter'_cons_neg _ (not_not.mpr h)]
        exact ih kept done
      · have hnext := ih next (kept :: done)
        rw [List.reverse_cons, List.append_assoc, List.singleton_append] at hnext
        rw [beq_eq_false_iff_ne.mpr h, List.destutter'_cons_pos _ h]
        exact hnext

theorem eraseReps_eq_destutter (l : List α) : l.eraseReps = l.destutter (· ≠ ·) := by
  cases l with
  | nil => rfl
  | cons first rest => exact eraseRepsBy_loop_eq first rest []

end Repeats

namespace Instruction

/-- In a sorted list repeats stand side by side, so none is left when those are dropped. -/
theorem eraseReps_sorted (l : List Instruction) : (sorted l).eraseReps = (sorted l).dedup := by
  rw [eraseReps_eq_destutter, (pairwise_sorted l).destutter_eq_dedup]

end Instruction

namespace InstructionSet

variable (set : InstructionSet)

theorem inBucket_iff {bucket : Bucket} {i : Instruction} :
    set.inBucket bucket i = true ↔ ∃ row ∈ set.rowsOf bucket, i ∈ row.members := by
  simp only [inBucket, List.any_eq_true, List.contains_iff_mem]

theorem mem_members_iff {bucket : Bucket} {i : Instruction} :
    i ∈ set.members bucket ↔ set.inBucket bucket i = true := by
  rw [members, Instruction.eraseReps_sorted, List.mem_dedup, (Instruction.sorted_perm _).mem_iff,
    List.mem_flatMap, inBucket_iff]

theorem pairwise_members (bucket : Bucket) : (set.members bucket).Pairwise (· < ·) := by
  rw [members, Instruction.eraseReps_sorted]
  exact Instruction.pairwise_lt_of_nodup
    ((Instruction.pairwise_sorted _).sublist (List.dedup_sublist _)) (List.nodup_dedup _)

/-- Tables that agree on what a bucket holds agree on its members, which both list
    strictly by ordinal. -/
theorem members_congr {a b : InstructionSet} {bucket : Bucket}
    (h : ∀ i, a.inBucket bucket i = b.inBucket bucket i) :
    a.members bucket = b.members bucket := by
  refine (a.pairwise_members bucket).eq_of_mem_iff (b.pairwise_members bucket) fun i => ?_
  rw [mem_members_iff, mem_members_iff, h]

end InstructionSet

end OpcodeBuckets
