import OpcodeBuckets.Proofs.Assignment.Collisions
import OpcodeBuckets.Proofs.Assignment.Ranks
import Mathlib.Data.List.Nodup

/-!
# Uniqueness Is a Property of the List

Which instruction sets `verify` accepts, and what it says of the others.

An opcode is shared by everything that received it, and by `opcode_inj` that is
one instruction at most, however often it is listed. So the sharers of an
opcode are copies of one instruction, a collision is a repeat, and the bucket
table has no part in it: it moves opcodes about but never makes two meet.

## Main definitions

* `InstructionSet.copiesOf`: The collision that the copies of an instruction make.

## Theorems

* `InstructionSet.sharers_opcode`: The sharers of an opcode are copies of its
  instruction.
* `InstructionSet.verify_eq_error_of_perm`: A refusal known by its collisions.
* `InstructionSet.mem_collisions_of_verify`: The collisions are the repeats.
* `InstructionSet.verify_iff_nodup_and_collisions`: The verdict and its collisions.
-/

namespace OpcodeBuckets

namespace InstructionSet

open Assignment

variable (set : InstructionSet)

/-- The opcode of an instruction with every listed copy of the instruction. -/
def copiesOf (instruction : Instruction) : Collision where
  opcode := set.opcode instruction
  instructions := List.replicate (set.instructions.count instruction) instruction

theorem verify_eq :
    set.verify = checkDistinct (set.instructions.map fun i => (set.opcode i, i)) := by
  rw [verify, opcodes, List.map_map]
  rfl

/-- The sharers of an opcode are the copies of the instruction it belongs to. -/
theorem sharers_opcode (hlength : set.instructions.length < 2 ^ 29) {i : Instruction}
    (hi : i ∈ set.instructions) :
    sharers (set.instructions.map fun i => (set.opcode i, i)) (set.opcode i) =
      (set.copiesOf i).instructions := by
  rw [sharers_map, copiesOf, ← List.filter_eq]
  refine List.filter_congr fun j hj => ?_
  rw [decide_eq_decide]
  exact set.opcode_inj hlength hj hi

theorem verify_eq_ok_iff (hlength : set.instructions.length < 2 ^ 29) :
    set.verify = .ok () ↔ set.instructions.Nodup := by
  rw [verify_eq, checkDistinct_eq_ok_iff, List.nodup_iff_count_le_one]
  constructor
  · intro h i
    by_cases hi : i ∈ set.instructions
    · have hfew := h (set.opcode i)
      rwa [set.sharers_opcode hlength hi, copiesOf, List.length_replicate] at hfew
    · rw [List.count_eq_zero.mpr hi]
      exact Nat.zero_le 1
  · intro h opcode
    -- An opcode that no listed instruction has is shared by none.
    by_cases hopcode : opcode ∈ set.instructions.map set.opcode
    · rcases List.mem_map.mp hopcode with ⟨i, hi, rfl⟩
      rw [set.sharers_opcode hlength hi, copiesOf, List.length_replicate]
      exact h i
    · rw [sharers_eq_nil (by rwa [List.map_map])]
      exact Nat.zero_le 1

/-- A set is refused with its crowded groups of opcodes, once they ascend. -/
theorem verify_eq_error_of_perm {listed : List Collision}
    (hperm : listed.Perm (crowded (holders (set.instructions.map fun i => (set.opcode i, i)))))
    (hsorted : listed.Pairwise fun a b => a.opcode ≤ b.opcode) (hne : listed ≠ []) :
    set.verify = .error ⟨listed⟩ := by
  rw [verify_eq, checkDistinct_eq_error_iff]
  exact ⟨eq_collisionsOf (List.Perm.refl _) hperm hsorted, hne⟩

/-- The collisions of a refused set are the repeats of its list, no more and no less. -/
theorem mem_collisions_of_verify (hlength : set.instructions.length < 2 ^ 29)
    {error : UniquenessError} (h : set.verify = .error error) {collision : Collision} :
    collision ∈ error.collisions ↔
      ∃ i, 1 < set.instructions.count i ∧ collision = set.copiesOf i := by
  rw [verify_eq, checkDistinct_eq_error_iff] at h
  rw [h.1, mem_collisionsOf_holders]
  constructor
  · rintro ⟨hshared, hlong⟩
    -- Something shares the opcode, so the opcode belongs to a listed instruction.
    have hopcode := mem_of_length_sharers_pos (hshared ▸ Nat.zero_lt_of_lt hlong)
    rw [List.map_map] at hopcode
    rcases List.mem_map.mp hopcode with ⟨i, hi, heq⟩
    rw [← heq, Function.comp_apply, set.sharers_opcode hlength hi] at hshared
    refine ⟨i, ?_, ?_⟩
    · rwa [hshared, copiesOf, List.length_replicate] at hlong
    · rcases collision with ⟨opcode, instructions⟩
      exact (Collision.mk.injEq ..).mpr ⟨heq.symm, hshared⟩
  · rintro ⟨i, hcount, rfl⟩
    have hi : i ∈ set.instructions := List.count_pos_iff.mp (by omega)
    refine ⟨(set.sharers_opcode hlength hi).symm, ?_⟩
    rwa [copiesOf, List.length_replicate]

theorem pairwise_collisions_of_verify {error : UniquenessError} (h : set.verify = .error error) :
    error.collisions.Pairwise fun a b => a.opcode < b.opcode := by
  rw [verify_eq, checkDistinct_eq_error_iff] at h
  rw [h.1]
  exact pairwise_collisionsOf_holders _

/-- A repeated instruction is in one collision, and that one is all its copies. -/
theorem filter_collisions_of_verify (hlength : set.instructions.length < 2 ^ 29)
    {error : UniquenessError} (h : set.verify = .error error) {i : Instruction}
    (hi : 1 < set.instructions.count i) :
    error.collisions.filter (fun collision => decide (i ∈ collision.instructions)) =
      [set.copiesOf i] := by
  -- Both sides ascend, the right one for want of a second member.
  refine collisions_ext ((set.pairwise_collisions_of_verify h).filter _)
    (List.pairwise_singleton _ _) fun collision => ?_
  rw [List.mem_filter, decide_eq_true_eq, List.mem_singleton,
    set.mem_collisions_of_verify hlength h]
  constructor
  · rintro ⟨⟨j, _, rfl⟩, hmem⟩
    rw [copiesOf, List.mem_replicate] at hmem
    rw [hmem.2]
  · rintro rfl
    refine ⟨⟨i, hi, rfl⟩, ?_⟩
    rw [copiesOf, List.mem_replicate]
    exact ⟨by omega, rfl⟩

/-- The verdict on an instruction set is a verdict on repeats. It is accepted
    exactly when its list has none. Otherwise the collisions ascend strictly, an
    instruction that is listed more than once is in one collision and that is all
    its copies, and every collision is of this kind. Distinct instructions never
    share an opcode, whether others are repeated or not. -/
theorem verify_iff_nodup_and_collisions (hlength : set.instructions.length < 2 ^ 29) :
    (set.verify = .ok () ↔ set.instructions.Nodup) ∧
      (∀ error, set.verify = .error error →
        error.collisions.Pairwise (fun a b => a.opcode < b.opcode) ∧
        (∀ i, 1 < set.instructions.count i →
          error.collisions.filter (fun collision => decide (i ∈ collision.instructions)) =
            [set.copiesOf i]) ∧
        (∀ collision ∈ error.collisions,
          ∃ i, 1 < set.instructions.count i ∧ collision = set.copiesOf i)) ∧
      (∀ i ∈ set.instructions, ∀ j ∈ set.instructions, set.opcode i = set.opcode j → i = j) := by
  refine ⟨set.verify_eq_ok_iff hlength, fun error herror => ⟨?_, fun i hi => ?_, ?_⟩, ?_⟩
  · exact set.pairwise_collisions_of_verify herror
  · exact set.filter_collisions_of_verify hlength herror hi
  · exact fun collision => (set.mem_collisions_of_verify hlength herror).mp
  · exact fun i hi j hj => (set.opcode_inj hlength hi hj).mp

/-- Without a bucket table there is one class. The copies of `halt` collide in it,
    so do those of `nop`, and `divine` keeps an opcode of its own. -/
theorem verify_two_repeats :
    let set : InstructionSet := ⟨[.nop, .halt, .divine, .nop, .halt, .nop], []⟩
    set.instructions.length < 2 ^ 29 ∧
      set.verify = .error ⟨[⟨⟨0⟩, [.halt, .halt]⟩, ⟨⟨24⟩, [.nop, .nop, .nop]⟩]⟩ ∧
      ¬ set.verify = .ok () ∧ set.opcode .divine ≠ set.opcode .nop := by
  intro set
  have hlength : set.instructions.length < 2 ^ 29 := by decide
  have hexact := set.verify_iff_nodup_and_collisions hlength
  have herror : set.verify = .error ⟨[⟨⟨0⟩, [.halt, .halt]⟩, ⟨⟨24⟩, [.nop, .nop, .nop]⟩]⟩ :=
    set.verify_eq_error_of_perm (by decide) (by decide) (by decide)
  refine ⟨hlength, herror, ?_, fun h => ?_⟩
  · rw [hexact.1]
    decide
  · exact absurd (hexact.2.2 _ (by decide) _ (by decide) h) (by decide)

end InstructionSet

end OpcodeBuckets
