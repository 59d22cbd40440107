import OpcodeBuckets.Proofs.Assignment.Collisions
import Mathlib.Data.List.Nodup

/-!
# The Verdict on Any List of Pairs

What `checkDistinct` says of opcodes that need not come from an instruction set.

Within an instruction set an opcode belongs to one instruction, and a collision is
a run of copies. Nothing of the sort holds of pairs in general. Different
instructions may share an opcode, so a collision has an order inside, which is
that of the list, and an order among its likes, which is that of the opcodes.

The gathered groups have an order too, and nobody chose it: a map from opcodes to
instructions may give its entries back in any order it pleases, and a sort is free
in how it leaves what it takes for equal. Neither freedom is ever used. No opcode
has two groups, hence no two collisions are equal to the sort, and a list that
ascends by opcode is the only one with its members. That is `eq_collisionsOf`, and
it is all that stands between the groups and the refusal.

## Main definitions

* `verdict`: What is said of a list with given collisions.

## Theorems

* `length_sharers`: An opcode has as many sharers as it occurs.
* `mem_map_opcode_collisionsOf`: The opcodes in collision are those that repeat.
* `checkDistinct_is_exact`: The verdict, its collisions, and what it does not depend on.
-/

namespace OpcodeBuckets

namespace Assignment

/-- What is said of a list with the given collisions. -/
def verdict : List Collision → Except UniquenessError Unit
  | [] => .ok ()
  | collisions => .error ⟨collisions⟩

section List

variable {assigned : List (Opcode × Instruction)}

theorem checkDistinct_eq_verdict (assigned : List (Opcode × Instruction)) :
    checkDistinct assigned = verdict (collisionsOf (holders assigned)) := by
  unfold checkDistinct
  cases collisionsOf (holders assigned) with
  | nil => rfl
  | cons first rest => rfl

/-- An opcode has as many sharers as it occurs. -/
theorem length_sharers (assigned : List (Opcode × Instruction)) (opcode : Opcode) :
    (sharers assigned opcode).length = (assigned.map Prod.fst).count opcode := by
  rw [sharers, List.length_map, ← List.countP_eq_length_filter, List.count, List.countP_map]
  refine List.countP_congr fun pair _ => ?_
  rw [decide_eq_true_eq, Function.comp_apply, beq_iff_eq]

/-- A list without collisions is one whose opcodes are distinct. -/
theorem checkDistinct_eq_ok_iff_nodup :
    checkDistinct assigned = .ok () ↔ (assigned.map Prod.fst).Nodup := by
  rw [checkDistinct_eq_ok_iff, List.nodup_iff_count_le_one]
  simp only [length_sharers]

/-- The opcodes in collision are those that repeat. -/
theorem mem_map_opcode_collisionsOf {opcode : Opcode} :
    opcode ∈ (collisionsOf (holders assigned)).map Collision.opcode ↔
      2 ≤ (assigned.map Prod.fst).count opcode := by
  rw [List.mem_map, ← length_sharers]
  constructor
  · intro h
    rcases h with ⟨collision, hmem, hopcode⟩
    rw [mem_collisionsOf_holders] at hmem
    rw [← hopcode, ← hmem.1]
    exact hmem.2
  · intro h
    refine ⟨⟨opcode, sharers assigned opcode⟩, ?_, rfl⟩
    rw [mem_collisionsOf_holders]
    exact ⟨rfl, h⟩

end List

/-- The verdict on any list of pairs. It is accepted exactly when its opcodes are
    distinct, and otherwise refused. The collisions of a refusal ascend strictly, their
    opcodes are those that occur twice or more, and each lists what the list pairs with
    its opcode, in the order of the list and repeats kept. Neither the order in which the
    groups are enumerated nor the way in which they are sorted has a part in it. -/
theorem checkDistinct_is_exact (assigned : List (Opcode × Instruction)) :
    (checkDistinct assigned = .ok () ↔ (assigned.map Prod.fst).Nodup) ∧
    (¬ (assigned.map Prod.fst).Nodup → ∃ error, checkDistinct assigned = .error error ∧
      error.collisions.Pairwise (fun a b => a.opcode < b.opcode) ∧
      (∀ opcode, opcode ∈ error.collisions.map Collision.opcode ↔
        2 ≤ (assigned.map Prod.fst).count opcode) ∧
      ∀ collision ∈ error.collisions,
        collision.instructions = sharers assigned collision.opcode) ∧
    ∀ groups listed, groups.Perm (holders assigned) → listed.Perm (crowded groups) →
      listed.Pairwise (fun a b => a.opcode ≤ b.opcode) →
      verdict listed = checkDistinct assigned := by
  refine ⟨checkDistinct_eq_ok_iff_nodup, ?_, ?_⟩
  · intro hrepeat
    cases hcheck : checkDistinct assigned with
    | ok _ => exact absurd (checkDistinct_eq_ok_iff_nodup.mp hcheck) hrepeat
    | error error =>
        have hcollisions := (checkDistinct_eq_error_iff.mp hcheck).1
        refine ⟨error, rfl, ?_, ?_, ?_⟩
        · rw [hcollisions]
          exact pairwise_collisionsOf_holders assigned
        · intro opcode
          rw [hcollisions]
          exact mem_map_opcode_collisionsOf
        · intro collision hmem
          rw [hcollisions, mem_collisionsOf_holders] at hmem
          exact hmem.1
  · intro groups listed hgroups hlisted hsorted
    rw [eq_collisionsOf hgroups hlisted hsorted, checkDistinct_eq_verdict]

/-- Three pairs with one opcode, two of them of one instruction, stand between two with a
    lower one. The groups are enumerated in the reverse order of their arrival. -/
theorem checkDistinct_is_exact_interleaved :
    let assigned : List (Opcode × Instruction) :=
      [(⟨8⟩, .push), (⟨1⟩, .halt), (⟨8⟩, .dup), (⟨3⟩, .nop), (⟨8⟩, .push), (⟨1⟩, .halt)]
    let groups : Holders :=
      [(⟨3⟩, [.nop]), (⟨1⟩, [.halt, .halt]), (⟨8⟩, [.push, .dup, .push])]
    let listed : List Collision := [⟨⟨1⟩, [.halt, .halt]⟩, ⟨⟨8⟩, [.push, .dup, .push]⟩]
    ¬ (assigned.map Prod.fst).Nodup ∧ groups.Perm (holders assigned) ∧
      listed.Perm (crowded groups) ∧ listed.Pairwise (fun a b => a.opcode ≤ b.opcode) ∧
      checkDistinct assigned = .error ⟨listed⟩ ∧
      (⟨8⟩ : Opcode) ∈ listed.map Collision.opcode ∧
      [.push, .dup, .push] = sharers assigned ⟨8⟩ := by
  intro assigned groups listed
  have hrepeat : ¬ (assigned.map Prod.fst).Nodup := by decide
  have hgroups : groups.Perm (holders assigned) := by decide
  have hlisted : listed.Perm (crowded groups) := by decide
  have hsorted : listed.Pairwise (fun a b => a.opcode ≤ b.opcode) := by decide
  rcases checkDistinct_is_exact assigned with ⟨_, hrefused, horder⟩
  have hcheck : checkDistinct assigned = .error ⟨listed⟩ :=
    (horder groups listed hgroups hlisted hsorted).symm
  rcases hrefused hrepeat with ⟨error, herror, _, hopcodes, hshared⟩
  rw [hcheck, Except.error.injEq] at herror
  subst herror
  refine ⟨hrepeat, hgroups, hlisted, hsorted, hcheck, ?_, ?_⟩
  · rw [hopcodes]
    decide
  · exact hshared ⟨⟨8⟩, [.push, .dup, .push]⟩ (by decide)

end Assignment

end OpcodeBuckets
