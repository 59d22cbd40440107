import OpcodeBuckets.Proofs.Assignment.Agreement
import OpcodeBuckets.Proofs.Assignment.Classes
import OpcodeBuckets.Proofs.Membership

/-!
# How Large an Accepted Table Can Be

Bounds on the tables there are, from nothing but their acceptance.

The comparison of a table with its instruction set asks for a list that a word
can count. An accepted list always is one. The walk has a repeat right behind its
first copy, because it goes by ordinal, and gives it the same opcode, because
the cursor has just numbered that copy. No counter has a part in it, so a list
with a repeat is refused even where its counters overflow, and an accepted list is
without repeats however long it might have been: it has no more instructions
than there are.

From there on the rest is arithmetic. An instruction has fewer classmates than
there are instructions, hence an opcode of three digits.

## Theorems

* `Assignment.steps_walk_copies`: A copy has the opcode of the one before it.
* `OpcodeTable.nodup_of_accepted`: An accepted list is without repeats.
* `OpcodeTable.length_le_of_accepted`: It is no longer than the list of all instructions.
* `OpcodeTable.entries_of_accepted`: The entries of an accepted table.
* `OpcodeTable.toNat_opcode_le_of_accepted`: Its opcodes have three digits.
-/

namespace OpcodeBuckets

namespace Instruction

theorem mem_all (i : Instruction) : i ∈ all := by
  cases i <;> decide

/-- A sorted list in which no copy stands beside another has no copies at all. -/
theorem nodup_of_sorted {l : List Instruction} (hsorted : l.Pairwise (· ≤ ·))
    (h : ∀ front i back, l ≠ front ++ i :: i :: back) : l.Nodup := by
  -- Neighbours are in order and are not the same, so the order of neighbours is strict.
  have hascend : l.IsChain (· < ·) := by
    rw [List.isChain_iff_forall_rel_of_append_cons_cons]
    intro i j front back hl
    have hle : i ≤ j := by
      rw [hl] at hsorted
      exact List.rel_of_pairwise_cons (List.pairwise_append.mp hsorted).2.1 List.mem_cons_self
    refine Nat.lt_of_le_of_ne hle fun heq => ?_
    rw [ordinal_inj.mp heq] at hl
    exact h front j back hl
  have htrans : ∀ {i j k : Instruction}, i < j → j < k → i < k := Nat.lt_trans
  have : IsTrans Instruction (· < ·) := ⟨fun _ _ _ => htrans⟩
  refine (List.isChain_iff_pairwise.mp hascend).imp fun {i j} hlt heq => ?_
  rw [heq] at hlt
  exact Nat.lt_irrefl j.ordinal hlt

end Instruction

namespace Assignment

/-- What a walk did at the second of two copies is what it did at the first, whatever the
    counters are. -/
theorem steps_walk_copies (bucketSet : Instruction → BucketSet) (classes : Classes)
    (i : Instruction) (rest : List Instruction) :
    ∃ step more, (Pass.walk bucketSet classes (i :: i :: rest)).steps = step :: step :: more := by
  have hindex : ∀ cursor : ClassCursor, (cursor.advance i).indexFor i = cursor.indexFor i := by
    intro cursor
    rw [ClassCursor.indexFor, ClassCursor.advance]
    simp only [if_true]
  rw [Pass.walk, Pass.walk, Classes.cursor_set_self, hindex]
  exact ⟨_, _, rfl⟩

/-- An opcode that stands in two places has two sharers. -/
theorem two_le_length_sharers (front back : List (Opcode × Instruction))
    (pair : Opcode × Instruction) :
    2 ≤ (sharers (front ++ pair :: pair :: back) pair.1).length := by
  simp only [sharers, List.length_map, List.filter_append, List.filter_cons, decide_true, if_true,
    List.length_append, List.length_cons]
  omega

end Assignment

namespace OpcodeTable

open Assignment

variable {set : InstructionSet} {table : OpcodeTable}

section Accepted

variable (h : ofInstructionSet set = .ok table)

include h

/-- An accepted list is without repeats, however long it is. -/
theorem nodup_of_accepted : set.instructions.Nodup := by
  rw [ofInstructionSet_eq_ofPass, ofPass_eq_ok_iff, checkDistinct_eq_ok_iff] at h
  have hdistinct := h.1
  rw [← (Instruction.sorted_perm set.instructions).nodup_iff]
  refine Instruction.nodup_of_sorted (Instruction.pairwise_sorted _) fun front i back hsorted => ?_
  -- Side by side the copies are given one opcode, which then has two sharers.
  rcases steps_walk_copies set.bucketSet (Pass.walk set.bucketSet [] front).classes i back with
    ⟨step, more, hsteps⟩
  have htwo := two_le_length_sharers
    ((Pass.walk set.bucketSet [] front).steps.map fun step => (step.opcode, step.instruction))
    (more.map fun step => (step.opcode, step.instruction)) (step.opcode, step.instruction)
  have hfew := hdistinct step.opcode
  rw [Pass.entries, List.map_map, Pass.ofInstructionSet, hsorted, Pass.walk_append] at hfew
  simp only [hsteps, List.map_append, List.map_cons] at hfew
  exact absurd hfew (Nat.not_le_of_lt htwo)

theorem length_le_of_accepted : set.instructions.length ≤ 34 :=
  (nodup_of_accepted h).length_le_of_subset fun i _ => Instruction.mem_all i

theorem entries_of_accepted :
    table.entries = (Instruction.sorted set.instructions).map fun i => (i, set.opcode i) := by
  have hlength := length_le_of_accepted h
  exact ((ofInstructionSet_eq_ok_iff set (by omega) table).mp h).2

theorem pairwise_entries_of_accepted :
    (table.entries.map Prod.fst).Pairwise (· < ·) := by
  rw [entries_of_accepted h, List.map_map]
  exact (List.map_id _).symm ▸ Instruction.pairwise_lt_sorted (nodup_of_accepted h)

/-- An opcode of an accepted table has three digits at most: its class index is a position
    in a class, and a class has no more instructions than there are. -/
theorem toNat_opcode_le_of_accepted {entry : Instruction × Opcode}
    (hentry : entry ∈ table.entries) : entry.2.value.toNat ≤ 271 := by
  have hlength := length_le_of_accepted h
  rw [entries_of_accepted h] at hentry
  rcases List.mem_map.mp hentry with ⟨i, hi, rfl⟩
  have hmem : i ∈ set.classOf (set.bucketSet i) :=
    set.mem_classOf.mpr ⟨(Instruction.sorted_perm _).mem_iff.mp hi, rfl⟩
  have hindex := List.idxOf_lt_length_of_mem hmem
  have hclass : (set.classOf (set.bucketSet i)).length ≤ set.instructions.length := by
    rw [(set.classOf_perm _).length_eq]
    exact List.length_filter_le _ _
  have hbits := (set.bucketSet i).bits.isLt
  have hopcode := set.toNat_opcode_of_mem_classOf (by omega) hmem
  -- The highest class index is 33, and 271 is that with all three bits behind it.
  simp only at hopcode ⊢
  omega

end Accepted

end OpcodeTable

end OpcodeBuckets
