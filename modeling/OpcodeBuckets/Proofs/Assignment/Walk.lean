import OpcodeBuckets.Assignment.Pass
import OpcodeBuckets.Proofs.Assignment.Ranks

/-!
# The Walk Counts Ranks

Why walking a list once gives every instruction its rank.

A cursor keeps a count and the last instruction it numbered. Neither is a rank
by itself: the count runs ahead of the rank as soon as an instruction repeats,
and the last index is right for one instruction only. They suffice because the
walk goes by ascending ordinal. Everything of the class that lies behind is
either below the instruction the walk has come to, and then the count is its
rank, or a copy of it, and then the copy was numbered last.

`Tracks` is what the cursors know of the part of the list behind the walk. Each
step keeps it, whichever class the step falls in, and a whole walk therefore
ends with cursors that know the whole list.

## Main definitions

* `Tracks`: Cursors that are right for the part of a list behind a walk.

## Theorems

* `toNat_indexFor`: A cursor that is right hands out the rank.
* `last_set_advance`: What a step leaves numbered last in each class.
* `tracks_advance`: A step keeps the cursors right.
* `Pass.walk_append`: A walk, taken up again at any place.
* `walk_of_tracks`: What a walk does, from cursors that are right.
* `steps_ofInstructionSet`: What the walk over an instruction set does.
-/

namespace OpcodeBuckets

namespace Assignment

namespace Classes

theorem cursor_set_self (buckets : BucketSet) (cursor : ClassCursor) (classes : Classes) :
    (set buckets cursor classes).cursor buckets = cursor := by
  rw [Classes.cursor, lookup_set_self, Option.getD_some]

theorem cursor_set_of_ne {a b : BucketSet} (h : a ≠ b) (cursor : ClassCursor)
    (classes : Classes) : (set a cursor classes).cursor b = classes.cursor b := by
  rw [Classes.cursor, lookup_set_of_ne h, Classes.cursor]

end Classes

variable {bucketSet : Instruction → BucketSet}

/-- Cursors that are right for the part of a list that a walk has behind itself. -/
structure Tracks (bucketSet : Instruction → BucketSet) (visited : List Instruction)
    (classes : Classes) : Prop where
  /-- A cursor counts the visited instructions of its class, repeats included. -/
  seen_eq : ∀ buckets,
    (classes.cursor buckets).seen.toNat = visited.countP fun i => bucketSet i == buckets
  /-- A class whose cursor is fresh was not visited. -/
  not_visited : ∀ buckets, (classes.cursor buckets).last = none →
    ∀ i ∈ visited, bucketSet i ≠ buckets
  /-- What a cursor numbered last was visited, in its class. -/
  last_mem : ∀ buckets last index, (classes.cursor buckets).last = some (last, index) →
    last ∈ visited ∧ bucketSet last = buckets
  /-- What a cursor numbered last is the greatest of its class so far. -/
  le_last : ∀ buckets last index, (classes.cursor buckets).last = some (last, index) →
    ∀ i ∈ visited, bucketSet i = buckets → i ≤ last
  /-- What a cursor numbered last received its rank. -/
  index_eq : ∀ buckets last index, (classes.cursor buckets).last = some (last, index) →
    index.toNat = rank bucketSet visited last

/-- Before the first step nothing was visited, and no class has a cursor. -/
theorem tracks_nil (bucketSet : Instruction → BucketSet) : Tracks bucketSet [] [] where
  seen_eq _ := rfl
  not_visited _ _ _ h := absurd h List.not_mem_nil
  last_mem _ _ _ h := nomatch h
  le_last _ _ _ h := nomatch h
  index_eq _ _ _ h := nomatch h

/-- Where no copy of an instruction lies behind, its rank is the size of its class. -/
theorem rank_eq_countP {visited : List Instruction} {i : Instruction}
    (h : ∀ j ∈ visited, bucketSet j = bucketSet i → j < i) :
    rank bucketSet visited i = visited.countP fun j => bucketSet j == bucketSet i := by
  refine List.countP_congr fun j hj => ?_
  rw [Bool.and_eq_true, decide_eq_true_eq, beq_iff_eq]
  exact ⟨And.right, fun hclass => ⟨h j hj hclass, hclass⟩⟩

/-- A cursor that is right hands out the rank. -/
theorem toNat_indexFor {visited : List Instruction} {classes : Classes}
    (h : Tracks bucketSet visited classes) {i : Instruction} (hbehind : ∀ j ∈ visited, j ≤ i) :
    ((classes.cursor (bucketSet i)).indexFor i).toNat = rank bucketSet visited i := by
  rw [ClassCursor.indexFor]
  cases hlast : (classes.cursor (bucketSet i)).last with
  | none =>
      rw [h.seen_eq, rank_eq_countP]
      exact fun j hj hclass => absurd hclass (h.not_visited _ hlast j hj)
  | some pair =>
      rcases pair with ⟨last, index⟩
      by_cases hcopy : last = i
      · -- A copy was numbered last, and the instruction shares its index.
        simp only [if_pos hcopy]
        rw [h.index_eq _ _ _ hlast, hcopy]
      · -- Everything of the class is at most `last`, which is itself below.
        simp only [if_neg hcopy]
        rw [h.seen_eq, rank_eq_countP]
        intro j hj hclass
        have hle := h.le_last _ _ _ hlast j hj hclass
        have hlt := hbehind last (h.last_mem _ _ _ hlast).1
        have hne : last.ordinal ≠ i.ordinal := fun heq => hcopy (Instruction.ordinal_inj.mp heq)
        rw [Instruction.le_iff] at hle hlt
        rw [Instruction.lt_iff]
        omega

/-- After a step the cursor of its class has the instruction numbered last, and the
    others have what they had. -/
theorem last_set_advance {classes : Classes} {i last : Instruction} {own buckets : BucketSet}
    {index : UInt32}
    (h : ((classes.set own ((classes.cursor own).advance i)).cursor buckets).last =
      some (last, index)) :
    (own = buckets ∧ last = i ∧ index = (classes.cursor own).indexFor i) ∨
      (own ≠ buckets ∧ (classes.cursor buckets).last = some (last, index)) := by
  by_cases hclass : own = buckets
  · subst hclass
    rw [Classes.cursor_set_self, ClassCursor.advance, Option.some.injEq, Prod.mk.injEq] at h
    exact Or.inl ⟨rfl, h.1.symm, h.2.symm⟩
  · rw [Classes.cursor_set_of_ne hclass] at h
    exact Or.inr ⟨hclass, h⟩

/-- A step keeps the cursors right: the one of its class by counting it, the others
    because nothing of theirs was visited. -/
theorem tracks_advance {visited : List Instruction} {classes : Classes}
    (h : Tracks bucketSet visited classes) {i : Instruction} (hbehind : ∀ j ∈ visited, j ≤ i)
    (hlength : visited.length + 1 < 2 ^ 32) :
    Tracks bucketSet (visited ++ [i])
      (classes.set (bucketSet i) ((classes.cursor (bucketSet i)).advance i)) where
  seen_eq buckets := by
    rw [List.countP_append, List.countP_singleton]
    by_cases hclass : bucketSet i = buckets
    · -- The count stays below the length of the list, so a word does not overflow.
      subst hclass
      have hle : visited.countP (fun j => bucketSet j == bucketSet i) ≤ visited.length :=
        List.countP_le_length
      rw [Classes.cursor_set_self, ClassCursor.advance, UInt32.toNat_add, h.seen_eq,
        UInt32.toNat_one, if_pos (beq_self_eq_true _), Nat.mod_eq_of_lt (by omega)]
    · rw [Classes.cursor_set_of_ne hclass, h.seen_eq, if_neg (by rwa [beq_iff_eq]), Nat.add_zero]
  not_visited buckets hlast := by
    by_cases hclass : bucketSet i = buckets
    · subst hclass
      rw [Classes.cursor_set_self] at hlast
      exact nomatch hlast
    · rw [Classes.cursor_set_of_ne hclass] at hlast
      intro j hj
      rcases List.mem_append.mp hj with hj | hj
      · exact h.not_visited buckets hlast j hj
      · rwa [List.mem_singleton.mp hj]
  last_mem buckets last index hlast := by
    rcases last_set_advance hlast with ⟨rfl, rfl, _⟩ | ⟨_, hkept⟩
    · exact ⟨List.mem_append_right _ (List.mem_singleton_self last), rfl⟩
    · have hmem := h.last_mem buckets last index hkept
      exact ⟨List.mem_append_left _ hmem.1, hmem.2⟩
  le_last buckets last index hlast j hj hj' := by
    rw [List.mem_append, List.mem_singleton] at hj
    rcases last_set_advance hlast with ⟨rfl, rfl, _⟩ | ⟨hclass, hkept⟩
    · rcases hj with hj | rfl
      · exact hbehind j hj
      · exact Nat.le_refl j.ordinal
    · rcases hj with hj | rfl
      · exact h.le_last buckets last index hkept j hj hj'
      · exact absurd hj' hclass
  index_eq buckets last index hlast := by
    -- The instruction of the step is not below itself, nor a classmate of another class.
    rw [rank_append, rank_singleton]
    rcases last_set_advance hlast with ⟨rfl, rfl, rfl⟩ | ⟨hclass, hkept⟩
    · rw [toNat_indexFor h hbehind, if_neg fun hlt => Nat.lt_irrefl last.ordinal hlt.1,
        Nat.add_zero]
    · have hmem := h.last_mem buckets last index hkept
      rw [h.index_eq buckets last index hkept,
        if_neg fun hlt => hclass (hlt.2.trans hmem.2), Nat.add_zero]

/-- A walk can be interrupted at any place and taken up again from the cursors it has
    there. -/
theorem Pass.walk_append (bucketSet : Instruction → BucketSet) (classes : Classes)
    (front back : List Instruction) :
    Pass.walk bucketSet classes (front ++ back) =
      ⟨(Pass.walk bucketSet classes front).steps ++
          (Pass.walk bucketSet (Pass.walk bucketSet classes front).classes back).steps,
        (Pass.walk bucketSet (Pass.walk bucketSet classes front).classes back).classes⟩ := by
  induction front generalizing classes with
  | nil => rfl
  | cons i rest ih => rw [List.cons_append, Pass.walk, ih, Pass.walk, List.cons_append]

/-- What a walk does, from cursors that are right for what lies behind it: it gives
    every instruction its rank in the whole list, and the cursors end up right for
    the whole list. By induction on what is still ahead. -/
theorem walk_of_tracks {visited ahead : List Instruction} {classes : Classes}
    (h : Tracks bucketSet visited classes) (hsorted : (visited ++ ahead).Pairwise (· ≤ ·))
    (hlength : (visited ++ ahead).length < 2 ^ 32) :
    ((Pass.walk bucketSet classes ahead).steps =
      ahead.map fun i => ⟨i, bucketSet i, .ofNat (rank bucketSet (visited ++ ahead) i)⟩) ∧
      Tracks bucketSet (visited ++ ahead) (Pass.walk bucketSet classes ahead).classes := by
  induction ahead generalizing visited classes with
  | nil =>
      rw [List.append_nil]
      exact ⟨rfl, h⟩
  | cons i rest ih =>
      have hbehind : ∀ j ∈ visited, j ≤ i := fun j hj =>
        (List.pairwise_append.mp hsorted).2.2 j hj i List.mem_cons_self
      have hahead : ∀ j ∈ i :: rest, i ≤ j := by
        intro j hj
        rcases List.mem_cons.mp hj with rfl | hj
        · exact Nat.le_refl j.ordinal
        · exact List.rel_of_pairwise_cons (List.pairwise_append.mp hsorted).2.1 hj
      rw [List.length_append, List.length_cons] at hlength
      -- What lies ahead does not count towards the rank of the instruction at hand.
      have hindex : (classes.cursor (bucketSet i)).indexFor i =
          .ofNat (rank bucketSet (visited ++ i :: rest) i) := by
        have hle := rank_le_length bucketSet visited i
        rw [← UInt32.toNat_inj, toNat_indexFor h hbehind, rank_append,
          rank_eq_zero bucketSet hahead, Nat.add_zero,
          UInt32.toNat_ofNat_of_lt' (by rw [UInt32.size]; omega)]
      -- The step moves the instruction from ahead to behind and leaves the list the same.
      have hrest := ih (tracks_advance h hbehind (by omega))
        (by rwa [List.append_assoc, List.singleton_append])
        (by rw [List.length_append, List.length_append, List.length_singleton]; omega)
      rw [List.append_assoc, List.singleton_append] at hrest
      refine ⟨?_, hrest.2⟩
      rw [Pass.walk, List.map_cons, hrest.1, hindex]

/-- What the walk over an instruction set does: it meets the listed instructions by
    ascending ordinal and gives each its class index. -/
theorem steps_ofInstructionSet (set : InstructionSet)
    (hlength : set.instructions.length < 2 ^ 32) :
    (Pass.ofInstructionSet set).steps =
      (Instruction.sorted set.instructions).map fun i =>
        ⟨i, set.bucketSet i, set.classIndex i⟩ := by
  -- The walk starts at the front of the sorted list, with nothing behind it.
  have hperm := Instruction.sorted_perm set.instructions
  have hsorted : ([] ++ Instruction.sorted set.instructions).Pairwise (· ≤ ·) :=
    Instruction.pairwise_sorted set.instructions
  have hshort : ([] ++ Instruction.sorted set.instructions).length < 2 ^ 32 := by
    rwa [List.nil_append, hperm.length_eq]
  rw [Pass.ofInstructionSet, (walk_of_tracks (tracks_nil set.bucketSet) hsorted hshort).1]
  refine List.map_congr_left fun i _ => ?_
  -- Sorting moves nothing in or out of a class, so the ranks are those of the list.
  have hindex : set.classIndex i =
      .ofNat (rank set.bucketSet (Instruction.sorted set.instructions) i) := by
    have hle := rank_le_length set.bucketSet set.instructions i
    rw [← UInt32.toNat_inj, set.toNat_classIndex hlength, rank_perm _ hperm,
      UInt32.toNat_ofNat_of_lt' (by rw [UInt32.size]; omega)]
  rw [hindex, List.nil_append]

end Assignment

end OpcodeBuckets
