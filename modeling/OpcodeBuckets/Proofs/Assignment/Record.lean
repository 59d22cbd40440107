import OpcodeBuckets.Proofs.Assignment.Agreement
import OpcodeBuckets.Proofs.Text.Fields
import Mathlib.Algebra.BigOperators.Group.List.Lemmas
import Mathlib.Algebra.Ring.Nat
import Mathlib.Data.List.Dedup

/-!
# What a Walk Leaves on Record

The walk over an instruction list, as it stands before anybody judges it.

Whether the opcodes of a list are distinct is asked when the walk is over, so a
list that is refused has been walked like any other: its steps and its cursors are
there, and nothing in them depends on the verdict. Nor does what a traced build of
the table prints, which stands beside a refusal as it stands beside a table.

A walk can be interrupted at any place and taken up again from the cursors it has
by then, `walk_append`. So the part in front of a place is itself a walk, of a
shorter list, and what is known of finished walks holds in the middle of one: the
cursors count exactly, which leaves no room for an overflow. At the end a class
has one cursor if it was met and none otherwise, and the counts of all cursors
add up to the length of the list.

## Main definitions

* `InstructionSet.traceLine`: What a traced build prints of an instruction.

## Theorems

* `Assignment.Pass.mem_map_fst_walk`, `Assignment.Pass.nodup_map_fst_walk`: The
  classes with a cursor are those met, each with one.
* `Assignment.cursor_of_mem`: The cursor of a class is the one on record.
* `Assignment.sum_countP_eq_length`: Counts by class add up to the whole.
* `Assignment.seen_walk_sorted`: The cursors count what lies behind.
* `InstructionSet.build_traced`: A traced build prints the walk and gives the verdict.
* `InstructionSet.walk_is_recorded`: The whole record of a walk.
-/

namespace OpcodeBuckets

namespace Assignment

theorem Classes.map_fst_set (buckets : BucketSet) (cursor : ClassCursor) (classes : Classes) :
    (Classes.set buckets cursor classes).map Prod.fst = withKey buckets (classes.map Prod.fst) := by
  induction classes with
  | nil => rfl
  | cons head rest ih =>
      rcases head with ⟨other, kept⟩
      by_cases hother : other = buckets
      · subst hother
        rw [Classes.set, if_pos rfl, List.map_cons, List.map_cons, withKey_cons_self]
      · rw [Classes.set, if_neg hother, List.map_cons, List.map_cons, withKey_cons_of_ne hother, ih]

namespace Pass

variable (bucketSet : Instruction → BucketSet)

/-- The classes with a cursor are those that had one and those that were met. -/
theorem mem_map_fst_walk (classes : Classes) (met : List Instruction) (buckets : BucketSet) :
    buckets ∈ (walk bucketSet classes met).classes.map Prod.fst ↔
      buckets ∈ classes.map Prod.fst ∨ ∃ i ∈ met, bucketSet i = buckets := by
  induction met generalizing classes with
  | nil => simp only [walk, List.not_mem_nil, false_and, exists_false, or_false]
  | cons i rest ih =>
      rw [walk, ih, Classes.map_fst_set, mem_withKey, List.exists_mem_cons_iff, or_assoc,
        eq_comm (a := buckets)]

/-- No class has two cursors. -/
theorem nodup_map_fst_walk {classes : Classes} (h : (classes.map Prod.fst).Nodup)
    (met : List Instruction) : ((walk bucketSet classes met).classes.map Prod.fst).Nodup := by
  induction met generalizing classes with
  | nil => exact h
  | cons i rest ih =>
      refine ih ?_
      rw [Classes.map_fst_set]
      exact nodup_withKey h (bucketSet i)

end Pass

/-- The cursor of a class is the one on record, when no class has two. -/
theorem cursor_of_mem {classes : Classes} (hnodup : (classes.map Prod.fst).Nodup)
    {buckets : BucketSet} {cursor : ClassCursor} (h : (buckets, cursor) ∈ classes) :
    classes.cursor buckets = cursor := by
  rcases List.append_of_mem h with ⟨front, back, rfl⟩
  have hlookup : (front ++ (buckets, cursor) :: back).lookup buckets = some cursor := by
    rw [List.lookup_eq_some_iff]
    refine ⟨front, back, rfl, fun entry hentry => ?_⟩
    -- An entry in front is of another class.
    rw [List.map_append, List.nodup_append] at hnodup
    rw [bne_iff_ne]
    exact (hnodup.2.2 _ (List.mem_map_of_mem hentry) _ List.mem_cons_self).symm
  rw [Classes.cursor, hlookup, Option.getD_some]

/-- Counts by class add up to the whole, when every class that occurs is counted once. -/
theorem sum_countP_eq_length {bucketSet : Instruction → BucketSet} {counted : List BucketSet}
    (hnodup : counted.Nodup) {listed : List Instruction}
    (hmem : ∀ buckets, buckets ∈ counted ↔ ∃ i ∈ listed, bucketSet i = buckets) :
    (counted.map fun buckets => listed.countP fun i => bucketSet i == buckets).sum =
      listed.length := by
  -- The classes counted are those of the list without repeats, in some order.
  have hperm : counted.Perm (listed.map bucketSet).dedup := by
    refine (List.perm_ext_iff_of_nodup hnodup (List.nodup_dedup _)).mpr fun buckets => ?_
    rw [List.mem_dedup, List.mem_map, hmem]
  have hcount : (fun buckets => listed.countP fun i => bucketSet i == buckets) =
      fun buckets => (listed.map bucketSet).count buckets := by
    funext buckets
    rw [List.count, List.countP_map]
    rfl
  rw [hcount, (hperm.map _).sum_eq, List.sum_map_count_dedup_eq_length, List.length_map]

/-- After the front of a sorted list the cursors count what lies behind the walk. -/
theorem seen_walk_sorted (bucketSet : Instruction → BucketSet) {front back : List Instruction}
    (hsorted : (front ++ back).Pairwise (· ≤ ·)) (hlength : (front ++ back).length < 2 ^ 32)
    (buckets : BucketSet) :
    ((Pass.walk bucketSet [] front).classes.cursor buckets).seen.toNat =
      front.countP fun i => bucketSet i == buckets := by
  rw [List.length_append] at hlength
  have htracks := (walk_of_tracks (tracks_nil bucketSet)
    (by exact (List.pairwise_append.mp hsorted).1) (by rw [List.nil_append]; omega)).2
  exact htracks.seen_eq buckets

/-- A step counts one more, where a word has room for it. -/
theorem seen_advance {cursor : ClassCursor} (h : cursor.seen.toNat + 1 < 2 ^ 32)
    (i : Instruction) : (cursor.advance i).seen.toNat = cursor.seen.toNat + 1 := by
  rw [ClassCursor.advance, UInt32.toNat_add, UInt32.toNat_one, Nat.mod_eq_of_lt h]

end Assignment

theorem BucketSet.not_mem_text (set : BucketSet) : '\n' ∉ set.text.toList := by
  rcases set with ⟨bits⟩
  revert bits
  decide +kernel

namespace Assignment

/-- A trace gives one line to a step: there is no line feed in it. -/
theorem Step.not_mem_traceLine (step : Step) : '\n' ∉ step.traceLine.toList := by
  have hdigits : ∀ n, '\n' ∉ Nat.toDigits 10 n :=
    Text.not_mem_toDigits rfl (by decide) (by decide)
  have hblanks : ∀ n, '\n' ∉ List.replicate n ' ' := Text.not_mem_replicate (by decide)
  have hname := step.instruction.not_mem_mnemonic (c := '\n') rfl
  have hopcode := step.opcode.not_mem_decimalColumn (c := '\n') rfl (by decide) 4
  simp only [Step.traceLine, String.toList_append, Text.toList_padRight, Nat.toList_repr,
    List.mem_append, not_or]
  exact ⟨⟨⟨⟨⟨⟨⟨⟨hname, hblanks _⟩, by decide⟩, hdigits _, hblanks _⟩, by decide⟩, hopcode⟩,
    by decide⟩, step.buckets.not_mem_text⟩, by decide⟩

end Assignment

namespace InstructionSet

open Assignment

variable (set : InstructionSet)

/-- At every place of its list the cursors of a walk count what is behind, and the next
    step counts one more: a class is shorter than words are many. -/
theorem seen_at (hlength : set.instructions.length < 2 ^ 32) {front back : List Instruction}
    {i : Instruction} (hlisted : Instruction.sorted set.instructions = front ++ i :: back)
    {cursor : ClassCursor}
    (hcursor : (Pass.walk set.bucketSet [] front).classes.cursor (set.bucketSet i) = cursor) :
    cursor.seen.toNat = (front.countP fun j => set.bucketSet j == set.bucketSet i) ∧
      (cursor.advance i).seen.toNat = cursor.seen.toNat + 1 := by
  have hsorted := Instruction.pairwise_sorted set.instructions
  have hshort := (Instruction.sorted_perm set.instructions).length_eq
  rw [hlisted] at hsorted hshort
  have hseen := seen_walk_sorted set.bucketSet hsorted (by omega) (set.bucketSet i)
  rw [hcursor] at hseen
  have hle : (front.countP fun j => set.bucketSet j == set.bucketSet i) ≤ front.length :=
    List.countP_le_length
  rw [List.length_append, List.length_cons] at hshort
  exact ⟨hseen, seen_advance (by omega) i⟩

/-- The cursors at the end: one for each class of the list, with the size of the class. -/
theorem classes_ofInstructionSet (hlength : set.instructions.length < 2 ^ 32) :
    ((Pass.ofInstructionSet set).classes.map Prod.fst).Nodup ∧
      (∀ buckets, buckets ∈ (Pass.ofInstructionSet set).classes.map Prod.fst ↔
        ∃ i ∈ set.instructions, set.bucketSet i = buckets) ∧
      ∀ entry ∈ (Pass.ofInstructionSet set).classes,
        entry.2.seen.toNat = set.instructions.countP fun i => set.bucketSet i == entry.1 := by
  have hperm := Instruction.sorted_perm set.instructions
  have hnodup : ((Pass.ofInstructionSet set).classes.map Prod.fst).Nodup :=
    Pass.nodup_map_fst_walk _ (by exact List.nodup_nil) _
  refine ⟨hnodup, fun buckets => ?_, fun entry hentry => ?_⟩
  · rw [Pass.ofInstructionSet, Pass.mem_map_fst_walk]
    simp only [List.map_nil, List.not_mem_nil, false_or, hperm.mem_iff]
  · -- The whole list is behind the walk at its end.
    have hsorted : (Instruction.sorted set.instructions ++ []).Pairwise (· ≤ ·) := by
      rw [List.append_nil]
      exact Instruction.pairwise_sorted set.instructions
    have hshort : (Instruction.sorted set.instructions ++ []).length < 2 ^ 32 := by
      rwa [List.append_nil, hperm.length_eq]
    have hseen := seen_walk_sorted set.bucketSet hsorted hshort entry.1
    rw [← Pass.ofInstructionSet, cursor_of_mem hnodup hentry, hperm.countP_eq] at hseen
    exact hseen

/-- What a traced build prints of an instruction: its mnemonic, class index, opcode and
    buckets. -/
def traceLine (i : Instruction) : String :=
  Text.padRight 16 i.mnemonic ++ " #" ++ Text.padRight 3 (set.classIndex i).toNat.repr ++
    " " ++ (set.opcode i).decimalColumn 4 ++ "  [" ++ (set.bucketSet i).text ++ "]"

/-- A traced build prints the line of each listed instruction, by ordinal and whatever the
    verdict is. -/
theorem build_traced (hlength : set.instructions.length < 2 ^ 32) :
    OpcodeTable.build true set =
      ⟨(Instruction.sorted set.instructions).map set.traceLine,
        OpcodeTable.ofInstructionSet set⟩ := by
  have hprinted : (Pass.ofInstructionSet set).trace =
      (Instruction.sorted set.instructions).map set.traceLine := by
    rw [Pass.trace, steps_ofInstructionSet set hlength, List.map_map]
    rfl
  rw [← OpcodeTable.verdict_build true set, OpcodeTable.build, if_pos rfl, hprinted]

/-- The whole record of a walk, whether its opcodes are then accepted or not. It meets the
    listed instructions by ordinal and hands out their class indices and opcodes. Cut at
    any place it is a walk and its continuation, the cursors there count what is behind,
    and counting one more never overflows. At the end each class of the list has one
    cursor with the size of the class, and the sizes add up to the length of the list.
    Traced, the build of the table prints a line for each instruction, in the same order,
    with what it received: beside the table when the list is accepted, and beside the
    refusal, which is the verdict on the same opcodes, when it is not. -/
theorem walk_is_recorded (hlength : set.instructions.length < 2 ^ 32) :
    let listed := Instruction.sorted set.instructions
    let pass := Pass.ofInstructionSet set
    listed.Perm set.instructions ∧ listed.Pairwise (· ≤ ·) ∧
    pass.steps = listed.map (fun i => ⟨i, set.bucketSet i, set.classIndex i⟩) ∧
    pass.entries = listed.map (fun i => (i, set.opcode i)) ∧
    (∀ front i back, listed = front ++ i :: back →
      let behind := Pass.walk set.bucketSet [] front
      let ahead := Pass.walk set.bucketSet behind.classes (i :: back)
      let cursor := behind.classes.cursor (set.bucketSet i)
      pass = ⟨behind.steps ++ ahead.steps, ahead.classes⟩ ∧
      cursor.seen.toNat = (front.countP fun j => set.bucketSet j == set.bucketSet i) ∧
      (cursor.advance i).seen.toNat = cursor.seen.toNat + 1) ∧
    (pass.classes.map Prod.fst).Nodup ∧
    (∀ buckets, buckets ∈ pass.classes.map Prod.fst ↔
      ∃ i ∈ set.instructions, set.bucketSet i = buckets) ∧
    (∀ entry ∈ pass.classes,
      entry.2.seen.toNat = set.instructions.countP fun i => set.bucketSet i == entry.1) ∧
    (pass.classes.map fun entry => entry.2.seen.toNat).sum = set.instructions.length ∧
    (∀ table, OpcodeTable.ofInstructionSet set = .ok table →
      OpcodeTable.build true set = ⟨listed.map set.traceLine, .ok table⟩ ∧
      table.entries = pass.entries) ∧
    (∀ refusal, OpcodeTable.ofInstructionSet set = .error refusal →
      OpcodeTable.build true set = ⟨listed.map set.traceLine, .error refusal⟩ ∧
      checkDistinct (pass.entries.map Prod.swap) = .error refusal) ∧
    ∀ i, '\n' ∉ (set.traceLine i).toList := by
  intro listed pass
  have hbuild := set.build_traced hlength
  rcases set.classes_ofInstructionSet hlength with ⟨hnodup, hmem, hseen⟩
  refine ⟨Instruction.sorted_perm _, Instruction.pairwise_sorted _,
    steps_ofInstructionSet set hlength, entries_ofInstructionSet set hlength,
    fun front i back hlisted => ⟨?_, ?_⟩, hnodup, hmem, hseen, ?_, fun table htable => ?_,
    fun refusal hrefusal => ?_, fun i => Step.not_mem_traceLine ⟨i, set.bucketSet i, _⟩⟩
  · rw [← Pass.walk_append, ← hlisted]
    rfl
  · exact set.seen_at hlength hlisted rfl
  · -- The counts depend on the classes alone, and every class of the list has its cursor.
    rw [List.map_congr_left hseen, ← sum_countP_eq_length hnodup hmem, List.map_map]
    rfl
  · rw [hbuild, htable]
    rw [OpcodeTable.ofInstructionSet_eq_ofPass, OpcodeTable.ofPass_eq_ok_iff] at htable
    exact ⟨rfl, htable.2⟩
  · rw [hbuild, hrefusal]
    rw [OpcodeTable.ofInstructionSet_eq_ofPass, OpcodeTable.ofPass_eq_error_iff] at hrefusal
    exact ⟨rfl, hrefusal⟩

/-- A list with a repeat is refused, and its walk is on record all the same: traced, the build
    prints its lines beside the refusal. The second `push` has the line of the first and
    counts for `dup`. Without it the lines stand beside a table, and `dup` is one earlier. -/
theorem walk_is_recorded_repeat :
    let repeated : InstructionSet := ⟨[.dup, .push, .halt, .push], standardBuckets⟩
    let set : InstructionSet := ⟨[.dup, .push, .halt], standardBuckets⟩
    let refusal : UniquenessError := ⟨[⟨⟨1⟩, [.push, .push]⟩]⟩
    repeated.instructions.length < 2 ^ 32 ∧
      OpcodeTable.ofInstructionSet repeated = .error refusal ∧
      (Pass.ofInstructionSet repeated).entries =
        [(.halt, ⟨0⟩), (.push, ⟨1⟩), (.push, ⟨1⟩), (.dup, ⟨17⟩)] ∧
      ((Pass.ofInstructionSet repeated).classes.map fun entry => entry.2.seen.toNat).sum = 4 ∧
      OpcodeTable.build true repeated =
        ⟨["halt             #0      0  [-]", "push             #0      1  [has_arg]",
          "push             #0      1  [has_arg]", "dup              #2     17  [has_arg]"],
          .error refusal⟩ ∧
      set.instructions.length < 2 ^ 32 ∧
      OpcodeTable.build true set =
        ⟨["halt             #0      0  [-]", "push             #0      1  [has_arg]",
          "dup              #1      9  [has_arg]"],
          .ok ⟨[(.halt, ⟨0⟩), (.push, ⟨1⟩), (.dup, ⟨9⟩)]⟩⟩ := by
  intro repeated set refusal
  have hlength : repeated.instructions.length < 2 ^ 32 := by decide
  have hshort : set.instructions.length < 2 ^ 32 := by decide
  have hrepeated : Instruction.sorted repeated.instructions = [.halt, .push, .push, .dup] :=
    Instruction.sorted_eq_of_perm (by decide) (by decide)
  have hsorted : Instruction.sorted set.instructions = [.halt, .push, .dup] :=
    Instruction.sorted_eq_of_perm (by decide) (by decide)
  have hrefused : OpcodeTable.ofInstructionSet repeated = .error refusal := by
    rw [OpcodeTable.ofInstructionSet_eq_error_iff repeated (by decide)]
    exact repeated.verify_eq_error_of_perm (by decide) (by decide) (by decide)
  have haccepted : OpcodeTable.ofInstructionSet set =
      .ok ⟨[(.halt, ⟨0⟩), (.push, ⟨1⟩), (.dup, ⟨9⟩)]⟩ :=
    OpcodeTable.ofInstructionSet_eq_ok_of_entries set (by decide) (by decide) (by decide)
      (by decide) (by decide)
  rcases repeated.walk_is_recorded hlength with
    ⟨_, _, _, hentries, _, _, _, _, hsum, _, hbuild, _⟩
  rcases set.walk_is_recorded hshort with ⟨_, _, _, _, _, _, _, _, _, hset, _, _⟩
  refine ⟨hlength, hrefused, ?_, hsum, ?_, hshort, ?_⟩
  · rw [hentries, hrepeated]
    decide
  · have hlines : [.halt, .push, .push, .dup].map repeated.traceLine =
        ["halt             #0      0  [-]", "push             #0      1  [has_arg]",
          "push             #0      1  [has_arg]", "dup              #2     17  [has_arg]"] := by
      decide +kernel
    rw [(hbuild refusal hrefused).1, hrepeated, hlines]
  · have hlines : [.halt, .push, .dup].map set.traceLine =
        ["halt             #0      0  [-]", "push             #0      1  [has_arg]",
          "dup              #1      9  [has_arg]"] := by
      decide +kernel
    rw [(hset _ haccepted).1, hsorted, hlines]

end InstructionSet

end OpcodeBuckets
