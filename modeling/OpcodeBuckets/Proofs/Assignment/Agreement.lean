import OpcodeBuckets.OpcodeTable
import OpcodeBuckets.Proofs.Assignment.Uniqueness
import OpcodeBuckets.Proofs.Assignment.Walk

/-!
# One Pass and Ranks Agree

A table assigns in one pass what an instruction set works out for each
instruction by itself, and the two refuse the same lists with the same words.

For the opcodes this is `steps_ofInstructionSet`. The refusals need more. A
table looks at its entries by ordinal and an instruction set at its list as it
stands, and a collision keeps what it lists in the order it was looked at. The
two orders would show in the errors if a collision could list different
instructions. It cannot, since instructions of one opcode are one, and copies
of one instruction look alike in any order.

## Theorems

* `Assignment.entries_ofInstructionSet`: The pass hands out the opcodes of the set.
* `Assignment.checkDistinct_map_perm`: The order of a list is not in its outcome.
* `OpcodeTable.ofInstructionSet_eq`: A table is the verdict on the set, with the
  opcodes of the sorted list.
* `OpcodeTable.ofInstructionSet_eq_ok_of_entries`: A table known by its entries.
* `OpcodeTable.ofInstructionSet_agrees`: A table and its set agree completely.
-/

namespace OpcodeBuckets

namespace Assignment

/-- The pass hands out the opcodes of the instruction set, by ascending ordinal. -/
theorem entries_ofInstructionSet (set : InstructionSet)
    (hlength : set.instructions.length < 2 ^ 32) :
    (Pass.ofInstructionSet set).entries =
      (Instruction.sorted set.instructions).map fun i => (i, set.opcode i) := by
  rw [Pass.entries, steps_ofInstructionSet set hlength, List.map_map]
  rfl

/-- A selection of copies does not show the order of the list it was taken from. -/
theorem filter_eq_filter_of_perm {α : Type} {p : α → Bool} {l others : List α}
    (h : l.Perm others) (hcopies : ∀ a ∈ l, ∀ b ∈ l, p a → p b → a = b) :
    l.filter p = others.filter p := by
  have hall : ∀ part : List α, part.Perm l → (part.filter p).Pairwise (· = ·) := by
    intro part hpart
    refine List.pairwise_of_forall_mem_list fun a ha b hb => ?_
    rw [List.mem_filter, hpart.mem_iff] at ha hb
    exact hcopies a ha.1 b hb.1 ha.2 hb.2
  -- A list of equal things is sorted by equality, and so has one order only.
  exact (h.filter p).eq_of_pairwise (fun _ _ _ _ hab _ => hab) (hall l (.refl l))
    (hall others h.symm)

/-- Where instructions of one opcode are one, the order of a list is not in the
    outcome of checking it. -/
theorem checkDistinct_map_perm {f : Instruction → Opcode} {instructions others : List Instruction}
    (h : instructions.Perm others)
    (hinj : ∀ i ∈ instructions, ∀ j ∈ instructions, f i = f j → i = j) :
    checkDistinct (instructions.map fun i => (f i, i)) =
      checkDistinct (others.map fun i => (f i, i)) := by
  refine checkDistinct_congr fun opcode => ?_
  rw [sharers_map, sharers_map]
  refine filter_eq_filter_of_perm h fun i hi j hj hiopcode hjopcode => hinj i hi j hj ?_
  rw [of_decide_eq_true hiopcode, of_decide_eq_true hjopcode]

end Assignment

namespace OpcodeTable

open Assignment

/-- A table is the verdict on its instruction set, with the opcodes of the sorted
    list when the verdict is good. -/
theorem ofInstructionSet_eq (set : InstructionSet) (hlength : set.instructions.length < 2 ^ 29) :
    ofInstructionSet set = set.verify.map fun _ =>
      ⟨(Instruction.sorted set.instructions).map fun i => (i, set.opcode i)⟩ := by
  -- The table checks its entries by ordinal, the set its list as it stands.
  have hcheck : checkDistinct ((Pass.ofInstructionSet set).entries.map Prod.swap) =
      set.verify := by
    rw [entries_ofInstructionSet set (by omega), List.map_map, set.verify_eq]
    exact (checkDistinct_map_perm (Instruction.sorted_perm set.instructions).symm
      fun i hi j hj => (set.opcode_inj hlength hi hj).mp).symm
  rw [ofInstructionSet_eq_ofPass, ofPass, hcheck, entries_ofInstructionSet set (by omega)]

theorem ofInstructionSet_eq_error_iff (set : InstructionSet)
    (hlength : set.instructions.length < 2 ^ 29) (error : UniquenessError) :
    ofInstructionSet set = .error error ↔ set.verify = .error error := by
  rw [ofInstructionSet_eq set hlength]
  cases set.verify with
  | error other => simp only [Except.map, Except.error.injEq]
  | ok _ => simp only [Except.map, reduceCtorEq]

theorem ofInstructionSet_eq_ok_iff (set : InstructionSet)
    (hlength : set.instructions.length < 2 ^ 29) (table : OpcodeTable) :
    ofInstructionSet set = .ok table ↔
      set.instructions.Nodup ∧
        table.entries =
          (Instruction.sorted set.instructions).map fun i => (i, set.opcode i) := by
  rw [ofInstructionSet_eq set hlength, ← set.verify_eq_ok_iff hlength]
  rcases table with ⟨entries⟩
  cases set.verify with
  | error other => simp only [Except.map, reduceCtorEq, false_and]
  | ok _ => simp only [Except.map, Except.ok.injEq, OpcodeTable.mk.injEq, true_and, eq_comm]

/-- The table of a list without repeats is the one that has it by ordinal, each instruction
    with its opcode. -/
theorem ofInstructionSet_eq_ok_of_entries (set : InstructionSet)
    (hlength : set.instructions.length < 2 ^ 29) (hnodup : set.instructions.Nodup)
    {table : OpcodeTable} (hperm : set.instructions.Perm (table.entries.map Prod.fst))
    (hsorted : (table.entries.map Prod.fst).Pairwise (· ≤ ·))
    (hopcode : ∀ entry ∈ table.entries, entry.2 = set.opcode entry.1) :
    ofInstructionSet set = .ok table := by
  rw [ofInstructionSet_eq_ok_iff set hlength, Instruction.sorted_eq_of_perm hperm hsorted,
    List.map_map]
  have hentries : table.entries.map id =
      table.entries.map fun entry => (entry.1, set.opcode entry.1) :=
    List.map_congr_left fun entry hentry => Prod.ext rfl (hopcode entry hentry)
  rw [List.map_id] at hentries
  exact ⟨hnodup, hentries⟩

/-- Looking up what a function was tabulated on finds the value of the function, and
    nothing else is found. -/
theorem lookup_map (f : Instruction → Opcode) (instructions : List Instruction)
    (i : Instruction) :
    (instructions.map fun i => (i, f i)).lookup i =
      if i ∈ instructions then some (f i) else none := by
  by_cases hi : i ∈ instructions
  · rw [if_pos hi, List.lookup_graph f hi]
  · rw [if_neg hi, List.lookup_eq_none_iff]
    intro pair hpair
    rcases List.mem_map.mp hpair with ⟨j, hj, rfl⟩
    rw [bne_iff_ne]
    rintro rfl
    exact hi hj

/-- A table and its instruction set agree completely. They refuse together, with the
    same error. When they accept, the table holds every listed instruction once,
    strictly by ordinal and with the opcode the set gives it, finds these opcodes
    and no others, and has the highest opcode and the bit width of the set. -/
theorem ofInstructionSet_agrees (set : InstructionSet)
    (hlength : set.instructions.length < 2 ^ 29) :
    (∀ error, ofInstructionSet set = .error error ↔ set.verify = .error error) ∧
      ∀ table, ofInstructionSet set = .ok table →
        (table.entries.map Prod.fst).Perm set.instructions ∧
        (table.entries.map Prod.fst).Pairwise (· < ·) ∧
        (∀ entry ∈ table.entries, entry.2 = set.opcode entry.1) ∧
        (∀ i, table.opcode? i =
          if i ∈ set.instructions then some (set.opcode i) else none) ∧
        table.size = set.instructions.length ∧
        table.maxOpcode = set.maxOpcode ∧
        table.bitWidth = set.bitWidth := by
  refine ⟨ofInstructionSet_eq_error_iff set hlength, fun table htable => ?_⟩
  rcases (ofInstructionSet_eq_ok_iff set hlength table).mp htable with ⟨hnodup, hentries⟩
  have hperm := Instruction.sorted_perm set.instructions
  have hinstructions : table.entries.map Prod.fst = Instruction.sorted set.instructions := by
    rw [hentries, List.map_map]
    exact List.map_id _
  -- The table looks at the same opcodes as the set, in another order.
  have hmax : table.maxOpcode = set.maxOpcode := by
    rw [maxOpcode, InstructionSet.maxOpcode, hentries, List.map_map,
      Opcode.highest?_perm (hperm.map set.opcode).symm]
    rfl
  refine ⟨hinstructions ▸ hperm, ?_, fun entry hentry => ?_, fun i => ?_, ?_, hmax, ?_⟩
  · -- Sorted and without repeats is strictly sorted.
    rw [hinstructions]
    refine ((Instruction.pairwise_sorted set.instructions).and
      (hperm.nodup_iff.mpr hnodup)).imp fun h => ?_
    exact Nat.lt_of_le_of_ne h.1 fun heq => h.2 (Instruction.ordinal_inj.mp heq)
  · rw [hentries] at hentry
    rcases List.mem_map.mp hentry with ⟨i, _, rfl⟩
    rfl
  · rw [opcode?, hentries, lookup_map]
    simp only [hperm.mem_iff]
  · rw [size, hentries, List.length_map, hperm.length_eq]
  · rw [bitWidth, InstructionSet.bitWidth, hmax]

/-- Of four instructions in falling order the two of the second class come to indices
    of their own, and a fifth that is listed already is refused with its copy. -/
theorem ofInstructionSet_agrees_four :
    let set : InstructionSet := ⟨[.xbMul, .push, .halt, .pop], InstructionSet.standardBuckets⟩
    set.instructions.length < 2 ^ 29 ∧
      (∃ table, ofInstructionSet set = .ok table ∧ table.opcode? .xbMul = some ⟨10⟩ ∧
        table.opcode? .dup = none ∧ table.size = 4 ∧ table.maxOpcode = ⟨10⟩) ∧
      ∃ error, ofInstructionSet { set with instructions := .pop :: set.instructions } =
        .error error := by
  intro set
  have hlength : set.instructions.length < 2 ^ 29 := by decide
  have hagrees := ofInstructionSet_agrees set hlength
  have hrepeat := ofInstructionSet_agrees { set with instructions := .pop :: set.instructions }
    (by decide)
  have hok : ∃ table, ofInstructionSet set = .ok table :=
    ⟨_, (ofInstructionSet_eq_ok_iff set hlength ⟨_⟩).mpr ⟨by decide, rfl⟩⟩
  have hrefused : ∃ error,
      InstructionSet.verify { set with instructions := .pop :: set.instructions } = .error error :=
    ⟨_, InstructionSet.verify_eq_error_of_perm _ (List.Perm.refl _) (by decide) (by decide)⟩
  rcases hok with ⟨table, htable⟩
  rcases hrefused with ⟨error, herror⟩
  rcases hagrees.2 table htable with ⟨_, _, _, hopcode, hsize, hmax, _⟩
  refine ⟨hlength, ⟨table, htable, ?_, ?_, hsize, ?_⟩, error, (hrepeat.1 _).mpr herror⟩
  · rw [hopcode]
    decide
  · rw [hopcode]
    decide
  · rw [hmax]
    decide

end OpcodeTable

end OpcodeBuckets
