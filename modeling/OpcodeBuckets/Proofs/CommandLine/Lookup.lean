import OpcodeBuckets.CommandLine.Run
import OpcodeBuckets.Proofs.Assignment.Acceptance
import OpcodeBuckets.Proofs.Assignment.Buckets
import OpcodeBuckets.Proofs.Assignment.Record
import OpcodeBuckets.Proofs.Diagnostic.Paragraphs
import OpcodeBuckets.Proofs.Report.Lines
import OpcodeBuckets.Proofs.Source.Pointing

/-!
# Looking Up Is All or Nothing

What a lookup prints and reports, for any words at all.

The words are one source, and reading it decides: either it is a list of
instructions or it is a list of errors. In the first case every instruction has a
line. The program would leave out an instruction that the table does not have, but the
standard table has them all. A line shows an opcode three times, in base ten, in base
two and by the names of its buckets. The names are not taken from the table, and that
they go with the opcode all the same is the point of an opcode that carries its
buckets in its lowest bits.

In the second case nothing is printed, whatever instructions stand among the errors.
The reports are one paragraph for each error, and a last line that counts them.

## Main definitions

* `OpcodeTable.ofAll`: The table of all instructions.
* `Opcode.bucketNames`: The names of the buckets that an opcode has the bits of.
* `CommandLine.ShowsLookup`: A line that shows an instruction with its opcode.

## Theorems

* `OpcodeTable.standard_eq`: The standard table, which has all instructions.
* `Opcode.text_bucketSet`: The lowest three bits of an opcode, by name.
* `CommandLine.lookup_eq`: Looking up leaves no instruction out.
* `CommandLine.showsLookup_lineText`: What is printed for an instruction.
* `CommandLine.lookup_all_or_nothing`: What a lookup comes to.
-/

namespace OpcodeBuckets

namespace OpcodeTable

/-- The table of all instructions, each with its opcode in the standard set. -/
def ofAll : OpcodeTable :=
  ⟨Instruction.all.map fun i => (i, InstructionSet.standard.opcode i)⟩

/-- The standard set is accepted, and its table has all instructions. -/
theorem standard_eq : standard = .ok ofAll := by
  have hlength : InstructionSet.standard.instructions.length < 2 ^ 29 := by decide
  have hnodup : InstructionSet.standard.instructions.Nodup := by decide
  have hsorted : Instruction.sorted InstructionSet.standard.instructions = Instruction.all :=
    Instruction.sorted_eq_of_perm (List.Perm.refl _) (by decide)
  have hverify := (InstructionSet.standard.verify_eq_ok_iff hlength).mpr hnodup
  have htable : ofInstructionSet .standard = .ok ofAll := by
    rw [ofInstructionSet_eq_ok_iff _ hlength, hsorted]
    exact ⟨hnodup, rfl⟩
  -- Both ways of assigning opcodes are checked, one behind the other.
  rw [standard, hverify]
  exact htable

theorem opcode?_ofAll (i : Instruction) :
    ofAll.opcode? i = some (InstructionSet.standard.opcode i) := by
  rw [opcode?, ofAll, lookup_map, if_pos (Instruction.mem_all i)]

theorem bitWidth_ofAll : ofAll.bitWidth = 7 := by
  decide +kernel

end OpcodeTable

namespace Opcode

/-- The names of the buckets that an opcode has the bits of, with bars between them, or
    a dash if it has none of the bits. -/
def bucketNames (opcode : Opcode) : String :=
  match Bucket.all.filter fun bucket => opcode.instructionBit bucket.index with
  | [] => "-"
  | buckets => " | ".intercalate (buckets.map Bucket.name)

/-- The lowest three bits of an opcode, by name. -/
theorem text_bucketSet (opcode : Opcode) : opcode.bucketSet.text = opcode.bucketNames := by
  have hbuckets : (Bucket.all.filter fun bucket => opcode.instructionBit bucket.index) =
      opcode.bucketSet.buckets :=
    List.filter_congr fun bucket _ => opcode.instructionBit_index bucket
  rw [BucketSet.text, bucketNames, hbuckets]
  by_cases hempty : opcode.bucketSet = ∅
  · rw [if_pos hempty, hempty]
    rfl
  · rw [if_neg hempty]
    cases hlist : opcode.bucketSet.buckets with
    | cons bucket rest => rfl
    | nil =>
        -- A set without members is empty.
        refine absurd (BucketSet.ext_contains fun bucket => ?_) hempty
        rw [BucketSet.contains_empty, ← Bool.not_eq_true, ← BucketSet.mem_buckets, hlist]
        exact List.not_mem_nil

end Opcode

namespace CommandLine

open InstructionSet (standard)

/-- A line that shows an instruction with its opcode in the standard set, three times, and
    nothing beside it. The mnemonic has sixteen columns. Behind a blank the opcode stands in
    base ten, on the right of three columns, and behind another in base two with seven
    digits. Two blanks further on the line ends with the names of the buckets in its lowest
    three bits. -/
def ShowsLookup (i : Instruction) (line : List Char) : Prop :=
  ∃ decimal binary,
    line = i.mnemonic.toList ++ List.replicate (16 - i.mnemonic.length) ' ' ++
      ' ' :: (List.replicate (3 - decimal.length) ' ' ++ decimal) ++
      ' ' :: binary ++
      ' ' :: ' ' :: (standard.opcode i).bucketNames.toList ∧
    decimal = (standard.opcode i).value.toNat.repr.toList ∧ decimal.length ≤ 3 ∧
    Text.Numeral 10 decimal (standard.opcode i).value.toNat ∧
    binary.length = 7 ∧ Text.Numeral 2 binary (standard.opcode i).value.toNat

section Line

variable (i : Instruction)

/-- A mnemonic in the field it has in a lookup. -/
def nameText : List Char :=
  i.mnemonic.toList ++ List.replicate (16 - i.mnemonic.length) ' '

/-- The line of an instruction, less the line feed that ends it. -/
def lineText : List Char :=
  nameText i ++ ' ' :: ((standard.opcode i).decimalColumn 3).toList ++
    ' ' :: ((standard.opcode i).binaryColumn 7).toList ++
    ' ' :: ' ' :: (standard.bucketSet i).text.toList

theorem toList_lookupLine :
    (lookupLine .ofAll (i, standard.opcode i)).toList = lineText i ++ ['\n'] := by
  have hfeed : "\n".toList = ['\n'] := rfl
  have hblank : " ".toList = [' '] := rfl
  have hblanks : "  ".toList = [' ', ' '] := rfl
  rw [lookupLine, lineText, nameText, OpcodeTable.bitWidth_ofAll]
  simp only [String.toList_append, Text.toList_padRight, hfeed, hblank, hblanks, List.append_assoc,
    List.cons_append, List.nil_append]

theorem not_mem_lineText : '\n' ∉ lineText i := by
  have hdecimal := (standard.opcode i).not_mem_decimalColumn (c := '\n') rfl (by decide) 3
  have hbinary := ((standard.opcode i).numeral_binaryColumn 7).not_mem (c := '\n') (by decide) rfl
  have hname : '\n' ∉ nameText i :=
    List.not_mem_append (i.not_mem_mnemonic rfl) (Text.not_mem_replicate (by decide) _)
  simp only [lineText, List.mem_append, List.mem_cons, not_or]
  exact ⟨⟨⟨hname, by decide, hdecimal⟩, by decide, hbinary⟩, by decide, by decide,
    (standard.bucketSet i).not_mem_text⟩

/-- What has room for the highest opcode of the table has room for the others. -/
theorem toNat_opcode_lt : (standard.opcode i).value.toNat < 2 ^ 7 := by
  have hmem : (i, standard.opcode i) ∈ OpcodeTable.ofAll.entries :=
    List.mem_map_of_mem (Instruction.mem_all i)
  have hle := Opcode.le_iff.mp (OpcodeTable.le_maxOpcode hmem)
  have hfits := OpcodeTable.ofAll.isLeast_bitWidth.1.2
  rw [OpcodeTable.bitWidth_ofAll] at hfits
  exact Nat.lt_of_le_of_lt hle hfits

theorem showsLookup_lineText : ShowsLookup i (lineText i) := by
  have hroom := toNat_opcode_lt i
  have hshort : (Nat.toDigits 10 (standard.opcode i).value.toNat).length ≤ 3 :=
    (Nat.length_toDigits_le_iff (by decide) (by decide)).mpr (by omega)
  refine ⟨_, _, ?_, rfl, ?_, Text.numeral_repr _, Opcode.length_binaryColumn (by decide) hroom,
    Opcode.numeral_binaryColumn _ 7⟩
  · rw [lineText, nameText, Opcode.toList_decimalColumn, Nat.toList_repr, ← Opcode.text_bucketSet,
      InstructionSet.bucketSet_opcode]
  · rwa [Nat.toList_repr]

example : String.ofList (lineText .log2Floor) = "log_2_floor       36 0100100  u32" := by
  decide +kernel

end Line

section Outcome

variable {source : String}

/-- Looking up leaves no instruction out, since the standard table has them all. -/
theorem lookup_eq {instructions : List Instruction}
    (h : Source.readMnemonics source = .ok instructions) :
    lookup .ofAll source = .ok (instructions.map fun i => (i, standard.opcode i)) := by
  rw [lookup, h]
  simp only [Except.map, OpcodeTable.opcode?_ofAll, Option.map_some, List.filterMap_eq_map']

theorem lookup_eq_error {errors : List Source.SourceError}
    (h : Source.readMnemonics source = .error errors) : lookup .ofAll source = .error errors := by
  rw [lookup, h]
  rfl

theorem toList_join_lookupLine (instructions : List Instruction) :
    (String.join ((instructions.map fun i => (i, standard.opcode i)).map
      (lookupLine .ofAll))).toList = (instructions.map lineText).flatMap (· ++ ['\n']) := by
  rw [String.toList_join, List.flatMap_map, List.flatMap_map, List.flatMap_map]
  exact List.flatMap_congr fun i _ => toList_lookupLine i

/-- What an error says takes one line each, as what it quotes has no line feed in it. -/
theorem unbroken_diagnostic {error : Source.SourceError} (h : error.Reports source) :
    error.diagnostic.Unbroken where
  message := by
    rcases h.quotes with ⟨front, behind, _, _, _, hfits⟩
    rcases error.fault.exists_lead with ⟨lead, hmessage, _, hlead⟩
    rw [Source.SourceError.diagnostic, hmessage]
    exact List.not_mem_append (List.not_mem_append hlead (List.not_mem_cons_of_ne_of_not_mem
      (by decide) (Source.Fault.not_mem_text hfits))) (by decide)
  labels label hlabel := by
    have hpointer : '\n' ∉ error.fault.pointer.toList := by
      cases error.fault <;> (rw [Source.Fault.pointer]; decide)
    rw [List.mem_singleton.mp hlabel]
    exact hpointer
  notes := by
    have hnotes : ∀ note ∈ error.fault.notes, '\n' ∉ note.toList := by
      cases error.fault <;> (rw [Source.Fault.notes]; decide)
    exact hnotes

/-- What is said of errors when they have been reported one by one. -/
def countText (errors : List Source.SourceError) : List Char :=
  ("Error: \"" ++ errors.length.repr ++ " unknown instruction(s)\"").toList

theorem toList_failureLine (errors : List Source.SourceError) :
    (failureLine errors).toList = countText errors ++ ['\n'] := by
  have hclosing : " unknown instruction(s)\"\n".toList =
      " unknown instruction(s)\"".toList ++ ['\n'] := by
    decide
  simp only [failureLine, countText, String.toList_append, hclosing, List.append_assoc]

theorem not_mem_countText (errors : List Source.SourceError) : '\n' ∉ countText errors := by
  have hdigits := Text.not_mem_repr (c := '\n') rfl errors.length
  rw [countText, String.toList_append, String.toList_append]
  exact List.not_mem_append (List.not_mem_append (by decide) hdigits) (by decide)

theorem isParagraph_diagnostic {error : Source.SourceError} (h : error.Reports source) :
    error.diagnostic.IsParagraph argumentsName source
      (error.diagnostic.lines argumentsName source ++ [[]]) :=
  Diagnostic.isParagraph_lines (by decide) source (unbroken_diagnostic h)

/-- The paragraphs of errors, in their order. -/
def reportBlocks (source : String) (errors : List Source.SourceError) :
    List (List (List Char)) :=
  errors.map fun error => error.diagnostic.lines argumentsName source ++ [[]]

theorem toList_renderErrors (errors : List Source.SourceError) :
    (renderErrors argumentsName source errors).toList =
      (reportBlocks source errors).flatten.flatMap (· ++ ['\n']) := by
  rw [renderErrors, Diagnostic.renderAll, String.toList_join, List.flatMap_map, List.flatMap_map,
    reportBlocks, ← List.flatMap_def, List.flatMap_assoc]
  exact List.flatMap_congr fun error _ => error.diagnostic.toList_render argumentsName source

theorem isParagraph_of_readMnemonics {errors : List Source.SourceError}
    (h : Source.readMnemonics source = .error errors) :
    List.Forall₂ (fun error block => error.diagnostic.IsParagraph argumentsName source block)
      errors (reportBlocks source errors) := by
  rw [reportBlocks, List.forall₂_map_right_iff, List.forall₂_same]
  intro error hmem
  exact isParagraph_diagnostic (Source.reports_of_mem_errors h hmem)

/-- A run has the exit code, the output and the reports of its command on the standard table. -/
theorem performChecked_eq (command : Command) :
    ∃ events, performChecked command = { perform .ofAll command with events } := by
  rw [performChecked, OpcodeTable.standard_eq]
  exact ⟨_, rfl⟩

section Words

variable {words : List String}

theorem performLookup_eq_of_ok {instructions : List Instruction}
    (h : Source.readMnemonics (" ".intercalate words) = .ok instructions) :
    performLookup .ofAll words = { output := String.join ((instructions.map fun i =>
      (i, standard.opcode i)).map (lookupLine .ofAll)) } := by
  rw [performLookup, lookup_eq h]

theorem performLookup_eq_of_error {errors : List Source.SourceError}
    (h : Source.readMnemonics (" ".intercalate words) = .error errors) :
    performLookup .ofAll words =
      { exitCode := 1
        reports := renderErrors argumentsName (" ".intercalate words) errors ++
          failureLine errors } := by
  rw [performLookup, lookup_eq_error h]

end Words

/-- The output of a lookup is read again line by line. -/
theorem splitOn_output (instructions : List Instruction) :
    (String.join ((instructions.map fun i => (i, standard.opcode i)).map
      (lookupLine .ofAll))).toList.splitOn '\n' = instructions.map lineText ++ [[]] := by
  rw [toList_join_lookupLine, Report.splitOn_lines]
  intro line hline
  rcases List.mem_map.mp hline with ⟨i, _, rfl⟩
  exact not_mem_lineText i

/-- The reports of a lookup are read again line by line. -/
theorem splitOn_reports {errors : List Source.SourceError}
    (h : Source.readMnemonics source = .error errors) :
    (renderErrors argumentsName source errors ++ failureLine errors).toList.splitOn '\n' =
      (reportBlocks source errors).flatten ++ [countText errors, []] := by
  have hlines : (renderErrors argumentsName source errors ++ failureLine errors).toList =
      ((reportBlocks source errors).flatten ++ [countText errors]).flatMap (· ++ ['\n']) := by
    rw [String.toList_append, toList_renderErrors, toList_failureLine, List.flatMap_append,
      List.flatMap_singleton]
  rw [hlines, Report.splitOn_lines, List.append_assoc, List.singleton_append]
  intro line hline
  rcases List.mem_append.mp hline with hline | hline
  · rcases List.mem_flatten.mp hline with ⟨block, hblock, hline⟩
    rcases List.mem_map.mp hblock with ⟨error, hmem, rfl⟩
    exact (isParagraph_diagnostic (Source.reports_of_mem_errors h hmem)).unbroken line hline
  · rw [List.mem_singleton.mp hline]
    exact not_mem_countText errors

/-- What a lookup comes to, for any words. The standard table is accepted, and no instruction
    that is read is left out. Without errors every instruction has a line of the output, in
    the order of the source and with repeats, which shows its opcode three times; nothing is
    reported. With errors nothing is printed. Each error has a paragraph in the
    reports, in the order of the source, and the last line counts them. -/
theorem lookup_all_or_nothing (words : List String) :
    let source := " ".intercalate words
    let outcome := performChecked (.lookup words)
    (∀ instructions, Source.readMnemonics source = .ok instructions →
      (∃ table, OpcodeTable.standard = .ok table ∧
        lookup table source = .ok (instructions.map fun i => (i, standard.opcode i))) ∧
      outcome.exitCode = 0 ∧ outcome.reports = "" ∧
      ∃ lines, outcome.output.toList.splitOn '\n' = lines ++ [[]] ∧
        List.Forall₂ ShowsLookup instructions lines) ∧
    ∀ errors, Source.readMnemonics source = .error errors →
      outcome.exitCode = 1 ∧ outcome.output = "" ∧ errors ≠ [] ∧
      ∃ blocks : List (List (List Char)), outcome.reports.toList.splitOn '\n' =
          blocks.flatten ++
            [("Error: \"" ++ errors.length.repr ++ " unknown instruction(s)\"").toList, []] ∧
        List.Forall₂ (fun error block =>
          error.diagnostic.IsParagraph argumentsName source block) errors blocks := by
  intro source outcome
  -- What is logged has no part in what is printed and reported.
  rcases performChecked_eq (.lookup words) with ⟨events, houtcome⟩
  constructor
  · intro instructions hread
    have hperform : outcome = { performLookup .ofAll words with events } := houtcome
    rw [performLookup_eq_of_ok hread] at hperform
    refine ⟨⟨_, OpcodeTable.standard_eq, lookup_eq hread⟩, ?_⟩
    rw [hperform]
    refine ⟨rfl, rfl, _, splitOn_output instructions, ?_⟩
    rw [List.forall₂_map_right_iff, List.forall₂_same]
    exact fun i _ => showsLookup_lineText i
  · intro errors hread
    have hperform : outcome = { performLookup .ofAll words with events } := houtcome
    rw [performLookup_eq_of_error hread] at hperform
    rw [hperform]
    exact ⟨rfl, rfl, (Source.readMnemonics_eq_error_iff.mp hread).2, _, splitOn_reports hread,
      isParagraph_of_readMnemonics hread⟩

/-- A repeat has a line for each time it is asked for. A mnemonic among errors has none, and
    two errors in one word are counted as two. -/
theorem lookup_all_or_nothing_repeat :
    let words := ["swap", "dup,swap"]
    let faulty := ["swap", "Dupé"]
    let errors : List Source.SourceError := [⟨.ofSize 5 3, .unknownMnemonic "Dup"⟩,
      ⟨.ofSize 8 2, .unexpectedCharacter "é"⟩]
    Source.readMnemonics (" ".intercalate words) = .ok [.swap, .dup, .swap] ∧
      (∃ lines, (performChecked (.lookup words)).output.toList.splitOn '\n' = lines ++ [[]] ∧
        List.Forall₂ ShowsLookup [.swap, .dup, .swap] lines) ∧
      Source.readMnemonics (" ".intercalate faulty) = .error errors ∧
      (performChecked (.lookup faulty)).exitCode = 1 ∧
      (performChecked (.lookup faulty)).output = "" ∧
      ∃ blocks : List (List (List Char)),
        (performChecked (.lookup faulty)).reports.toList.splitOn '\n' =
          blocks.flatten ++ ["Error: \"2 unknown instruction(s)\"".toList, []] ∧
        blocks.length = 2 := by
  intro words faulty errors
  have hread : Source.readMnemonics (" ".intercalate words) = .ok [.swap, .dup, .swap] := by
    decide +kernel
  have herrors : Source.readMnemonics (" ".intercalate faulty) = .error errors := by
    decide +kernel
  rcases (lookup_all_or_nothing words).1 _ hread with ⟨_, _, _, hlines⟩
  rcases (lookup_all_or_nothing faulty).2 _ herrors with ⟨hcode, houtput, _, blocks, hreports, hall⟩
  have hcount : "Error: \"" ++ errors.length.repr ++ " unknown instruction(s)\"" =
      "Error: \"2 unknown instruction(s)\"" := by
    decide
  rw [hcount] at hreports
  exact ⟨hread, hlines, herrors, hcode, houtput, blocks, hreports, hall.length_eq.symm⟩

end Outcome

end CommandLine

end OpcodeBuckets
