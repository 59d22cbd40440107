import OpcodeBuckets.Report
import OpcodeBuckets.Proofs.Opcodes
import OpcodeBuckets.Proofs.Text.Fields
import Mathlib.Data.List.Forall2
import Mathlib.Order.Bounds.Defs

/-!
# The Lines of a Report

What a report is, line by line, without a word on how it is put together.

A line is described the way it is read: something stands in a column, and behind
it is a blank or the end. An entry has its opcode in base ten in the first three
columns, in base two from the fifth column on, and its mnemonic and its single
bits in columns that depend on the report and not on the entry. That is what it
means for the columns of a report to line up.

Rendering gives such a report as long as three digits are enough for every
opcode. Past that the field would be wider and push what is behind it to the right.
The other width is no condition, since it comes from the table itself.

## Main definitions

* `Report.FieldAt`: Content in a column of a line.
* `Report.ShowsEntry`: A line that shows an entry.
* `Report.IsReport`: A text that is the report of a table.
* `Report.entryText`: The line of an entry, character by character.

## Theorems

* `OpcodeTable.maxOpcode_spec`: The highest opcode of a table.
* `OpcodeTable.isLeast_bitWidth`: The width of a table is the least that will do.
* `Report.splitOn_lines`: Lines are found again behind the line feeds that end them.
* `Report.showsEntry_entryText`: The line of an entry shows it.
* `Report.isReport_render`: Rendering gives a report.
-/

namespace OpcodeBuckets

namespace OpcodeTable

/-- The highest opcode of a table that has any is listed, and no other exceeds it. -/
theorem maxOpcode_spec (table : OpcodeTable) :
    table.entries = [] ∧ table.maxOpcode = ⟨0⟩ ∨
      table.maxOpcode ∈ table.entries.map Prod.snd ∧
        ∀ opcode ∈ table.entries.map Prod.snd, opcode ≤ table.maxOpcode := by
  rcases hhighest : Opcode.highest? (table.entries.map Prod.snd) with _ | opcode
  · left
    refine ⟨?_, by rw [maxOpcode, hhighest]; rfl⟩
    rwa [Opcode.highest?, List.max?_eq_none_iff, List.map_eq_nil_iff] at hhighest
  · right
    rw [maxOpcode, hhighest, Option.getD_some]
    exact List.max?_eq_some_iff.mp hhighest

theorem le_maxOpcode {table : OpcodeTable} {entry : Instruction × Opcode}
    (h : entry ∈ table.entries) : entry.2 ≤ table.maxOpcode := by
  rcases table.maxOpcode_spec with ⟨hnil, _⟩ | ⟨_, hle⟩
  · rw [hnil] at h
    exact nomatch h
  · exact hle entry.2 (List.mem_map_of_mem h)

/-- A table is as wide as it takes, and one bit wide at least. -/
theorem isLeast_bitWidth (table : OpcodeTable) :
    IsLeast {width | 1 ≤ width ∧ table.maxOpcode.value.toNat < 2 ^ width} table.bitWidth :=
  table.maxOpcode.isLeast_bitLength

end OpcodeTable

namespace Report

/-- Content stands in a line from a column on, up to a blank or the end of the line. -/
def FieldAt (column : Nat) (content line : List Char) : Prop :=
  ∃ front rest, line = front ++ content ++ rest ∧ front.length = column ∧
    ∀ c ∈ rest.head?, c = ' '

/-- The column that every mnemonic of a report begins in. -/
def mnemonicColumn (options : ReportOptions) (width : Nat) : Nat :=
  if options.binary then width + 5 else 4

/-- Single bits, each behind a blank and its own name, from `ib0` up. -/
def bitText (bits : List Bool) : List Char :=
  bits.zipIdx.flatMap fun (bit, index) =>
    " ib".toList ++ Nat.toDigits 10 index ++ ['=', Text.bitChar bit]

/-- A line that shows an entry, in a report whose opcodes take `width` bits. -/
structure ShowsEntry (options : ReportOptions) (width : Nat) (entry : Instruction × Opcode)
    (line : List Char) : Prop where
  /-- The opcode in base ten has three columns and fills the last ones. -/
  decimal : ∃ digits, FieldAt 0 (List.replicate (3 - digits.length) ' ' ++ digits) line ∧
    digits.length ≤ 3 ∧ Text.Numeral 10 digits entry.2.value.toNat
  /-- The opcode in base two has a digit for every bit. -/
  binary : options.binary = true → ∃ digits, FieldAt 4 digits line ∧
    digits.length = width ∧ Text.Numeral 2 digits entry.2.value.toNat
  /-- The mnemonic begins in the same column throughout. -/
  mnemonic : FieldAt (mnemonicColumn options width) entry.1.mnemonic.toList line
  /-- Without the single bits the line ends there. -/
  plain : options.instructionBits = false →
    line.length = mnemonicColumn options width + entry.1.mnemonic.length
  /-- The single bits begin in the same column throughout, with nothing but blanks between
      them and the mnemonic, and end the line. There is one for every bit, and read
      backwards they are the opcode in base two. -/
  bits : options.instructionBits = true → ∃ front count bits,
    line = front ++ List.replicate count ' ' ++ bitText bits ∧
      front.length = mnemonicColumn options width + entry.1.mnemonic.length ∧
      front.length + count = mnemonicColumn options width + 16 ∧
      bits.length = width ∧
      Text.Numeral 2 (bits.reverse.map Text.bitChar) entry.2.value.toNat

/-- The lines that close a report, from the digits of its two numbers. -/
def closingLines (options : ReportOptions) (isEmpty : Bool) (highest width : List Char) :
    List (List Char) :=
  if options.summary then
    (if isEmpty then [] else [[]]) ++
      ["highest opcode: ".toList ++ highest, "#ibs:           ".toList ++ width]
  else []

/-- A text that is the report of a table. Every line of it ends, so that nothing is behind
    the last line feed; the first lines show the entries in their order, and the others
    close the report. -/
def IsReport (options : ReportOptions) (table : OpcodeTable) (text : String) : Prop :=
  ∃ lines highest width,
    text.toList.splitOn '\n' = lines ++ closingLines options table.isEmpty highest width ++ [[]] ∧
      List.Forall₂ (ShowsEntry options table.bitWidth) table.entries lines ∧
      Text.Numeral 10 highest table.maxOpcode.value.toNat ∧
      Text.Numeral 10 width table.bitWidth

section Characters

/-- What stands between the opcode in base ten and the blank before the mnemonic. -/
def binaryField (options : ReportOptions) (width : Nat) (opcode : Opcode) : List Char :=
  if options.binary then ' ' :: (opcode.binaryColumn width).toList else []

/-- What stands behind the mnemonic. -/
def bitsField (options : ReportOptions) (width : Nat) (entry : Instruction × Opcode) :
    List Char :=
  if options.instructionBits then
    List.replicate (16 - entry.1.mnemonic.length) ' ' ++ bitText (entry.2.instructionBits width)
  else []

/-- An entry's line, less the line feed that ends it. -/
def entryText (options : ReportOptions) (width : Nat) (entry : Instruction × Opcode) :
    List Char :=
  (entry.2.decimalColumn 3).toList ++ binaryField options width entry.2 ++
    ' ' :: entry.1.mnemonic.toList ++ bitsField options width entry

theorem toList_bitColumns (bits : List Bool) : (bitColumns bits).toList = bitText bits := by
  rw [bitColumns, String.toList_join, List.flatMap_map, bitText]
  refine List.flatMap_congr fun ⟨bit, index⟩ _ => ?_
  simp only [String.toList_append, Nat.toList_repr, List.append_assoc]
  cases bit <;> rfl

theorem toList_entryLine (options : ReportOptions) (width : Nat) (entry : Instruction × Opcode) :
    (entryLine options width entry).toList = entryText options width entry ++ ['\n'] := by
  have hfeed : "\n".toList = ['\n'] := rfl
  have hblank : " ".toList = [' '] := rfl
  rw [entryLine, entryText, binaryField, bitsField]
  cases options.binary <;> cases options.instructionBits <;>
    simp only [String.toList_append, String.toList_empty, Text.toList_padRight, toList_bitColumns,
      hfeed, hblank, if_true, Bool.false_eq_true, if_false, List.append_assoc, List.append_nil,
      List.nil_append, List.cons_append]

theorem toList_summary (options : ReportOptions) (table : OpcodeTable) :
    (if options.summary then summary table else "").toList =
      (closingLines options table.isEmpty table.maxOpcode.decimalDigits.toList
        table.bitWidth.repr.toList).flatMap (· ++ ['\n']) := by
  have hfeed : "\n".toList = ['\n'] := rfl
  rw [summary, closingLines]
  cases options.summary <;> cases table.isEmpty <;>
    simp only [String.toList_append, String.toList_empty, hfeed, if_true, Bool.false_eq_true,
      if_false, List.append_assoc, List.flatMap_cons, List.flatMap_nil, List.cons_append,
      List.nil_append, List.append_nil]

theorem toList_render (table : OpcodeTable) (options : ReportOptions) :
    (render table options).toList =
      (table.entries.map (entryText options table.bitWidth) ++
        closingLines options table.isEmpty table.maxOpcode.decimalDigits.toList
          table.bitWidth.repr.toList).flatMap (· ++ ['\n']) := by
  rw [render, String.toList_append, toList_summary, String.toList_join, List.flatMap_append,
    List.flatMap_map, List.flatMap_map]
  simp only [toList_entryLine]

end Characters

section NoLineFeed

theorem not_mem_bitText (bits : List Bool) : '\n' ∉ bitText bits := by
  rw [bitText, List.mem_flatMap]
  rintro ⟨⟨bit, index⟩, _, hmem⟩
  rcases List.mem_append.mp hmem with hmem | hmem
  · rcases List.mem_append.mp hmem with hmem | hmem
    · exact absurd hmem (by decide)
    · exact Text.not_mem_toDigits rfl (by decide) (by decide) index hmem
  · revert hmem
    cases bit <;> decide

theorem not_mem_entryText (options : ReportOptions) (width : Nat)
    (entry : Instruction × Opcode) : '\n' ∉ entryText options width entry := by
  have hdecimal : '\n' ∉ (entry.2.decimalColumn 3).toList :=
    entry.2.not_mem_decimalColumn rfl (by decide) 3
  have hbinary : '\n' ∉ binaryField options width entry.2 := by
    have hdigits := (entry.2.numeral_binaryColumn width).not_mem (c := '\n') (by decide) rfl
    rw [binaryField]
    cases options.binary
    · exact List.not_mem_nil
    · exact List.not_mem_cons_of_ne_of_not_mem (by decide) hdigits
  have hbits : '\n' ∉ bitsField options width entry := by
    rw [bitsField]
    cases options.instructionBits
    · exact List.not_mem_nil
    · exact List.not_mem_append (Text.not_mem_replicate (by decide) _) (not_mem_bitText _)
  have hname : '\n' ∉ ' ' :: entry.1.mnemonic.toList :=
    List.not_mem_cons_of_ne_of_not_mem (by decide) (entry.1.not_mem_mnemonic rfl)
  exact List.not_mem_append (List.not_mem_append (List.not_mem_append hdecimal hbinary) hname) hbits

theorem not_mem_closingLines {options : ReportOptions} {isEmpty : Bool}
    {highest width line : List Char} (hhighest : '\n' ∉ highest) (hwidth : '\n' ∉ width)
    (h : line ∈ closingLines options isEmpty highest width) : '\n' ∉ line := by
  rw [closingLines] at h
  by_cases hon : options.summary = true
  · rw [if_pos hon, List.mem_append, List.mem_pair] at h
    rcases h with h | rfl | rfl
    · cases isEmpty
      · rw [List.mem_singleton.mp h]
        exact List.not_mem_nil
      · exact nomatch h
    · exact List.not_mem_append (by decide) hhighest
    · exact List.not_mem_append (by decide) hwidth
  · rw [if_neg hon] at h
    exact nomatch h

/-- Lines that hold no line feed are found again behind the line feeds that end them. -/
theorem splitOn_lines {lines : List (List Char)} (h : ∀ line ∈ lines, '\n' ∉ line) :
    (lines.flatMap (· ++ ['\n'])).splitOn '\n' = lines ++ [[]] := by
  induction lines with
  | nil => rfl
  | cons line rest ih =>
      rw [List.forall_mem_cons] at h
      rw [List.flatMap_cons, List.append_assoc, List.singleton_append,
        List.splitOn_append_cons_self_of_not_mem h.1, ih h.2, List.cons_append]

end NoLineFeed

section Columns

variable (options : ReportOptions) {width : Nat} {entry : Instruction × Opcode}

theorem length_mnemonic_le (i : Instruction) : i.mnemonic.length ≤ 16 := by
  cases i <;> decide

/-- What stands behind a mnemonic begins with a blank. -/
theorem head?_bitsField (width : Nat) (entry : Instruction × Opcode) :
    ∀ c ∈ (bitsField options width entry).head?, c = ' ' := by
  rw [bitsField]
  cases options.instructionBits
  · exact fun c hc => nomatch hc
  · rw [if_pos rfl]
    -- The blank is of the padding, or of the first bit when a mnemonic needs no padding.
    cases 16 - entry.1.mnemonic.length with
    | succ count => exact fun c hc => (Option.some.inj hc).symm
    | zero =>
        cases entry.2.instructionBits width with
        | nil => exact fun c hc => nomatch hc
        | cons bit rest => exact fun c hc => (Option.some.inj hc).symm

theorem fieldAt_decimalColumn :
    FieldAt 0 (entry.2.decimalColumn 3).toList (entryText options width entry) := by
  refine ⟨[], binaryField options width entry.2 ++ ' ' :: entry.1.mnemonic.toList ++
    bitsField options width entry, ?_, rfl, ?_⟩
  · rw [entryText]
    simp only [List.nil_append, List.append_assoc]
  · rw [binaryField]
    cases options.binary <;> exact fun c hc => (Option.some.inj hc).symm

section Room

variable (hdecimal : entry.2.value.toNat < 10 ^ 3)

include hdecimal

theorem fieldAt_binaryColumn {options : ReportOptions} (hon : options.binary = true) :
    FieldAt 4 (entry.2.binaryColumn width).toList (entryText options width entry) := by
  refine ⟨(entry.2.decimalColumn 3).toList ++ [' '], ' ' :: entry.1.mnemonic.toList ++
    bitsField options width entry, ?_, ?_, fun c hc => (Option.some.inj hc).symm⟩
  · rw [entryText, binaryField, if_pos hon]
    simp only [List.append_assoc, List.cons_append, List.nil_append]
  · rw [List.length_append, Opcode.length_decimalColumn (by decide) hdecimal,
      List.length_singleton]

variable (hpos : 0 < width) (hbinary : entry.2.value.toNat < 2 ^ width)

include hpos hbinary

/-- A mnemonic begins in its column whatever the opcode is, and ends as far behind it as it
    is long. -/
theorem length_through_mnemonic :
    ((entry.2.decimalColumn 3).toList ++ binaryField options width entry.2 ++
        ' ' :: entry.1.mnemonic.toList).length =
      mnemonicColumn options width + entry.1.mnemonic.length := by
  have hthree := Opcode.length_decimalColumn (by decide) hdecimal
  have hwidth := Opcode.length_binaryColumn hpos hbinary
  rw [List.length_append, List.length_append, hthree, List.length_cons, String.length_toList,
    binaryField, mnemonicColumn]
  -- The binary column takes the blank before it along, hence one more than its width.
  cases options.binary
  · simp only [Bool.false_eq_true, if_false, List.length_nil]
    omega
  · simp only [if_true, List.length_cons, hwidth]
    omega

theorem fieldAt_mnemonic :
    FieldAt (mnemonicColumn options width) entry.1.mnemonic.toList
      (entryText options width entry) := by
  refine ⟨(entry.2.decimalColumn 3).toList ++ binaryField options width entry.2 ++ [' '], _, ?_,
    ?_, head?_bitsField options width entry⟩
  · rw [entryText]
    simp only [List.append_assoc, List.cons_append, List.nil_append]
  · have hthrough := length_through_mnemonic options hdecimal hpos hbinary
    simp only [List.length_append, List.length_cons, List.length_nil, String.length_toList]
      at hthrough ⊢
    omega

/-- The line of an entry shows it, where three digits in base ten and `width` digits in base
    two are enough for its opcode. -/
theorem showsEntry_entryText :
    ShowsEntry options width entry (entryText options width entry) where
  decimal := by
    rcases Opcode.exists_decimalDigits (by decide) hdecimal with
      ⟨digits, hdigits, hshort, hnumeral⟩
    exact ⟨digits, hdigits ▸ fieldAt_decimalColumn options, hshort, hnumeral⟩
  binary hon :=
    ⟨_, fieldAt_binaryColumn hdecimal hon, Opcode.length_binaryColumn hpos hbinary,
      entry.2.numeral_binaryColumn width⟩
  mnemonic := fieldAt_mnemonic options hdecimal hpos hbinary
  plain hoff := by
    rw [entryText, bitsField, hoff, if_neg Bool.false_ne_true, List.append_nil]
    exact length_through_mnemonic options hdecimal hpos hbinary
  bits hon := by
    have hthrough := length_through_mnemonic options hdecimal hpos hbinary
    have hname := length_mnemonic_le entry.1
    refine ⟨_, 16 - entry.1.mnemonic.length, entry.2.instructionBits width, ?_, hthrough, ?_,
      ?_, ?_⟩
    · rw [entryText, bitsField, if_pos hon, ← List.append_assoc]
    · rw [hthrough]
      omega
    · rw [Opcode.instructionBits, List.length_map, List.length_range]
    · rw [Opcode.reverse_instructionBits hpos hbinary]
      exact entry.2.numeral_binaryColumn width

end Room

example : String.ofList (entryText { instructionBits := true } 3 (.skiz, ⟨2⟩)) =
    "  2 010 skiz             ib0=0 ib1=1 ib2=0" := by
  decide

end Columns

/-- A table whose opcodes have three digits is rendered as a report of it. -/
theorem isReport_render {table : OpcodeTable} (options : ReportOptions)
    (h : ∀ entry ∈ table.entries, entry.2.value.toNat < 10 ^ 3) :
    IsReport options table (render table options) := by
  obtain ⟨hpos, hholds⟩ := table.isLeast_bitWidth.1
  have hhighest : Text.Numeral 10 table.maxOpcode.decimalDigits.toList
      table.maxOpcode.value.toNat := by
    rw [Opcode.toList_decimalDigits]
    exact Text.numeral_toDigits (by decide) (by decide) _
  have hwidth : Text.Numeral 10 table.bitWidth.repr.toList table.bitWidth := by
    rw [Nat.toList_repr]
    exact Text.numeral_toDigits (by decide) (by decide) _
  refine ⟨table.entries.map (entryText options table.bitWidth), _, _, ?_, ?_, hhighest, hwidth⟩
  · rw [toList_render]
    refine splitOn_lines fun line hline => ?_
    rcases List.mem_append.mp hline with hline | hline
    · rcases List.mem_map.mp hline with ⟨entry, _, rfl⟩
      exact not_mem_entryText options table.bitWidth entry
    · exact not_mem_closingLines (hhighest.not_mem (by decide) rfl)
        (hwidth.not_mem (by decide) rfl) hline
  · rw [List.forall₂_map_right_iff, List.forall₂_same]
    intro entry hentry
    -- What has room for the highest opcode has room for the others.
    have hle := Opcode.le_iff.mp (OpcodeTable.le_maxOpcode hentry)
    exact showsEntry_entryText options (h entry hentry) hpos (Nat.lt_of_le_of_lt hle hholds)

end Report

end OpcodeBuckets
