import OpcodeBuckets.Proofs.Assignment.Acceptance
import OpcodeBuckets.Proofs.Report.Lines

/-!
# What a Report Tells

A report read back.

Two texts that begin in the same column of a line agree as far as they are known to
reach: to a length, or to the first blank when there is none in them. The opcode is
read off its three columns, the width of the report off the binary column, and with
the width the column of the mnemonic is known, so a line says which entry it is of
even to a reader who has not been told the width. That is how whole reports are
compared, whose tables need not have one width.

How many of the lines show entries is not written anywhere. It follows from the
number of all lines: a summary with a blank line before it belongs to a table that
has entries, so no count is that of two reports.

An accepted table meets the one condition there is on reports, which is room for
its opcodes in three columns.

## Theorems

* `Report.FieldAt.eq_of_length`, `Report.FieldAt.word_eq`: What stands in a column.
* `Report.leftUnique_showsEntry`: A line shows one entry only.
* `Report.IsReport.entries_eq`: A text is the report of one list of entries only.
* `Report.render_is_faithful`: The report of an accepted table shows it, and no other.
-/

namespace OpcodeBuckets

namespace Report

section Fields

variable {column : Nat} {content other line : List Char}

/-- What begins in one column goes on alike. -/
theorem FieldAt.exists_rest (h : FieldAt column content line) (hother : FieldAt column other line) :
    ∃ rest after, content ++ rest = other ++ after ∧
      (∀ c ∈ rest.head?, c = ' ') ∧ ∀ c ∈ after.head?, c = ' ' := by
  rcases h with ⟨front, rest, rfl, hfront, hrest⟩
  rcases hother with ⟨before, after, hline, hbefore, hafter⟩
  rw [List.append_assoc, List.append_assoc] at hline
  exact ⟨rest, after, (List.append_inj hline (hfront.trans hbefore.symm)).2, hrest, hafter⟩

theorem FieldAt.eq_of_length (h : FieldAt column content line) (hother : FieldAt column other line)
    (hlength : content.length = other.length) : content = other := by
  rcases h.exists_rest hother with ⟨rest, after, heq, _, _⟩
  exact (List.append_inj heq hlength).1

/-- A word is what is taken up to the blank behind it. -/
theorem takeWhile_word {word rest : List Char} (hword : ' ' ∉ word)
    (hrest : ∀ c ∈ rest.head?, c = ' ') : (word ++ rest).takeWhile (· != ' ') = word := by
  have hall : ∀ c ∈ word, (c != ' ') = true := fun c hc =>
    bne_iff_ne.mpr (ne_of_mem_of_not_mem hc hword)
  rw [List.takeWhile_append_of_pos hall]
  cases rest with
  | nil => exact List.append_nil word
  | cons c rest =>
      rw [hrest c rfl, List.takeWhile_cons_of_neg (by decide), List.append_nil]

/-- The word in a column is the only one. -/
theorem FieldAt.word_eq (h : FieldAt column content line) (hother : FieldAt column other line)
    (hcontent : ' ' ∉ content) (hblank : ' ' ∉ other) : content = other := by
  rcases h.exists_rest hother with ⟨rest, after, heq, hrest, hafter⟩
  rw [← takeWhile_word hcontent hrest, ← takeWhile_word hblank hafter, heq]

end Fields

section Entries

variable {options : ReportOptions} {width wide : Nat} {entry other : Instruction × Opcode}
  {line : List Char}

theorem ShowsEntry.opcode_eq (h : ShowsEntry options width entry line)
    (hother : ShowsEntry options wide other line) : entry.2 = other.2 := by
  rcases h.decimal with ⟨digits, hfield, hshort, hnumeral⟩
  rcases hother.decimal with ⟨figures, hfigures, hfew, hsame⟩
  have hfields := hfield.eq_of_length hfigures (by
    simp only [List.length_append, List.length_replicate]
    omega)
  -- Blanks count for nothing, so that the fields can be evaluated whole.
  have hvalue := congrArg (fun field => Nat.ofDigitChars 10 field 0) hfields
  simp only [Text.ofDigitChars_blanks] at hvalue
  exact Opcode.eq_of_toNat (hnumeral.value.symm.trans (hvalue.trans hsame.value))

theorem ShowsEntry.width_eq (h : ShowsEntry options width entry line)
    (hother : ShowsEntry options wide other line) (hon : options.binary = true) :
    width = wide := by
  rcases h.binary hon with ⟨digits, hfield, rfl, hnumeral⟩
  rcases hother.binary hon with ⟨figures, hfigures, rfl, hsame⟩
  rw [hfield.word_eq hfigures (hnumeral.not_mem (by decide) rfl) (hsame.not_mem (by decide) rfl)]

theorem ShowsEntry.instruction_eq (h : ShowsEntry options width entry line)
    (hother : ShowsEntry options wide other line) : entry.1 = other.1 := by
  -- Only the binary column moves the mnemonics, and where there is one it tells the width.
  have hcolumn : mnemonicColumn options width = mnemonicColumn options wide := by
    rw [mnemonicColumn, mnemonicColumn]
    by_cases hon : options.binary = true
    · rw [if_pos hon, if_pos hon, h.width_eq hother hon]
    · rw [if_neg hon, if_neg hon]
  refine Instruction.mnemonic_inj (String.toList_inj.mp ?_)
  exact h.mnemonic.word_eq (hcolumn ▸ hother.mnemonic) (entry.1.not_mem_mnemonic rfl)
    (other.1.not_mem_mnemonic rfl)

/-- A line shows one entry only, whatever the widths of the reports it stands in. -/
theorem leftUnique_showsEntry (options : ReportOptions) :
    Relator.LeftUnique fun entry line => ∃ width, ShowsEntry options width entry line := by
  rintro entry other line ⟨width, h⟩ ⟨wide, hother⟩
  exact Prod.ext (h.instruction_eq hother) (h.opcode_eq hother)

end Entries

theorem length_closingLines (options : ReportOptions) (table : OpcodeTable)
    (highest width : List Char) :
    (closingLines options table.isEmpty highest width).length =
      if options.summary then (if table.entries.length = 0 then 2 else 3) else 0 := by
  rw [closingLines, OpcodeTable.isEmpty]
  cases options.summary <;> cases table.entries <;> rfl

/-- A text is a report of one list of entries only. -/
theorem IsReport.entries_eq {options : ReportOptions} {table other : OpcodeTable} {text : String}
    (h : IsReport options table text) (hother : IsReport options other text) :
    table.entries = other.entries := by
  rcases h with ⟨lines, highest, width, hsplit, hlines, _⟩
  rcases hother with ⟨rows, most, wide, hrows, hshown, _⟩
  have hcount := hlines.length_eq
  have hnumber := hshown.length_eq
  have hbody := List.append_cancel_right (hsplit.symm.trans hrows)
  -- Two lines close the report of a table without entries, and three that of any other.
  have hlength : lines.length = rows.length := by
    have htotal := congrArg List.length hbody
    rw [List.length_append, List.length_append, length_closingLines, length_closingLines,
      hcount, hnumber] at htotal
    split_ifs at htotal <;> omega
  have hsame := (List.append_inj hbody hlength).1
  exact (leftUnique_showsEntry options).forall₂ (hlines.imp fun _ _ h => ⟨_, h⟩)
    (hsame ▸ hshown.imp fun _ _ h => ⟨_, h⟩)

theorem isReport_of_accepted {set : InstructionSet} {table : OpcodeTable}
    (h : OpcodeTable.ofInstructionSet set = .ok table) (options : ReportOptions) :
    IsReport options table (render table options) := by
  refine isReport_render options fun entry hentry => ?_
  have hdigits := OpcodeTable.toNat_opcode_le_of_accepted h hentry
  omega

/-- The report of an accepted table shows it entry by entry, and shows no other. -/
theorem render_is_faithful {set : InstructionSet} {table : OpcodeTable}
    (h : OpcodeTable.ofInstructionSet set = .ok table) (options : ReportOptions) :
    IsReport options table (render table options) ∧
      (table.entries.map Prod.fst).Pairwise (· < ·) ∧
      (table.entries = [] ∧ table.maxOpcode = ⟨0⟩ ∨
        table.maxOpcode ∈ table.entries.map Prod.snd ∧
          ∀ opcode ∈ table.entries.map Prod.snd, opcode ≤ table.maxOpcode) ∧
      IsLeast {width | 1 ≤ width ∧ table.maxOpcode.value.toNat < 2 ^ width} table.bitWidth ∧
      ∀ otherSet other, OpcodeTable.ofInstructionSet otherSet = .ok other →
        render table options = render other options → table.entries = other.entries := by
  have hreport := isReport_of_accepted h options
  refine ⟨hreport, OpcodeTable.pairwise_entries_of_accepted h, table.maxOpcode_spec,
    table.isLeast_bitWidth, fun otherSet other hother hsame => ?_⟩
  have hsecond := isReport_of_accepted hother options
  rw [← hsame] at hsecond
  exact hreport.entries_eq hsecond

/-- Two lists of the same instructions in another order have one report, and the tables
    have the same entries. -/
theorem render_is_faithful_reordered :
    let set : InstructionSet := ⟨[.xbMul, .push, .halt], InstructionSet.standardBuckets⟩
    let other : InstructionSet := ⟨[.halt, .xbMul, .push], InstructionSet.standardBuckets⟩
    ∃ table second,
      OpcodeTable.ofInstructionSet set = .ok table ∧
        OpcodeTable.ofInstructionSet other = .ok second ∧
        render table {} = render second {} ∧ table.entries = second.entries := by
  intro set other
  have htable : OpcodeTable.ofInstructionSet set =
      .ok ⟨[(.halt, ⟨0⟩), (.push, ⟨1⟩), (.xbMul, ⟨2⟩)]⟩ :=
    OpcodeTable.ofInstructionSet_eq_ok_of_entries set (by decide) (by decide) (by decide)
      (by decide) (by decide)
  have hsecond : OpcodeTable.ofInstructionSet other =
      .ok ⟨[(.halt, ⟨0⟩), (.push, ⟨1⟩), (.xbMul, ⟨2⟩)]⟩ :=
    OpcodeTable.ofInstructionSet_eq_ok_of_entries other (by decide) (by decide) (by decide)
      (by decide) (by decide)
  exact ⟨_, _, htable, hsecond, rfl, (render_is_faithful htable {}).2.2.2.2 other _ hsecond rfl⟩

end Report

end OpcodeBuckets
