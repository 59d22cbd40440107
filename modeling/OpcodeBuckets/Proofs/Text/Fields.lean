import OpcodeBuckets.Proofs.Source.Pieces
import OpcodeBuckets.Proofs.Text.Numerals

/-!
# Fields as Characters

What stands in a field, character by character.

A layout speaks of alignment, of filling and of a width that may be too small. A
proof about a line of text wants the characters that come of it, and for the
fields used here they are few: a text and blanks behind it, or digits with
blanks or zeros in front of them. No field is cut, so a width that is too small
adds nothing and takes nothing away.

A width that is large enough is the length of the field. The binary column is then
the single bits, read from the highest down.

No character of a mnemonic is a blank or a line feed, and no digit is, which is
what lets a reader find the fields of a line again.

## Theorems

* `Text.toList_padRight`: A text with blanks behind it.
* `Opcode.toList_decimalColumn`, `Opcode.toList_binaryColumn`: The digits of an
  opcode in a field.
* `Opcode.exists_decimalDigits`, `Opcode.numeral_binaryColumn`: What they denote.
* `Opcode.length_decimalColumn`, `Opcode.length_binaryColumn`: How long a field is
  that has room for them.
* `Opcode.reverse_instructionBits`: The single bits as a binary column.
* `Instruction.mnemonic_inj`: A mnemonic is that of one instruction.
* `Instruction.not_mem_mnemonic`: What is not in words is not in a mnemonic.
-/

namespace OpcodeBuckets

namespace Text

theorem toList_padRight (width : Nat) (content : String) :
    (padRight width content).toList =
      content.toList ++ List.replicate (width - content.length) ' ' := by
  rw [← String.toList_ofList (l := List.replicate _ _), ← String.toList_append]
  rfl

theorem not_mem_replicate {c filler : Char} (hne : c ≠ filler) (count : Nat) :
    c ∉ List.replicate count filler := fun h =>
  hne (List.eq_of_mem_replicate h)

theorem toList_replicate (count : Nat) (c : Char) :
    (replicate count c).toList = List.replicate count c :=
  String.toList_ofList

theorem not_mem_toList_replicate {c filler : Char} (hne : c ≠ filler) (count : Nat) :
    c ∉ (replicate count filler).toList := by
  rw [toList_replicate]
  exact not_mem_replicate hne count

end Text

namespace Opcode

theorem toList_decimalDigits (opcode : Opcode) :
    opcode.decimalDigits.toList = Nat.toDigits 10 opcode.value.toNat :=
  Nat.toList_repr

/-- The digits of an opcode on the right of a field. -/
theorem toList_decimalColumn (opcode : Opcode) (width : Nat) :
    (opcode.decimalColumn width).toList =
      List.replicate (width - (Nat.toDigits 10 opcode.value.toNat).length) ' ' ++
        Nat.toDigits 10 opcode.value.toNat := by
  have hlead : opcode.decimalColumn width =
      Text.replicate (width - ("" ++ opcode.decimalDigits).length) ' ' ++
        ("" ++ opcode.decimalDigits) := rfl
  rw [hlead, String.empty_append, String.toList_append, toList_decimalDigits, Text.replicate,
    String.toList_ofList, ← String.length_toList, toList_decimalDigits]

/-- The binary digits of an opcode, with zeros in front. -/
theorem toList_binaryColumn (opcode : Opcode) (width : Nat) :
    (opcode.binaryColumn width).toList =
      List.replicate (width - (Nat.toDigits 2 opcode.value.toNat).length) '0' ++
        Nat.toDigits 2 opcode.value.toNat := by
  have hdigits : opcode.binaryDigits.toList = Nat.toDigits 2 opcode.value.toNat :=
    String.toList_ofList
  have hlead : opcode.binaryColumn width =
      "" ++ Text.replicate (width - 0 - opcode.binaryDigits.length) '0' ++ opcode.binaryDigits :=
    rfl
  rw [hlead, String.empty_append, String.toList_append, hdigits, Text.replicate,
    String.toList_ofList, ← String.length_toList, hdigits, Nat.sub_zero]

theorem not_mem_decimalColumn {c : Char} (hdigit : c.isDigit = false) (hblank : c ≠ ' ')
    (opcode : Opcode) (width : Nat) : c ∉ (opcode.decimalColumn width).toList := by
  rw [toList_decimalColumn, List.mem_append, not_or]
  exact ⟨Text.not_mem_replicate hblank _, Text.not_mem_toDigits hdigit (by decide) (by decide) _⟩

theorem numeral_binaryColumn (opcode : Opcode) (width : Nat) :
    Text.Numeral 2 (opcode.binaryColumn width).toList opcode.value.toNat := by
  rw [toList_binaryColumn]
  exact (Text.numeral_toDigits (by decide) (by decide) _).zeros (by decide) _

section Room

variable {opcode : Opcode} {width : Nat} (hpos : 0 < width)

include hpos

theorem exists_decimalDigits (h : opcode.value.toNat < 10 ^ width) :
    ∃ digits, (opcode.decimalColumn width).toList =
        List.replicate (width - digits.length) ' ' ++ digits ∧
      digits.length ≤ width ∧ Text.Numeral 10 digits opcode.value.toNat :=
  ⟨_, opcode.toList_decimalColumn width,
    (Nat.length_toDigits_le_iff (by decide) hpos).mpr h,
    Text.numeral_toDigits (by decide) (by decide) _⟩

theorem length_decimalColumn (h : opcode.value.toNat < 10 ^ width) :
    (opcode.decimalColumn width).toList.length = width := by
  rcases exists_decimalDigits hpos h with ⟨digits, hcolumn, hshort, _⟩
  rw [hcolumn, List.length_append, List.length_replicate, Nat.sub_add_cancel hshort]

theorem length_binaryColumn (h : opcode.value.toNat < 2 ^ width) :
    (opcode.binaryColumn width).toList.length = width := by
  have hshort := (Nat.length_toDigits_le_iff (by decide) hpos).mpr h
  rw [toList_binaryColumn, List.length_append, List.length_replicate, Nat.sub_add_cancel hshort]

/-- Read from the highest down the single bits are the binary column. -/
theorem reverse_instructionBits (h : opcode.value.toNat < 2 ^ width) :
    (opcode.instructionBits width).reverse.map Text.bitChar =
      (opcode.binaryColumn width).toList := by
  obtain ⟨width, rfl⟩ := Nat.exists_eq_succ_of_ne_zero hpos.ne'
  rw [toList_binaryColumn]
  exact Text.reverse_map_testBit h

end Room

end Opcode

namespace Instruction

theorem mnemonic_inj {i j : Instruction} (h : i.mnemonic = j.mnemonic) : i = j := by
  have hsome := congrArg ofMnemonic? h
  rw [ofMnemonic?_mnemonic, ofMnemonic?_mnemonic] at hsome
  exact Option.some.inj hsome

theorem not_mem_mnemonic {c : Char} (hc : Source.isWordPart c = false) (i : Instruction) :
    c ∉ i.mnemonic.toList := by
  intro hmem
  rw [Source.isWordPart_of_mem_mnemonic hmem] at hc
  exact nomatch hc

end Instruction

end OpcodeBuckets
