import OpcodeBuckets.Diagnostic
import OpcodeBuckets.Proofs.Opcodes
import OpcodeBuckets.Proofs.Text.Fields
import OpcodeBuckets.Proofs.Text.Parts

/-!
# Refusals in Words

What a refusal of an instruction set says, read back.

A refusal is worded twice, as one text with a line for each collision and as a
diagnostic with a note for each. The lines are indented and the notes are not, and
otherwise they say the same: the text is joined from the headline and the notes, and
splitting it at the indented line starts gives them back.

Neither wording leaves anything out. In the wording of a collision the opcode ends at a
blank and each instruction is quoted, and no mnemonic has a comma, so the collision can
be told from its wording even where the list of its instructions is empty. The wordings
can be told from the text since none of them has a line feed in it.

## Main definitions

* `Collision.quotation`: An instruction as a collision quotes it.

## Theorems

* `Collision.not_mem_message`: What is in no wording of a collision.
* `Collision.message_inj`: A wording is that of one collision.
* `UniquenessError.message_eq_intercalate`: The text of a refusal is joined from its notes.
* `UniquenessError.parts_message`: The notes are found again in the text.
* `UniquenessError.message_is_lossless`: Text, notes and collisions together.
-/

namespace OpcodeBuckets

namespace Opcode

theorem not_mem_decimalDigits {c : Char} (hc : c.isDigit = false) (opcode : Opcode) :
    c ∉ opcode.decimalDigits.toList :=
  Text.not_mem_repr hc opcode.value.toNat

theorem decimalDigits_inj {a b : Opcode} : a.decimalDigits = b.decimalDigits ↔ a = b := by
  constructor
  · intro h
    have hvalue := (Text.numeral_repr a.value.toNat).value
    rw [show a.value.toNat.repr = b.value.toNat.repr from h,
      (Text.numeral_repr b.value.toNat).value] at hvalue
    exact eq_of_toNat hvalue.symm
  · exact congrArg decimalDigits

/-- The digits of an opcode end where a text that begins with no digit is put behind them. -/
theorem decimalDigits_append_inj {mark : String} {first : Char} {more : List Char}
    (hmark : mark.toList = first :: more) (hfirst : first.isDigit = false) {a b : Opcode}
    {rest others : String} :
    a.decimalDigits ++ (mark ++ rest) = b.decimalDigits ++ (mark ++ others) ↔
      a = b ∧ rest = others := by
  constructor
  · intro h
    have hchars := congrArg String.toList h
    simp only [String.toList_append, hmark, List.cons_append] at hchars
    -- Split at that character, both texts begin with their digits.
    have hpieces := congrArg (List.splitOn first) hchars
    rw [List.splitOn_append_cons_self_of_not_mem (a.not_mem_decimalDigits hfirst),
      List.splitOn_append_cons_self_of_not_mem (b.not_mem_decimalDigits hfirst), List.cons.injEq,
      String.toList_inj] at hpieces
    rw [hpieces.1, String.append_right_inj, String.append_right_inj] at h
    exact ⟨decimalDigits_inj.mp hpieces.1, h⟩
  · rintro ⟨rfl, rfl⟩
    rfl

end Opcode

namespace Collision

/-- An instruction as a collision quotes it. -/
def quotation (i : Instruction) : String :=
  "`" ++ i.mnemonic ++ "`"

theorem toList_quotation (i : Instruction) :
    (quotation i).toList = "`".toList ++ i.mnemonic.toList ++ "`".toList := by
  rw [quotation, String.toList_append, String.toList_append]

theorem quotation_inj {i j : Instruction} : quotation i = quotation j ↔ i = j := by
  rw [quotation, quotation, String.append_left_inj, String.append_right_inj]
  exact ⟨Instruction.mnemonic_inj, congrArg Instruction.mnemonic⟩

theorem quotation_ne_empty (i : Instruction) : quotation i ≠ "" := by
  intro h
  have hchars := congrArg String.toList h
  rw [toList_quotation, String.toList_empty, List.append_eq_nil_iff] at hchars
  exact absurd hchars.2 (by decide)

theorem not_mem_quotation {c : Char} (hc : Source.isWordPart c = false) (hmark : c ∉ "`".toList)
    (i : Instruction) : c ∉ (quotation i).toList := by
  rw [toList_quotation]
  exact List.not_mem_append (List.not_mem_append hmark (i.not_mem_mnemonic hc)) hmark

theorem forall_quotation (instructions : List Instruction) :
    ∀ part ∈ instructions.map quotation, part ≠ "" ∧ ',' ∉ part.toList := by
  rw [List.forall_mem_map]
  intro i _
  exact ⟨quotation_ne_empty i, not_mem_quotation rfl (by decide) i⟩

theorem message_eq (collision : Collision) :
    collision.message = "opcode " ++ (collision.opcode.decimalDigits ++ (" is shared by " ++
      ", ".intercalate (collision.instructions.map quotation))) := by
  rw [message, String.append_assoc, String.append_assoc]
  rfl

/-- The wording of a collision stands on one line. -/
theorem not_mem_message (collision : Collision) : '\n' ∉ collision.message.toList := by
  have hquoted : ∀ part ∈ collision.instructions.map quotation, '\n' ∉ part.toList := by
    rw [List.forall_mem_map]
    exact fun i _ => not_mem_quotation rfl (by decide) i
  have hjoined : '\n' ∉ (", ".intercalate (collision.instructions.map quotation)).toList :=
    Text.not_mem_intercalate (by decide) hquoted
  have hdigits := collision.opcode.not_mem_decimalDigits (c := '\n') rfl
  simp only [message_eq, String.toList_append, List.mem_append, not_or]
  exact ⟨by decide, hdigits, by decide, hjoined⟩

/-- A wording is that of one collision: the digits of its opcode end at a blank, and what is
    behind them is joined from quotations. -/
theorem message_inj {collision other : Collision} :
    collision.message = other.message ↔ collision = other := by
  obtain ⟨opcode, instructions⟩ := collision
  obtain ⟨second, others⟩ := other
  rw [message_eq, message_eq, String.append_right_inj, Opcode.decimalDigits_append_inj rfl rfl,
    Text.intercalate_inj rfl (forall_quotation _) (forall_quotation _),
    List.map_inj_right fun _ _ => quotation_inj.mp, mk.injEq]

end Collision

namespace UniquenessError

theorem message_eq_intercalate (error : UniquenessError) :
    error.message = "\n  ".intercalate (headline :: error.collisions.map Collision.message) := by
  rw [Text.intercalate_cons, List.map_map, message]
  rfl

theorem notes_diagnostic (error : UniquenessError) :
    error.diagnostic.notes = error.collisions.map Collision.message ++ [hint] :=
  rfl

/-- The notes are found again in the text, where each of them is on a line of its own. -/
theorem parts_message (error : UniquenessError) :
    Text.parts "\n  " error.message = headline :: error.collisions.map Collision.message := by
  have hunbroken : ∀ part ∈ headline :: error.collisions.map Collision.message,
      '\n' ∉ part.toList := by
    rw [List.forall_mem_cons, List.forall_mem_map]
    exact ⟨by decide, fun collision _ => collision.not_mem_message⟩
  rw [message_eq_intercalate, Text.parts_intercalate rfl hunbroken, if_neg (List.cons_ne_nil _ _)]

/-- Text, notes and collisions together. The text splits at its indented lines into the headline
    and all notes but the hint, and refusals of one text are refusals of the same collisions. -/
theorem message_is_lossless :
    (∀ error : UniquenessError, ∃ notes, error.diagnostic.notes = notes ++ [hint] ∧
      Text.parts "\n  " error.message = headline :: notes) ∧
    ∀ error other : UniquenessError,
      error.message = other.message ↔ error.collisions = other.collisions := by
  refine ⟨fun error => ⟨_, error.notes_diagnostic, error.parts_message⟩, ?_⟩
  intro error other
  constructor
  · intro h
    -- The wordings are found again in the text, and each is that of one collision.
    have hparts := congrArg (Text.parts "\n  ") h
    rw [parts_message, parts_message, List.cons.injEq] at hparts
    exact (List.map_inj_right fun _ _ => Collision.message_inj.mp).mp hparts.2
  · intro h
    rw [message, message, h]

example : message ⟨[⟨⟨16⟩, [.nop, .nop]⟩, ⟨⟨1⟩, []⟩]⟩ =
    "opcodes are not unique\n  opcode 16 is shared by `nop`, `nop`\n  opcode 1 is shared by " := by
  decide

end UniquenessError

end OpcodeBuckets
