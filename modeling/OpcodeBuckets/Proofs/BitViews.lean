import OpcodeBuckets.Proofs.Assignment.Ranks
import OpcodeBuckets.Proofs.Text.Fields
import Mathlib.Algebra.BigOperators.Ring.List
import Mathlib.Algebra.Ring.Nat

/-!
# Bits, Lengths and Digits

An opcode bit by bit, by its length, and as it is written in base two.

The single bits of an opcode are a list, the lowest first, and may be asked for in
any number: fewer than it takes, which loses the upper ones, or more than a word
has, which are then unset. `bitSum` evaluates such a list without a word on where it
came from, by adding the powers of two at its set places. Everything here is
measured by it.

By induction on the width the sum of the lowest bits is a residue. So a width
recovers an opcode exactly when the opcode is below the power of two of that width,
and the least width that does is its length. The digits are the same bits from the
highest down, and as many as the length says, unless a field asks for more.

What holds of one opcode carries over to all opcodes of an instruction set through
the highest: a width that recovers it recovers the others.

## Main definitions

* `Text.bitSum`: The number that bits spell, the lowest first.
* `Text.bitDigits`: Bits as digits in base two, the highest first.

## Theorems

* `Text.bitSum_cons`: The lowest bit, and twice what the others spell.
* `Text.bitSum_map_testBit`: The lowest bits of a number spell its residue.
* `Opcode.bitSum_instructionBits_eq_iff`: The widths that recover an opcode.
* `Opcode.binary_eq`, `Opcode.binaryColumn_eq`: The digits are the bits.
* `InstructionSet.isLeast_bitWidth`: The width of a set is the least that recovers all.
* `Opcode.bit_views_agree`: Bits, lengths and digits together.
-/

namespace OpcodeBuckets

namespace Text

/-- The number that bits spell, the lowest bit first: the sum of the powers of two at the
    places of set bits. -/
def bitSum (bits : List Bool) : Nat :=
  ((bits.zipIdx.filter Prod.fst).map fun entry => 2 ^ entry.2).sum

/-- Bits as digits in base two. The lowest bit comes first and its digit last. -/
def bitDigits (bits : List Bool) : String :=
  String.ofList (bits.reverse.map bitChar)

/-- The lowest bit, and twice what the others spell: each of them is one place lower without
    it, which halves its power of two. -/
theorem bitSum_cons (bit : Bool) (bits : List Bool) :
    bitSum (bit :: bits) = bit.toNat + 2 * bitSum bits := by
  have hhigher : (((bits.zipIdx 1).filter Prod.fst).map fun entry => 2 ^ entry.2).sum =
      2 * bitSum bits := by
    rw [List.zipIdx_succ, List.filter_map, List.map_map, bitSum, ← List.sum_map_mul_left]
    congr 1
    refine List.map_congr_left fun entry _ => ?_
    rw [Function.comp_apply, Nat.pow_succ, Nat.mul_comm]
  unfold bitSum at hhigher ⊢
  cases bit with
  | false =>
      rw [List.zipIdx_cons, List.filter_cons_of_neg Bool.false_ne_true, hhigher, Bool.toNat_false,
        Nat.zero_add]
  | true =>
      rw [List.zipIdx_cons, List.filter_cons_of_pos rfl, List.map_cons, List.sum_cons, hhigher]
      rfl

/-- The lowest bits of a number spell its residue. By induction on their number: above the
    lowest bit are the bits of half the number. -/
theorem bitSum_map_testBit (width n : Nat) :
    bitSum ((List.range width).map n.testBit) = n % 2 ^ width := by
  induction width generalizing n with
  | zero =>
      rw [Nat.pow_zero, Nat.mod_one]
      rfl
  | succ width ih =>
      have hlow : (n.testBit 0).toNat = n % 2 := by
        rw [Nat.toNat_testBit, Nat.pow_zero, Nat.div_one]
      rw [map_testBit_range_succ, bitSum_cons, ih, hlow, Nat.pow_succ', Nat.mod_mul]

end Text

namespace Opcode

open Text

variable (opcode : Opcode)

theorem length_instructionBits (width : Nat) : (opcode.instructionBits width).length = width := by
  rw [instructionBits, List.length_map, List.length_range]

theorem bitSum_instructionBits (width : Nat) :
    bitSum (opcode.instructionBits width) = opcode.value.toNat % 2 ^ width :=
  bitSum_map_testBit width opcode.value.toNat

/-- A width recovers an opcode when the opcode fits in it, and only then: a residue is below
    its modulus. -/
theorem bitSum_instructionBits_eq_iff {width : Nat} (hpos : 1 ≤ width) :
    bitSum (opcode.instructionBits width) = opcode.value.toNat ↔ opcode.bitLength ≤ width := by
  rw [bitSum_instructionBits, bitLength_le_iff hpos]
  constructor
  · intro h
    rw [← h]
    exact Nat.mod_lt _ (Nat.two_pow_pos width)
  · exact Nat.mod_eq_of_lt

/-- An opcode has as many digits in base two as it takes bits. -/
theorem length_toDigits_two : (Nat.toDigits 2 opcode.value.toNat).length = opcode.bitLength := by
  have hiff : ∀ width, 1 ≤ width →
      ((Nat.toDigits 2 opcode.value.toNat).length ≤ width ↔ opcode.bitLength ≤ width) := by
    intro width hpos
    rw [bitLength_le_iff hpos, Nat.length_toDigits_le_iff (by decide) hpos]
  have hdigits : 1 ≤ (Nat.toDigits 2 opcode.value.toNat).length :=
    List.length_pos_of_ne_nil Nat.toDigits_ne_nil
  -- Two numbers with the same upper bounds are one.
  have hle := (hiff _ opcode.bitLength_pos).mpr (Nat.le_refl _)
  have hge := (hiff _ hdigits).mp (Nat.le_refl _)
  omega

/-- Zeros in front of the digits are the unset bits above the length, in a field that is wide
    enough to have any. -/
theorem binaryColumn_eq (width : Nat) :
    opcode.binaryColumn width =
      bitDigits (opcode.instructionBits (max width opcode.bitLength)) := by
  have hlength := opcode.length_toDigits_two
  have hpos := opcode.bitLength_pos
  have hfits := toNat_lt_of_bitLength_le (Nat.le_max_right width opcode.bitLength)
  -- A field narrower than the digits is as wide as the digits.
  have hwiden : (opcode.binaryColumn width).toList =
      (opcode.binaryColumn (max width opcode.bitLength)).toList := by
    rw [toList_binaryColumn, toList_binaryColumn, hlength]
    congr 2
    omega
  rw [← String.toList_inj, hwiden, bitDigits, String.toList_ofList,
    reverse_instructionBits (by omega) hfits]

/-- Outside of a field the digits are as many as the length says. -/
theorem binary_eq : opcode.binary {} = bitDigits (opcode.instructionBits opcode.bitLength) := by
  have hpos := opcode.bitLength_pos
  have hplain : opcode.binary {} = opcode.binaryColumn 0 := by
    have hfield : opcode.binary {} =
        replicate (0 - ("" ++ opcode.binaryDigits).length) ' ' ++ ("" ++ opcode.binaryDigits) := rfl
    have hcolumn : opcode.binaryColumn 0 =
        "" ++ replicate (0 - 0 - opcode.binaryDigits.length) '0' ++ opcode.binaryDigits := rfl
    rw [hfield, hcolumn, Nat.zero_sub, Nat.zero_sub]
    rfl
  rw [hplain, binaryColumn_eq, Nat.max_eq_right (by omega)]

end Opcode

namespace InstructionSet

open Text

/-- The width of a set is the least that recovers the opcodes of all it lists. The highest of
    them is listed and needs it, and the others need no more. -/
theorem isLeast_bitWidth (set : InstructionSet) :
    IsLeast {width | 1 ≤ width ∧ ∀ i ∈ set.instructions,
      bitSum ((set.opcode i).instructionBits width) = (set.opcode i).value.toNat}
      set.bitWidth := by
  have hpos : 1 ≤ set.bitWidth := set.maxOpcode.bitLength_pos
  constructor
  · refine ⟨hpos, ?_⟩
    intro i hi
    rw [Opcode.bitSum_instructionBits_eq_iff _ hpos]
    exact Opcode.bitLength_mono (set.opcode_le_maxOpcode hi)
  · intro width h
    rcases h with ⟨hone, hrecovers⟩
    by_cases hempty : set.instructions = []
    · -- Nothing is listed, and the highest opcode is zero, which takes one bit.
      rw [bitWidth, set.maxOpcode_of_nil hempty]
      exact hone
    · rcases set.exists_opcode_eq_maxOpcode hempty with ⟨i, hi, hmax⟩
      rw [bitWidth, ← hmax, ← Opcode.bitSum_instructionBits_eq_iff _ hone]
      exact hrecovers i hi

end InstructionSet

namespace Opcode

open Text

/-- Bits, lengths and digits together. A width has as many bits, which spell the residue of
    the opcode by the power of two of that width. The length is the least width the opcode
    fits in, and never zero. The digits in base two are the bits of that length, and in a field
    of zeros the bits of its width if that is more. The width of an instruction set is the least
    at which the bits of every listed opcode spell the whole of it. -/
theorem bit_views_agree :
    (∀ opcode : Opcode,
      (∀ width, (opcode.instructionBits width).length = width ∧
        bitSum (opcode.instructionBits width) = opcode.value.toNat % 2 ^ width) ∧
      IsLeast {width | 1 ≤ width ∧ opcode.value.toNat < 2 ^ width} opcode.bitLength ∧
      opcode.binary {} = bitDigits (opcode.instructionBits opcode.bitLength) ∧
      ∀ width, opcode.binary { zeroFill := true, width } =
        bitDigits (opcode.instructionBits (max width opcode.bitLength))) ∧
    ∀ set : InstructionSet,
      IsLeast {width | 1 ≤ width ∧ ∀ i ∈ set.instructions,
        bitSum ((set.opcode i).instructionBits width) = (set.opcode i).value.toNat}
        set.bitWidth := by
  refine ⟨?_, InstructionSet.isLeast_bitWidth⟩
  intro opcode
  refine ⟨?_, opcode.isLeast_bitLength, opcode.binary_eq, opcode.binaryColumn_eq⟩
  intro width
  exact ⟨opcode.length_instructionBits width, opcode.bitSum_instructionBits width⟩

example : bitDigits ((⟨18⟩ : Opcode).instructionBits 7) = "0010010" := by
  decide

end Opcode

end OpcodeBuckets
