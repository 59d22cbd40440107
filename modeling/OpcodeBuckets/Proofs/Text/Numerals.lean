import OpcodeBuckets.Opcode
import Mathlib.Algebra.Group.Nat.Defs
import Mathlib.Data.Nat.Init

/-!
# Digits and What They Denote

Numbers as they are written, and back.

The library has one way to write a number in a base and one way to evaluate
characters as its digits. `Numeral` is what a reader needs of both: digits of the
base, one at least, that evaluate to the number. What is written is a numeral,
and it stays one behind zeros. Blanks in front are no digits, but a reader who
evaluates a whole field does not have to skip them, since they count for nothing.

In base two a number can also be written bit by bit, from the highest of as many
bits as there is room for. That is the same as its digits with zeros in front.

## Main definitions

* `Text.Numeral`: Digits that denote a number.
* `Text.bitChar`: A bit as a digit.

## Theorems

* `Text.numeral_toDigits`, `Text.numeral_repr`: What is written denotes the number.
* `Text.Numeral.zeros`: So it does behind zeros.
* `Text.ofDigitChars_blanks`: Blanks count for nothing.
* `Text.not_mem_toDigits`, `Text.Numeral.not_mem`, `Text.not_mem_repr`: Nothing but digits is
  in it.
* `Text.reverse_map_testBit`: The digits in base two, bit by bit.
-/

namespace OpcodeBuckets

namespace Text

/-- Digits that denote a number, the highest digit first. -/
structure Numeral (base : Nat) (digits : List Char) (n : Nat) : Prop where
  /-- There is a digit. -/
  ne_nil : digits ≠ []
  /-- The digits are those of the base. -/
  digit : ∀ c ∈ digits, ∃ d < base, c = Nat.digitChar d
  /-- The digits evaluate to the number. -/
  value : Nat.ofDigitChars base digits 0 = n

theorem not_mem_toDigits {c : Char} (hc : c.isDigit = false) {base : Nat} (hpos : 0 < base)
    (hten : base ≤ 10) (n : Nat) : c ∉ Nat.toDigits base n := by
  intro hmem
  rw [Nat.isDigit_of_mem_toDigits hpos hten hmem] at hc
  exact nomatch hc

/-- The digits of a number are those of the base. By induction on the number: the last
    digit is its residue, and the others are the digits of a smaller number. -/
theorem exists_digit_of_mem_toDigits {base n : Nat} (hbase : 1 < base) {c : Char}
    (h : c ∈ Nat.toDigits base n) : ∃ d < base, c = Nat.digitChar d := by
  induction n using Nat.strong_induction_on with
  | _ n ih =>
      rw [Nat.toDigits_eq_if hbase] at h
      by_cases hn : n < base
      · rw [if_pos hn, List.mem_singleton] at h
        exact ⟨n, hn, h⟩
      · rw [if_neg hn, List.mem_append, List.mem_singleton] at h
        rcases h with h | h
        · exact ih (n / base) (Nat.div_lt_self (by omega) hbase) h
        · exact ⟨n % base, Nat.mod_lt n (by omega), h⟩

theorem numeral_toDigits {base : Nat} (hbase : 1 < base) (hten : base ≤ 10) (n : Nat) :
    Numeral base (Nat.toDigits base n) n where
  ne_nil := Nat.toDigits_ne_nil
  digit _ := exists_digit_of_mem_toDigits hbase
  value := Nat.ofDigitChars_toDigits hbase hten

/-- A number written the usual way denotes itself. -/
theorem numeral_repr (n : Nat) : Numeral 10 n.repr.toList n := by
  rw [Nat.toList_repr]
  exact numeral_toDigits (by decide) (by decide) n

/-- Zeros in front of a numeral do not change what it denotes. -/
theorem Numeral.zeros {base n : Nat} {digits : List Char} (h : Numeral base digits n)
    (hbase : 0 < base) (count : Nat) :
    Numeral base (List.replicate count '0' ++ digits) n where
  ne_nil := List.append_ne_nil_of_right_ne_nil _ h.ne_nil
  digit c hc := by
    rcases List.mem_append.mp hc with hzero | hdigit
    · exact ⟨0, hbase, List.eq_of_mem_replicate hzero⟩
    · exact h.digit c hdigit
  value := by
    rw [Nat.ofDigitChars_append, Nat.ofDigitChars_replicate_zero, Nat.mul_zero, h.value]

theorem Numeral.not_mem {base n : Nat} {digits : List Char} (h : Numeral base digits n)
    (hten : base ≤ 10) {c : Char} (hc : c.isDigit = false) : c ∉ digits := by
  intro hmem
  rcases h.digit c hmem with ⟨d, hd, rfl⟩
  rw [Nat.isDigit_digitChar, decide_eq_false_iff_not] at hc
  omega

theorem not_mem_repr {c : Char} (hc : c.isDigit = false) (n : Nat) : c ∉ n.repr.toList :=
  (numeral_repr n).not_mem (by decide) hc

/-- Blanks in front of digits count for nothing. -/
theorem ofDigitChars_blanks (base count : Nat) (digits : List Char) :
    Nat.ofDigitChars base (List.replicate count ' ' ++ digits) 0 =
      Nat.ofDigitChars base digits 0 := by
  induction count with
  | zero => rfl
  | succ count ih =>
      rw [List.replicate_succ, List.cons_append, Nat.ofDigitChars_cons, Nat.mul_zero, Nat.zero_add]
      exact ih

/-- A bit as a digit in base two. -/
def bitChar (bit : Bool) : Char :=
  if bit then '1' else '0'

theorem bitChar_testBit_zero (n : Nat) : bitChar (n.testBit 0) = Nat.digitChar (n % 2) := by
  rw [Nat.testBit_zero, bitChar]
  rcases Nat.mod_two_eq_zero_or_one n with h | h <;> rw [h] <;> rfl

/-- The lowest bit of a number, and above it the bits of half the number. -/
theorem map_testBit_range_succ (width n : Nat) :
    (List.range (width + 1)).map n.testBit =
      n.testBit 0 :: (List.range width).map (n / 2).testBit := by
  rw [List.range_succ_eq_map, List.map_cons, List.map_map]
  congr 1
  exact List.map_congr_left fun k _ => Nat.testBit_succ n k

/-- The digits of a number in base two are its bits from the highest down, as many as
    there is room for. By induction on the room: the lowest bit is the last digit, and
    the others are the bits of half the number. -/
theorem reverse_map_testBit {width n : Nat} (hn : n < 2 ^ (width + 1)) :
    ((List.range (width + 1)).map n.testBit).reverse.map bitChar =
      List.replicate (width + 1 - (Nat.toDigits 2 n).length) '0' ++ Nat.toDigits 2 n := by
  induction width generalizing n with
  | zero =>
      have hsmall : n < 2 := hn
      rw [map_testBit_range_succ, List.range_zero, List.map_nil, List.reverse_singleton,
        List.map_singleton, bitChar_testBit_zero, Nat.mod_eq_of_lt hsmall,
        Nat.toDigits_of_lt_base hsmall]
      rfl
  | succ width ih =>
      have hhalf : n / 2 < 2 ^ (width + 1) := by
        rw [Nat.pow_succ] at hn
        omega
      rw [map_testBit_range_succ, List.reverse_cons, List.map_append, ih hhalf, List.map_singleton,
        bitChar_testBit_zero]
      by_cases hsmall : n < 2
      · -- One digit is left, and the half of it is another zero.
        have hzero : n / 2 = 0 := by omega
        rw [hzero, Nat.toDigits_zero, Nat.toDigits_of_lt_base hsmall, Nat.mod_eq_of_lt hsmall]
        simp only [List.length_singleton, Nat.add_sub_cancel]
        rw [← List.replicate_succ']
      · rw [Nat.toDigits_of_base_le (by decide) (Nat.le_of_not_lt hsmall), List.length_append,
          List.length_singleton, Nat.add_sub_add_right, List.append_assoc]

end Text

end OpcodeBuckets
