import OpcodeBuckets.Opcode
import Mathlib.Algebra.Group.Nat.Defs
import Mathlib.Data.Nat.Log
import Mathlib.Data.Set.Function
import Mathlib.Order.Bounds.Defs

/-!
# Order and Packing of Opcodes

Opcodes are compared as the numbers they are, and packing makes such a number
out of two parts. Both are facts about a word, and both are wanted as facts
about `Nat`, where the arithmetic of an assignment is done.

The order is linear, which the sort of collisions and the search for a highest
opcode rest on. Packing can be undone as long as the class index fits its 29
bits; past them two indices fall on one opcode, so the bound is asked for on
both sides. Within it no word is left out, and words are in the order of their
parts, the class index first.

## Theorems

* `Opcode.eq_of_toNat`: Opcodes of one number are one.
* `Opcode.le_iff`, `Opcode.lt_iff`: The order is that of the numbers.
* `Opcode.highest?_perm`: The highest opcode of a list does not depend on its order.
* `Opcode.bitLength_mono`: A higher opcode takes no fewer bits.
* `Opcode.bitLength_le_iff`: The bits an opcode takes are the fewest that hold it.
* `Opcode.isLeast_bitLength`: The length of an opcode is the least width it fits in.
* `Opcode.toNat_pack`: The number that packing makes.
* `Opcode.bucketSet_pack`: The buckets of a packed opcode.
* `Opcode.toNat_classIndex_pack`: The class index of a packed opcode, less the
  bits that did not fit.
* `Opcode.pack_inj`: A class index that fits and a bucket set are recovered together.
* `Opcode.pack_classIndex_bucketSet`: A word is recovered from its parts.
* `Opcode.bijOn_pack`: Every word has parts, and only one class index that fits.
* `Opcode.pack_lt_pack_iff`: Opcodes ascend by class index, and then by bucket set.
* `Opcode.pack_is_ordered_bijection`: Packing, what it loses and what it keeps.
-/

namespace OpcodeBuckets

namespace Opcode

theorem eq_of_toNat {a b : Opcode} (h : a.value.toNat = b.value.toNat) : a = b := by
  obtain ⟨a⟩ := a
  obtain ⟨b⟩ := b
  exact congrArg Opcode.mk (UInt32.toNat_inj.mp h)

theorem le_iff {a b : Opcode} : a ≤ b ↔ a.value.toNat ≤ b.value.toNat :=
  UInt32.le_iff_toNat_le

theorem lt_iff {a b : Opcode} : a < b ↔ a.value.toNat < b.value.toNat :=
  UInt32.lt_iff_toNat_lt

instance : Std.IsLinearOrder Opcode where
  le_refl a := le_iff.mpr (Nat.le_refl a.value.toNat)
  le_trans a b c hab hbc := le_iff.mpr (Nat.le_trans (le_iff.mp hab) (le_iff.mp hbc))
  le_antisymm a b hab hba := eq_of_toNat (Nat.le_antisymm (le_iff.mp hab) (le_iff.mp hba))
  le_total a b := by
    rw [le_iff, le_iff]
    exact Nat.le_total a.value.toNat b.value.toNat

theorem max_def (a b : Opcode) : max a b = if a ≤ b then b else a :=
  rfl

instance : Std.LawfulOrderMax Opcode :=
  .of_max_le_iff
    (fun a b c => by
      rw [max_def]
      by_cases hab : a ≤ b
      · rw [if_pos hab]
        exact ⟨fun h => ⟨Std.le_trans hab h, h⟩, And.right⟩
      · rw [if_neg hab]
        exact ⟨fun h => ⟨h, Std.le_trans (Std.le_of_not_ge hab) h⟩, And.left⟩)
    (fun a b => by
      rw [max_def]
      by_cases hab : a ≤ b
      · rw [if_pos hab]
        exact Or.inr rfl
      · rw [if_neg hab]
        exact Or.inl rfl)

/-- The highest opcode is a member that no other exceeds, which says nothing of
    where in the list it stands. -/
theorem highest?_perm {opcodes others : List Opcode} (h : opcodes.Perm others) :
    highest? opcodes = highest? others := by
  rcases hhighest : highest? opcodes with _ | opcode
  · rw [highest?, List.max?_eq_none_iff] at hhighest
    rw [hhighest] at h
    rw [highest?, ← h.nil_eq, List.max?_nil]
  · rw [highest?, List.max?_eq_some_iff] at hhighest
    rw [highest?, eq_comm, List.max?_eq_some_iff]
    exact ⟨h.mem_iff.mp hhighest.1, fun other hother => hhighest.2 other (h.mem_iff.mpr hother)⟩

theorem bitLength_eq (opcode : Opcode) : opcode.bitLength = opcode.value.toNat.log2 + 1 := by
  rw [bitLength]
  by_cases hzero : opcode.value = 0
  · rw [if_pos hzero, hzero]
    rfl
  · rw [if_neg hzero]

theorem bitLength_mono {a b : Opcode} (h : a ≤ b) : a.bitLength ≤ b.bitLength := by
  rw [bitLength_eq, bitLength_eq, Nat.log2_eq_log_two, Nat.log2_eq_log_two]
  exact Nat.succ_le_succ (Nat.log_mono_right (le_iff.mp h))

/-- The bits it takes are the fewest that hold the opcode, of one at least. -/
theorem bitLength_le_iff {width : Nat} (hwidth : 1 ≤ width) (opcode : Opcode) :
    opcode.bitLength ≤ width ↔ opcode.value.toNat < 2 ^ width := by
  rw [bitLength_eq, Nat.succ_le_iff]
  by_cases hzero : opcode.value.toNat = 0
  · rw [hzero, Nat.log2_zero]
    exact iff_of_true hwidth (Nat.two_pow_pos width)
  · exact Nat.log2_lt hzero

theorem bitLength_pos (opcode : Opcode) : 1 ≤ opcode.bitLength := by
  rw [bitLength_eq]
  omega

theorem toNat_lt_of_bitLength_le {opcode : Opcode} {width : Nat} (h : opcode.bitLength ≤ width) :
    opcode.value.toNat < 2 ^ width := by
  have hpos := opcode.bitLength_pos
  exact (bitLength_le_iff (by omega) opcode).mp h

/-- The length of an opcode is the least width it fits in, zero taking one bit as well. -/
theorem isLeast_bitLength (opcode : Opcode) :
    IsLeast {width | 1 ≤ width ∧ opcode.value.toNat < 2 ^ width} opcode.bitLength := by
  refine ⟨⟨opcode.bitLength_pos, toNat_lt_of_bitLength_le (Nat.le_refl _)⟩, ?_⟩
  intro width h
  exact (bitLength_le_iff h.1 opcode).mpr h.2

theorem toNat_pack (classIndex : UInt32) (buckets : BucketSet) :
    (pack classIndex buckets).value.toNat =
      classIndex.toNat % 2 ^ 29 * 8 + buckets.bits.toNat := by
  have hbits : buckets.bits.toNat < 2 ^ 3 := buckets.bits.isLt
  have hthree : (3 : UInt32).toNat % 32 = 3 := rfl
  rw [pack, UInt32.toNat_or, UInt32.toNat_shiftLeft, BucketSet.toNat_toUInt32, hthree]
  -- The index and the buckets occupy different bits, so joining them is adding them.
  rw [show (classIndex.toNat <<< 3) % 2 ^ 32 = (classIndex.toNat % 2 ^ 29) <<< 3 by
    simp only [Nat.shiftLeft_eq]; omega]
  rw [← Nat.shiftLeft_add_eq_or_of_lt hbits, Nat.shiftLeft_eq]

theorem toNat_classIndex (opcode : Opcode) :
    opcode.classIndex.toNat = opcode.value.toNat / 8 := by
  rw [classIndex, UInt32.toNat_shiftRight, Nat.shiftRight_eq_div_pow]
  rfl

theorem toNat_bits_bucketSet (opcode : Opcode) :
    opcode.bucketSet.bits.toNat = opcode.value.toNat % 8 := by
  have hmask : BucketSet.mask.toNat = 2 ^ 3 - 1 := rfl
  rw [bucketSet, BucketSet.toNat_bits_truncate, UInt32.toNat_and, hmask,
    Nat.and_two_pow_sub_one_eq_mod]
  omega

theorem bucketSet_pack (classIndex : UInt32) (buckets : BucketSet) :
    (pack classIndex buckets).bucketSet = buckets := by
  have hbits : buckets.bits.toNat < 8 := buckets.bits.isLt
  apply BucketSet.eq_of_toNat_bits
  rw [toNat_bits_bucketSet, toNat_pack]
  omega

theorem toNat_classIndex_pack (classIndex : UInt32) (buckets : BucketSet) :
    (pack classIndex buckets).classIndex.toNat = classIndex.toNat % 2 ^ 29 := by
  have hbits : buckets.bits.toNat < 8 := buckets.bits.isLt
  rw [toNat_classIndex, toNat_pack]
  omega

/-- A class index that fits and a bucket set are recovered together. -/
theorem pack_inj {i j : UInt32} {a b : BucketSet} (hi : i.toNat < 2 ^ 29)
    (hj : j.toNat < 2 ^ 29) : pack i a = pack j b ↔ i = j ∧ a = b := by
  constructor
  · intro h
    -- Both parts are read back out of the opcode, the index whole because it fits.
    have hindex := congrArg (fun opcode => opcode.classIndex.toNat) h
    have hbuckets := congrArg bucketSet h
    simp only [toNat_classIndex_pack, Nat.mod_eq_of_lt hi, Nat.mod_eq_of_lt hj] at hindex
    rw [bucketSet_pack, bucketSet_pack] at hbuckets
    exact ⟨UInt32.toNat_inj.mp hindex, hbuckets⟩
  · rintro ⟨rfl, rfl⟩
    rfl

/-- Past its bits a class index does not come back, since what is read is below them. -/
theorem classIndex_pack_eq_iff {classIndex : UInt32} {buckets : BucketSet} :
    (pack classIndex buckets).classIndex = classIndex ↔ classIndex.toNat < 2 ^ 29 := by
  rw [← UInt32.toNat_inj, toNat_classIndex_pack]
  constructor
  · intro h
    rw [← h]
    exact Nat.mod_lt _ (Nat.two_pow_pos 29)
  · exact Nat.mod_eq_of_lt

theorem toNat_classIndex_lt (opcode : Opcode) : opcode.classIndex.toNat < 2 ^ 29 := by
  have hword : opcode.value.toNat < 2 ^ 32 := opcode.value.toNat_lt
  rw [toNat_classIndex]
  omega

/-- A word is recovered from the parts that are read out of it, whatever the word. -/
theorem pack_classIndex_bucketSet (opcode : Opcode) :
    pack opcode.classIndex opcode.bucketSet = opcode := by
  apply eq_of_toNat
  rw [toNat_pack, Nat.mod_eq_of_lt opcode.toNat_classIndex_lt, toNat_classIndex,
    toNat_bits_bucketSet]
  exact Nat.div_add_mod' opcode.value.toNat 8

/-- Every word has parts, and only one class index that fits. -/
theorem bijOn_pack :
    Set.BijOn (fun parts : UInt32 × BucketSet => pack parts.1 parts.2)
      {parts | parts.1.toNat < 2 ^ 29} Set.univ := by
  refine ⟨Set.mapsTo_univ _ _, ?_, ?_⟩
  · intro parts hparts others hothers h
    exact Prod.ext_iff.mpr ((pack_inj hparts hothers).mp h)
  · intro opcode _
    exact ⟨(opcode.classIndex, opcode.bucketSet), opcode.toNat_classIndex_lt,
      opcode.pack_classIndex_bucketSet⟩

/-- Opcodes ascend by class index, and by bucket set where the index is one. The index counts
    in eights, which no bucket set makes up for. -/
theorem pack_lt_pack_iff {i j : UInt32} {a b : BucketSet} (hi : i.toNat < 2 ^ 29)
    (hj : j.toNat < 2 ^ 29) :
    pack i a < pack j b ↔ Prod.Lex (· < ·) (· < ·) (i, a.toUInt32) (j, b.toUInt32) := by
  have ha : a.bits.toNat < 8 := a.bits.isLt
  have hb : b.bits.toNat < 8 := b.bits.isLt
  have hlex : Prod.Lex (· < ·) (· < ·) (i, a.toUInt32) (j, b.toUInt32) ↔
      i.toNat < j.toNat ∨ i.toNat = j.toNat ∧ a.bits.toNat < b.bits.toNat := by
    rw [Prod.lex_def, UInt32.lt_iff_toNat_lt, UInt32.lt_iff_toNat_lt, ← UInt32.toNat_inj,
      BucketSet.toNat_toUInt32, BucketSet.toNat_toUInt32]
  rw [hlex, lt_iff, toNat_pack, toNat_pack, Nat.mod_eq_of_lt hi, Nat.mod_eq_of_lt hj]
  omega

/-- Packing, what it loses and what it keeps. The buckets are always read back, and of the
    class index its lowest 29 bits, which are all of it exactly when it fits in them. The parts
    of any word make up that word again, so that with the indices that fit each word is packed
    once, and the order of words is the lexicographic order of those parts. -/
theorem pack_is_ordered_bijection :
    (∀ (classIndex : UInt32) (buckets : BucketSet),
      (pack classIndex buckets).bucketSet = buckets ∧
      (pack classIndex buckets).classIndex.toNat = classIndex.toNat % 2 ^ 29 ∧
      ((pack classIndex buckets).classIndex = classIndex ↔ classIndex.toNat < 2 ^ 29)) ∧
    (∀ word : UInt32, pack (⟨word⟩ : Opcode).classIndex (⟨word⟩ : Opcode).bucketSet = ⟨word⟩) ∧
    Set.BijOn (fun parts : UInt32 × BucketSet => pack parts.1 parts.2)
      {parts | parts.1.toNat < 2 ^ 29} Set.univ ∧
    ∀ (i j : UInt32) (a b : BucketSet), i.toNat < 2 ^ 29 → j.toNat < 2 ^ 29 →
      (pack i a < pack j b ↔ Prod.Lex (· < ·) (· < ·) (i, a.toUInt32) (j, b.toUInt32)) := by
  refine ⟨?_, fun word => pack_classIndex_bucketSet ⟨word⟩, bijOn_pack, ?_⟩
  · intro classIndex buckets
    exact ⟨bucketSet_pack classIndex buckets, toNat_classIndex_pack classIndex buckets,
      classIndex_pack_eq_iff⟩
  · intro i j a b hi hj
    exact pack_lt_pack_iff hi hj

/-- At the highest index that fits, no bucket at all still comes after all buckets at the one
    before it. -/
theorem pack_is_ordered_bijection_topmost :
    let before : UInt32 := 536870910
    let topmost : UInt32 := 536870911
    before.toNat < 2 ^ 29 ∧ topmost.toNat < 2 ^ 29 ∧ pack before .full < pack topmost ∅ := by
  intro before topmost
  have hbefore : before.toNat < 2 ^ 29 := by decide
  have htopmost : topmost.toNat < 2 ^ 29 := by decide
  have hlex : Prod.Lex (· < ·) (· < ·) (before, BucketSet.full.toUInt32)
      (topmost, (∅ : BucketSet).toUInt32) := .left _ _ (by decide)
  exact ⟨hbefore, htopmost,
    (pack_is_ordered_bijection.2.2.2 before topmost .full ∅ hbefore htopmost).mpr hlex⟩

end Opcode

end OpcodeBuckets
