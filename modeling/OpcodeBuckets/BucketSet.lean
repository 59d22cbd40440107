import OpcodeBuckets.Bucket

/-!
# Sets of Buckets

There are three buckets, so a set of them is three bits and nothing else.
`BucketSet` wraps a bit vector of that width: no value lies outside the set
algebra, and the complement of a set stays within the three bits by type.

Wider words meet bucket sets in two ways. `BucketSet.ofBits?` refuses a word
with a bit above the lowest three, and `BucketSet.truncate` drops such bits.

## Main definitions

* `BucketSet`: A set of buckets.
* `BucketSet.contains`: Whether a bucket is in a set.
* `BucketSet.toUInt32`: The number the bits of a set spell.
* `BucketSet.ofBits?`, `BucketSet.truncate`: Sets from wider words.
* `BucketSet.buckets`: The members of a set by ascending index.
* `BucketSet.text`: How a set is written for a reader.

## Theorems

* `BucketSet.ext_contains`: Sets with the same buckets are one.
* `BucketSet.contains_insert`: What one more bucket changes.
* `BucketSet.mem_buckets`: The members of a set are what it contains.
* `BucketSet.toNat_bits_truncate`: Truncating a word keeps its residue by eight.
* `BucketSet.truncate_toUInt32`: A set can be read back from its number.
-/

namespace OpcodeBuckets

/-- A set of buckets: bit `i` says whether bucket `i` is in the set. -/
structure BucketSet where
  /-- The bits of the set, lowest index first. -/
  bits : BitVec 3
  deriving DecidableEq, Repr

namespace BucketSet

instance : EmptyCollection BucketSet where
  emptyCollection := ⟨0⟩

/-- The set of all buckets. -/
def full : BucketSet :=
  ⟨BitVec.allOnes 3⟩

/-- The set of one bucket. -/
def ofBucket (bucket : Bucket) : BucketSet :=
  ⟨BitVec.twoPow 3 bucket.index⟩

/-- Whether a bucket is in the set. -/
def contains (set : BucketSet) (bucket : Bucket) : Bool :=
  set.bits.getLsbD bucket.index

instance : Membership Bucket BucketSet where
  mem set bucket := set.contains bucket = true

instance (set : BucketSet) (bucket : Bucket) : Decidable (bucket ∈ set) :=
  inferInstanceAs (Decidable (set.contains bucket = true))

instance : Union BucketSet where
  union a b := ⟨a.bits ||| b.bits⟩

instance : Inter BucketSet where
  inter a b := ⟨a.bits &&& b.bits⟩

instance : SDiff BucketSet where
  sdiff a b := ⟨a.bits &&& ~~~b.bits⟩

/-- The buckets in exactly one of two sets. -/
def symmetricDifference (a b : BucketSet) : BucketSet :=
  ⟨a.bits ^^^ b.bits⟩

/-- The buckets that are not in the set. -/
def complement (set : BucketSet) : BucketSet :=
  ⟨~~~set.bits⟩

/-- Whether every bucket of `b` is in `a`. -/
def containsAll (a b : BucketSet) : Bool :=
  a ∩ b == b

/-- Whether some bucket is in both sets. -/
def intersects (a b : BucketSet) : Bool :=
  a ∩ b != ∅

/-- The set with one more bucket. -/
def insert (set : BucketSet) (bucket : Bucket) : BucketSet :=
  set ∪ ofBucket bucket

/-- The members of the set by ascending index. -/
def buckets (set : BucketSet) : List Bucket :=
  Bucket.all.filter set.contains

/-- The number the bits of the set spell. -/
def toUInt32 (set : BucketSet) : UInt32 :=
  ⟨set.bits.setWidth 32⟩

/-- The word that selects the bits of all buckets. -/
def mask : UInt32 :=
  full.toUInt32

/-- The set the lowest three bits of a word spell; the other bits are dropped. -/
def truncate (word : UInt32) : BucketSet :=
  ⟨word.toBitVec.setWidth 3⟩

/-- The set a word spells, unless the word has a bit that no bucket owns. -/
def ofBits? (word : UInt32) : Option BucketSet :=
  if (truncate word).toUInt32 = word then some (truncate word) else none

/-- Sets with the same buckets are one. -/
theorem ext_contains {a b : BucketSet} (h : ∀ bucket, a.contains bucket = b.contains bucket) :
    a = b := by
  obtain ⟨a⟩ := a
  obtain ⟨b⟩ := b
  congr 1
  apply BitVec.eq_of_getLsbD_eq
  intro i hi
  match i, hi with
  | 0, _ => exact h .hasArg
  | 1, _ => exact h .shrinkStack
  | 2, _ => exact h .u32

/-- Sets whose bits spell one number are one. -/
theorem eq_of_toNat_bits {a b : BucketSet} (h : a.bits.toNat = b.bits.toNat) : a = b := by
  obtain ⟨a⟩ := a
  obtain ⟨b⟩ := b
  exact congrArg BucketSet.mk (BitVec.eq_of_toNat_eq h)

@[simp] theorem contains_empty (bucket : Bucket) : (∅ : BucketSet).contains bucket = false := by
  cases bucket <;> rfl

@[simp] theorem contains_ofBucket (a b : Bucket) :
    (ofBucket a).contains b = decide (a = b) := by
  cases a <;> cases b <;> rfl

@[simp] theorem contains_union (a b : BucketSet) (bucket : Bucket) :
    (a ∪ b).contains bucket = (a.contains bucket || b.contains bucket) :=
  BitVec.getLsbD_or

@[simp] theorem contains_insert (set : BucketSet) (a b : Bucket) :
    (set.insert a).contains b = (set.contains b || decide (a = b)) := by
  rw [insert, contains_union, contains_ofBucket]

@[simp] theorem mem_buckets {set : BucketSet} {bucket : Bucket} :
    bucket ∈ set.buckets ↔ set.contains bucket = true := by
  simp only [buckets, List.mem_filter, Bucket.mem_all, true_and]

theorem toNat_toUInt32 (set : BucketSet) : set.toUInt32.toNat = set.bits.toNat := by
  simp only [toUInt32, UInt32.toNat, BitVec.toNat_setWidth]
  omega

theorem toNat_bits_truncate (word : UInt32) : (truncate word).bits.toNat = word.toNat % 8 := by
  simp only [truncate, BitVec.toNat_setWidth, UInt32.toNat_toBitVec, Nat.reducePow]

/-- A set can be read back from its number. -/
theorem truncate_toUInt32 (set : BucketSet) : truncate set.toUInt32 = set := by
  apply eq_of_toNat_bits
  rw [toNat_bits_truncate, toNat_toUInt32]
  exact Nat.mod_eq_of_lt set.bits.isLt

/-- A set as a reader sees it: its bucket names, or a dash for none. -/
def text (set : BucketSet) : String :=
  if set = ∅ then "-" else " | ".intercalate (set.buckets.map Bucket.name)

/-- A set as a union of constants. -/
def constantText (set : BucketSet) : String :=
  if set = ∅ then "(empty)" else " | ".intercalate (set.buckets.map Bucket.constantName)

end BucketSet

end OpcodeBuckets
