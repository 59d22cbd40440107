/-!
# Instructions

The instructions a stack machine can execute, each with a fixed ordinal and a
mnemonic.

The ordinal is a property of the instruction and never of a list it appears
in. Everything that follows sorts and compares by ordinal, so two lists of the
same instructions are numbered alike however they are written down.

`all` is the one table: it fixes the ordinals by position, and `ofOrdinal?` and
`ofMnemonic?` both search it. `ordinal` is read off the constructor instead,
and `ofOrdinal?_ordinal` says that the two agree, which is what makes the
ordinal identify its instruction.

## Main definitions

* `Instruction`: The instructions, in ordinal order.
* `Instruction.all`: Every instruction, in ordinal order.
* `Instruction.ordinal`: The place of an instruction in that order.
* `Instruction.mnemonic`: The name an instruction is written by.
* `Instruction.ofOrdinal?`, `Instruction.ofMnemonic?`: The two ways back.
* `Instruction.sorted`: A list of instructions by ascending ordinal.
* `UnknownMnemonic`: The refusal of a text that names no instruction.

## Theorems

* `Instruction.ofOrdinal?_ordinal`: The ordinal leads back to its instruction.
* `Instruction.ofMnemonic?_mnemonic`: So does the mnemonic.
* `Instruction.ordinal_inj`: Instructions of one ordinal are one.
* `Instruction.sorted_perm`, `Instruction.pairwise_sorted`: Sorting keeps what a
  list holds and puts it in order.
* `Instruction.sorted_eq_of_perm`: There is one way to put it in order.
-/

namespace OpcodeBuckets

/-- An instruction of the stack machine. -/
inductive Instruction where
  -- Control flow and stack manipulation.
  | halt
  | pop
  | push
  | divine
  | dup
  | swap
  | nop
  | skiz
  | call
  | ret
  | recurse
  | assert
  -- Memory access.
  | readMem
  | writeMem
  -- Hashing.
  | hash
  | divineSibling
  | assertVector
  -- Base field arithmetic.
  | add
  | mul
  | invert
  | eq
  -- Operations on 32-bit words.
  | split
  | lt
  | and
  | xor
  | log2Floor
  | pow
  | div
  -- Extension field arithmetic.
  | xxAdd
  | xxMul
  | xInvert
  | xbMul
  -- Input and output.
  | readIo
  | writeIo
  deriving DecidableEq, Repr, Inhabited

/-- A text that names no instruction. -/
structure UnknownMnemonic where
  /-- The text as it was given. -/
  text : String
  deriving DecidableEq, Repr

/-- The wording of the refusal. -/
def UnknownMnemonic.message (refusal : UnknownMnemonic) : String :=
  "unknown instruction `" ++ refusal.text ++ "`"

namespace Instruction

/-- Every instruction, in ordinal order. -/
def all : List Instruction :=
  [.halt, .pop, .push, .divine, .dup, .swap, .nop, .skiz, .call, .ret, .recurse, .assert,
    .readMem, .writeMem, .hash, .divineSibling, .assertVector, .add, .mul, .invert, .eq,
    .split, .lt, .and, .xor, .log2Floor, .pow, .div, .xxAdd, .xxMul, .xInvert, .xbMul,
    .readIo, .writeIo]

/-- The place of an instruction in ordinal order, counted from zero. -/
def ordinal (instruction : Instruction) : Nat :=
  instruction.ctorIdx

/-- The name an instruction is written by. -/
def mnemonic : Instruction → String
  | .halt => "halt"
  | .pop => "pop"
  | .push => "push"
  | .divine => "divine"
  | .dup => "dup"
  | .swap => "swap"
  | .nop => "nop"
  | .skiz => "skiz"
  | .call => "call"
  | .ret => "return"
  | .recurse => "recurse"
  | .assert => "assert"
  | .readMem => "read_mem"
  | .writeMem => "write_mem"
  | .hash => "hash"
  | .divineSibling => "divine_sibling"
  | .assertVector => "assert_vector"
  | .add => "add"
  | .mul => "mul"
  | .invert => "invert"
  | .eq => "eq"
  | .split => "split"
  | .lt => "lt"
  | .and => "and"
  | .xor => "xor"
  | .log2Floor => "log_2_floor"
  | .pow => "pow"
  | .div => "div"
  | .xxAdd => "xxadd"
  | .xxMul => "xxmul"
  | .xInvert => "xinvert"
  | .xbMul => "xbmul"
  | .readIo => "read_io"
  | .writeIo => "write_io"

/-- The name of the instruction in camel case. -/
def label : Instruction → String
  | .halt => "Halt"
  | .pop => "Pop"
  | .push => "Push"
  | .divine => "Divine"
  | .dup => "Dup"
  | .swap => "Swap"
  | .nop => "Nop"
  | .skiz => "Skiz"
  | .call => "Call"
  | .ret => "Return"
  | .recurse => "Recurse"
  | .assert => "Assert"
  | .readMem => "ReadMem"
  | .writeMem => "WriteMem"
  | .hash => "Hash"
  | .divineSibling => "DivineSibling"
  | .assertVector => "AssertVector"
  | .add => "Add"
  | .mul => "Mul"
  | .invert => "Invert"
  | .eq => "Eq"
  | .split => "Split"
  | .lt => "Lt"
  | .and => "And"
  | .xor => "Xor"
  | .log2Floor => "Log2Floor"
  | .pow => "Pow"
  | .div => "Div"
  | .xxAdd => "XxAdd"
  | .xxMul => "XxMul"
  | .xInvert => "XInvert"
  | .xbMul => "XbMul"
  | .readIo => "ReadIo"
  | .writeIo => "WriteIo"

/-- The instruction at a place in ordinal order. -/
def ofOrdinal? (n : Nat) : Option Instruction :=
  all[n]?

/-- The instruction a text names. The match is exact, letter case included. -/
def ofMnemonic? (text : String) : Option Instruction :=
  all.find? fun instruction => instruction.mnemonic == text

/-- The instruction a text names, or the refusal of that text. -/
def ofMnemonic (text : String) : Except UnknownMnemonic Instruction :=
  match ofMnemonic? text with
  | some instruction => .ok instruction
  | none => .error ⟨text⟩

/-- The ordinal leads back to its instruction. -/
theorem ofOrdinal?_ordinal (i : Instruction) : ofOrdinal? i.ordinal = some i := by
  cases i <;> rfl

/-- The mnemonic leads back to its instruction. Mnemonics are therefore distinct. -/
theorem ofMnemonic?_mnemonic (i : Instruction) : ofMnemonic? i.mnemonic = some i := by
  cases i <;> decide

/-- Instructions of one ordinal are one. -/
theorem ordinal_inj {i j : Instruction} : i.ordinal = j.ordinal ↔ i = j := by
  constructor
  · intro h
    have := ofOrdinal?_ordinal i
    rw [h, ofOrdinal?_ordinal j, Option.some.injEq] at this
    exact this.symm
  · exact congrArg ordinal

/-- Instructions are ordered by ordinal. -/
instance : Ord Instruction where
  compare i j := compare i.ordinal j.ordinal

/-- Instructions are ordered by ordinal. -/
instance : LT Instruction where
  lt i j := i.ordinal < j.ordinal

/-- Instructions are ordered by ordinal. -/
instance : LE Instruction where
  le i j := i.ordinal ≤ j.ordinal

instance (i j : Instruction) : Decidable (i < j) :=
  inferInstanceAs (Decidable (i.ordinal < j.ordinal))

instance (i j : Instruction) : Decidable (i ≤ j) :=
  inferInstanceAs (Decidable (i.ordinal ≤ j.ordinal))

/-- The instructions of a list by ascending ordinal, repeats kept. -/
def sorted (instructions : List Instruction) : List Instruction :=
  instructions.mergeSort fun i j => decide (i ≤ j)

/-- Sorting keeps what a list holds, repeats included. -/
theorem sorted_perm (instructions : List Instruction) :
    (sorted instructions).Perm instructions :=
  List.mergeSort_perm _ _

/-- Sorting puts the ordinals in ascending order. -/
theorem pairwise_sorted (instructions : List Instruction) :
    (sorted instructions).Pairwise (· ≤ ·) := by
  have htrans : ∀ i j k : Instruction, decide (i ≤ j) = true → decide (j ≤ k) = true →
      decide (i ≤ k) = true := by
    intro i j k hij hjk
    rw [decide_eq_true_eq] at hij hjk ⊢
    exact Nat.le_trans hij hjk
  have htotal : ∀ i j : Instruction, (decide (i ≤ j) || decide (j ≤ i)) = true := by
    intro i j
    rw [Bool.or_eq_true, decide_eq_true_eq, decide_eq_true_eq]
    exact Nat.le_total i.ordinal j.ordinal
  have hsorted := List.pairwise_mergeSort htrans htotal instructions
  simpa only [sorted, decide_eq_true_eq] using hsorted

/-- There is one way to put a list in ascending order. -/
theorem sorted_eq_of_perm {instructions listed : List Instruction}
    (hperm : instructions.Perm listed) (hsorted : listed.Pairwise (· ≤ ·)) :
    sorted instructions = listed := by
  refine ((sorted_perm instructions).trans hperm).eq_of_pairwise (fun i j _ _ hij hji => ?_)
    (pairwise_sorted instructions) hsorted
  exact ordinal_inj.mp (Nat.le_antisymm hij hji)

end Instruction

end OpcodeBuckets
