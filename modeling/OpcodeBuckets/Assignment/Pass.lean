import OpcodeBuckets.Assignment.Rank

/-!
# Opcodes in One Pass

The opcodes of a whole instruction list, assigned while walking it once.

The walk goes by ascending ordinal and keeps one cursor per class. A cursor
knows how many instructions of its class it has seen and what it handed out
last. A new instruction receives the number seen so far. A repeat receives what
its first copy received, yet still counts towards the instructions behind it,
which is how it comes to the same index as counting classmates does.

What the walk did is kept whole: a step for each listed instruction and the
cursors at the end. Whether the opcodes are distinct is a later question, so a
list that is refused for its opcodes has a pass all the same.

## Main definitions

* `ClassCursor`: What the walk remembers of one class.
* `Classes`: The cursors, the classes in the order they first arrive.
* `Step`: What the walk did at one instruction.
* `Pass`: A finished walk.
* `Pass.ofInstructionSet`: The walk over an instruction set.
* `Step.traceLine`: A step as one line for a reader.

## Theorems

* `Classes.lookup_set_self`: The cursor of a class after it was set.
* `Classes.lookup_set_of_ne`: Setting a cursor leaves the other classes alone.
-/

namespace OpcodeBuckets

namespace Assignment

/-- What the walk remembers of one class. -/
structure ClassCursor where
  /-- The number of instructions of the class so far, repeats counted. -/
  seen : UInt32 := 0
  /-- The instruction that was numbered last, with its index. -/
  last : Option (Instruction × UInt32) := none
  deriving DecidableEq, Repr

namespace ClassCursor

/-- The index the next instruction of the class receives. -/
def indexFor (cursor : ClassCursor) (instruction : Instruction) : UInt32 :=
  match cursor.last with
  | some (previous, index) => if previous = instruction then index else cursor.seen
  | none => cursor.seen

/-- The cursor after an instruction of its class. -/
def advance (cursor : ClassCursor) (instruction : Instruction) : ClassCursor where
  seen := cursor.seen + 1
  last := some (instruction, cursor.indexFor instruction)

end ClassCursor

/-- The cursors of the classes met so far, in the order the classes arrived. -/
abbrev Classes := List (BucketSet × ClassCursor)

namespace Classes

/-- The cursor of a class, which is fresh when the class was not met yet. -/
def cursor (classes : Classes) (buckets : BucketSet) : ClassCursor :=
  (classes.lookup buckets).getD {}

/-- Sets the cursor of a class; a class that was not met yet goes to the end. -/
def set (buckets : BucketSet) (cursor : ClassCursor) : Classes → Classes
  | [] => [(buckets, cursor)]
  | (other, kept) :: rest =>
    if other = buckets then (other, cursor) :: rest
    else (other, kept) :: set buckets cursor rest

@[simp] theorem lookup_set_self (buckets : BucketSet) (cursor : ClassCursor)
    (classes : Classes) : (set buckets cursor classes).lookup buckets = some cursor := by
  induction classes with
  | nil => simp [set]
  | cons head rest ih =>
    obtain ⟨other, kept⟩ := head
    by_cases h : other = buckets
    · simp [set, h]
    · have hne : (buckets == other) = false := by simpa using Ne.symm h
      simp [set, h, List.lookup_cons, hne, ih]

theorem lookup_set_of_ne {a b : BucketSet} (h : a ≠ b) (cursor : ClassCursor)
    (classes : Classes) : (set a cursor classes).lookup b = classes.lookup b := by
  have hba : (b == a) = false := by simpa using Ne.symm h
  induction classes with
  | nil => simp [set, List.lookup_cons, hba]
  | cons head rest ih =>
    obtain ⟨other, kept⟩ := head
    by_cases hother : other = a
    · simp [set, hother, List.lookup_cons, hba]
    · by_cases hb : b = other
      · simp [set, hother, hb]
      · have hne : (b == other) = false := by simpa using hb
        simp [set, hother, List.lookup_cons, hne, ih]

end Classes

/-- What the walk did at one instruction. -/
structure Step where
  /-- The instruction the walk came to. -/
  instruction : Instruction
  /-- The class of the instruction. -/
  buckets : BucketSet
  /-- The index the instruction received. -/
  classIndex : UInt32
  deriving DecidableEq, Repr

namespace Step

/-- The opcode the instruction received. -/
def opcode (step : Step) : Opcode :=
  .pack step.classIndex step.buckets

/-- The step as one line: mnemonic, class index, opcode and buckets. -/
def traceLine (step : Step) : String :=
  Text.padRight 16 step.instruction.mnemonic ++
    " #" ++ Text.padRight 3 step.classIndex.toNat.repr ++
    " " ++ step.opcode.decimalColumn 4 ++
    "  [" ++ step.buckets.text ++ "]"

end Step

/-- A finished walk. -/
structure Pass where
  /-- What the walk did, by ascending ordinal. -/
  steps : List Step
  /-- The cursors at the end of the walk. -/
  classes : Classes
  deriving DecidableEq, Repr

namespace Pass

/-- Walks a list of instructions from the given cursors. -/
def walk (bucketSet : Instruction → BucketSet) (classes : Classes) : List Instruction → Pass
  | [] => ⟨[], classes⟩
  | instruction :: rest =>
    let buckets := bucketSet instruction
    let cursor := classes.cursor buckets
    let later := walk bucketSet (classes.set buckets (cursor.advance instruction)) rest
    ⟨⟨instruction, buckets, cursor.indexFor instruction⟩ :: later.steps, later.classes⟩

/-- The walk over an instruction set, by ascending ordinal. -/
def ofInstructionSet (set : InstructionSet) : Pass :=
  walk set.bucketSet [] (Instruction.sorted set.instructions)

/-- The instructions of the walk with the opcodes they received. -/
def entries (pass : Pass) : List (Instruction × Opcode) :=
  pass.steps.map fun step => (step.instruction, step.opcode)

/-- The walk as lines for a reader, one for each step. -/
def trace (pass : Pass) : List String :=
  pass.steps.map Step.traceLine

end Pass

end Assignment

end OpcodeBuckets
