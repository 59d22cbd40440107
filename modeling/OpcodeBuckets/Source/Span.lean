/-!
# Spans

Stretches of a source text, counted in bytes of its UTF-8 form.

A span runs from its start up to, and not including, its stop, and never
backwards: the proof that it does not is part of the span. Bounds from outside
go through `ofBounds?`, which has no span for bounds in the wrong order.

Offsets are natural numbers and have no largest one. As words of 32 bits they would
be the same offsets in every source shorter than `2 ^ 32` bytes, where no span of a
token reaches beyond what a word holds: `Token.toNat_ofNat_of_mem_scan`. A longer
source, whose offsets a word would cut, is not held to that.

## Main definitions

* `Span`: A stretch of bytes.
* `Span.ofBounds?`: The span between two offsets, if they are in order.
* `Span.ofSize`: The span of a given size from an offset on.
* `Span.shift`: A span moved towards the end of a text.
-/

namespace OpcodeBuckets

namespace Source

/-- A stretch of a source text, in bytes. Its offsets are not bounded by a word. -/
structure Span where
  /-- The offset of the first byte. -/
  start : Nat
  /-- The offset behind the last byte. -/
  stop : Nat
  /-- A span does not run backwards. -/
  start_le_stop : start ≤ stop
  deriving DecidableEq, Repr

namespace Span

/-- The span between two offsets, if they are in order. -/
def ofBounds? (start stop : Nat) : Option Span :=
  if h : start ≤ stop then some ⟨start, stop, h⟩ else none

/-- The span of `size` bytes from an offset on. -/
def ofSize (start size : Nat) : Span :=
  ⟨start, start + size, Nat.le_add_right start size⟩

/-- The span `distance` bytes further on. -/
def shift (distance : Nat) (span : Span) : Span :=
  ⟨span.start + distance, span.stop + distance, Nat.add_le_add_right span.start_le_stop distance⟩

end Span

end Source

end OpcodeBuckets
