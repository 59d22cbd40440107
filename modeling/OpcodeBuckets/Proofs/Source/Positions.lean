import OpcodeBuckets.Proofs.Text.ByteRanges
import OpcodeBuckets.Source.Position
import Mathlib.Data.List.Induction
import Mathlib.Data.List.TakeWhile
import Mathlib.Data.Nat.Init

/-!
# Positions Along a Text

What lines and columns have to do with the text they count.

A position is worked out from all that stands before a byte offset: the line feeds
are counted for the line, and what is behind the last of them for the column. Read
from left to right it is a walk with one step for each character. A line feed leads
to the beginning of the next line, and every other character one column further on.
Each step leads to a later position, so the positions along a text ascend strictly
and no two offsets between its characters have the same.

The other way round, a position leads back into the text. Its line is one of those
that line feeds delimit, and when the columns in front of it are dropped from that
line, what is left is what stands behind the offset, up to the end of the line.

## Main definitions

* `Position.advance`: The position behind a character.

## Theorems

* `Position.lt_foldl_advance`: A walk over any characters leads to a later position.
* `Position.ofOffset_byteSize`: The position of an offset is where the walk comes to.
* `Position.ofOffset_lt_ofOffset`: A later offset has a later position.
* `getElem?_splitOn_count`: The line of a position, among the lines of the text.
* `not_mem_lineAt`: A line has no line feed in it.
* `drop_lineAt`: What stands behind a position in its line.
-/

namespace OpcodeBuckets

namespace Source

section LastLine

/-- Without a line feed all characters are of one line. -/
theorem forall_ne_of_not_mem {part : List Char} (h : '\n' ∉ part) :
    ∀ c ∈ part, (c != '\n') = true := by
  intro c hc
  rw [bne_iff_ne]
  exact ne_of_mem_of_not_mem hc h

theorem takeWhile_of_not_mem {part : List Char} (h : '\n' ∉ part) :
    part.takeWhile (· != '\n') = part :=
  List.takeWhile_eq_self_iff.mpr (forall_ne_of_not_mem h)

theorem lastLine_append_of_not_mem (front : List Char) {part : List Char} (h : '\n' ∉ part) :
    lastLine (front ++ part) = lastLine front ++ part := by
  have hall := forall_ne_of_not_mem (fun hmem => h (List.mem_reverse.mp hmem))
  unfold lastLine
  rw [List.reverse_append, List.takeWhile_append_of_pos hall, List.reverse_append,
    List.reverse_reverse]

theorem lastLine_of_not_mem {text : List Char} (h : '\n' ∉ text) : lastLine text = text :=
  lastLine_append_of_not_mem [] h

/-- A character that stops a run stops it before anything behind can go on with it. -/
theorem takeWhile_append_cons {p : Char → Bool} {stop : Char} (hstop : p stop = false)
    (front back : List Char) : (front ++ stop :: back).takeWhile p = front.takeWhile p := by
  induction front with
  | nil => rw [List.nil_append, List.takeWhile_cons_of_neg (by rw [hstop]; exact Bool.false_ne_true),
      List.takeWhile_nil]
  | cons c rest ih =>
      by_cases hc : p c = true
      · rw [List.cons_append, List.takeWhile_cons_of_pos hc, List.takeWhile_cons_of_pos hc, ih]
      · rw [List.cons_append, List.takeWhile_cons_of_neg hc, List.takeWhile_cons_of_neg hc]

/-- Whatever stands before a line feed is not in the last line. -/
theorem lastLine_append_cons (front back : List Char) :
    lastLine (front ++ '\n' :: back) = lastLine back := by
  unfold lastLine
  rw [List.reverse_append, List.reverse_cons, List.append_assoc, List.singleton_append,
    takeWhile_append_cons rfl]

end LastLine

namespace Position

/-- Positions are ordered by line, and in one line by column. -/
instance : LT Position where
  lt a b := a.line < b.line ∨ a.line = b.line ∧ a.column < b.column

instance (a b : Position) : Decidable (a < b) :=
  inferInstanceAs (Decidable (a.line < b.line ∨ a.line = b.line ∧ a.column < b.column))

/-- The position behind a character that stands at the given position. -/
def advance (position : Position) (c : Char) : Position :=
  if c = '\n' then ⟨position.line + 1, 1⟩ else ⟨position.line, position.column + 1⟩

theorem lt_iff {a b : Position} :
    a < b ↔ a.line < b.line ∨ a.line = b.line ∧ a.column < b.column :=
  Iff.rfl

theorem lt_trans {a b c : Position} (hab : a < b) (hbc : b < c) : a < c := by
  rw [lt_iff] at hab hbc ⊢
  omega

/-- One character leads to a later position. -/
theorem lt_advance (position : Position) (c : Char) : position < position.advance c := by
  unfold advance
  by_cases hc : c = '\n'
  · rw [if_pos hc, lt_iff]
    exact Or.inl (Nat.lt_succ_self position.line)
  · rw [if_neg hc, lt_iff]
    exact Or.inr ⟨rfl, Nat.lt_succ_self position.column⟩

/-- Any characters lead to a later position, by induction on them. -/
theorem lt_foldl_advance {text : List Char} (hne : text ≠ []) (position : Position) :
    position < text.foldl advance position := by
  induction text generalizing position with
  | nil => exact absurd rfl hne
  | cons c rest ih =>
      rw [List.foldl_cons]
      by_cases hrest : rest = []
      · rw [hrest, List.foldl_nil]
        exact position.lt_advance c
      · exact lt_trans (position.lt_advance c) (ih hrest (position.advance c))

/-- Where a walk from the beginning comes to. By induction on the end of the text, where the
    last step of the walk is taken. -/
theorem foldl_advance (text : List Char) :
    text.foldl advance ⟨1, 1⟩ = ⟨1 + text.count '\n', 1 + (lastLine text).length⟩ := by
  induction text using List.reverseRecOn with
  | nil => rfl
  | append_singleton front c ih =>
      rw [List.foldl_append, ih, List.foldl_cons, List.foldl_nil, List.count_append, advance]
      by_cases hc : c = '\n'
      · rw [if_pos hc, hc, lastLine_append_cons, List.count_singleton_self]
        rfl
      · have hnone : '\n' ∉ [c] := by
          rw [List.mem_singleton]
          exact fun h => hc h.symm
        rw [if_neg hc, lastLine_append_of_not_mem front hnone, List.count_eq_zero.mpr hnone,
          List.length_append, List.length_singleton, Nat.add_assoc]
        rfl

end Position

section Offsets

variable {source : String} {front rest : List Char}

/-- What stands before an offset is the front of that size. -/
theorem before_byteSize (front rest : List Char) :
    before (Text.byteSize front) (front ++ rest) = front := by
  induction front with
  | nil =>
      rw [Text.byteSize_nil, List.nil_append]
      cases rest with
      | nil => rfl
      | cons c rest => rfl
  | cons c front ih =>
      have hpos := c.utf8Size_pos
      rw [Text.byteSize_cons, List.cons_append, before, if_pos (by omega), Nat.add_sub_cancel_left,
        ih]

theorem Position.ofOffset_eq (h : source.toList = front ++ rest) :
    ofOffset source (Text.byteSize front) =
      ⟨1 + front.count '\n', 1 + (lastLine front).length⟩ := by
  rw [ofOffset, h, before_byteSize]

/-- The position of an offset is where the walk over all that is before it comes to. -/
theorem Position.ofOffset_byteSize (h : source.toList = front ++ rest) :
    ofOffset source (Text.byteSize front) = front.foldl advance ⟨1, 1⟩ := by
  rw [ofOffset_eq h, foldl_advance]

/-- A later offset has a later position: the walk to it goes on from the earlier one. -/
theorem Position.ofOffset_lt_ofOffset {part : List Char}
    (h : source.toList = front ++ part ++ rest) (hpart : part ≠ []) :
    ofOffset source (Text.byteSize front) < ofOffset source (Text.byteSize (front ++ part)) := by
  have hfront : source.toList = front ++ (part ++ rest) := by
    rw [h, List.append_assoc]
  rw [ofOffset_byteSize hfront, ofOffset_byteSize h, List.foldl_append]
  exact lt_foldl_advance hpart _

/-- Among the lines of a text the one that an offset falls into is behind as many line feeds
    as stand before the offset. By induction on the front, line by line. -/
theorem getElem?_splitOn_count (front rest : List Char) :
    ((front ++ rest).splitOn '\n')[front.count '\n']? =
      some (lastLine front ++ rest.takeWhile (· != '\n')) := by
  induction hlength : front.length using Nat.strong_induction_on generalizing front with
  | _ length ih =>
      by_cases hfeed : '\n' ∈ front
      · -- The first line is left behind, and what follows it is shorter.
        rcases List.eq_append_cons_of_mem hfeed with ⟨line, back, rfl, hline⟩
        rw [List.length_append, List.length_cons] at hlength
        have hrest := ih back.length (by omega) back rfl
        rw [List.append_assoc, List.cons_append, List.splitOn_append_cons_self_of_not_mem hline,
          List.count_append, List.count_eq_zero.mpr hline, Nat.zero_add, List.count_cons_self,
          List.getElem?_cons_succ, hrest, lastLine_append_cons]
      · -- The offset falls into the first line, which goes on up to the first line feed behind.
        rw [List.count_eq_zero.mpr hfeed, lastLine_of_not_mem hfeed]
        by_cases hlater : '\n' ∈ rest
        · rcases List.eq_append_cons_of_mem hlater with ⟨line, back, rfl, hline⟩
          rw [takeWhile_append_cons rfl, takeWhile_of_not_mem hline, ← List.append_assoc,
            List.splitOn_append_cons_self_of_not_mem (List.not_mem_append hfeed hline)]
          rfl
        · rw [takeWhile_of_not_mem hlater,
            List.splitOn_eq_singleton (List.not_mem_append hfeed hlater)]
          rfl

/-- There is no line feed in any of the lines that line feeds delimit. -/
theorem not_mem_of_mem_splitOn {text line : List Char} (h : line ∈ text.splitOn '\n') :
    '\n' ∉ line := by
  induction text generalizing line with
  | nil =>
      rw [List.mem_singleton.mp h]
      exact List.not_mem_nil
  | cons c rest ih =>
      rw [List.splitOn_cons_eq_if_modifyHead] at h
      by_cases hc : c = '\n'
      · rw [if_pos (beq_iff_eq.mpr hc), List.mem_cons] at h
        rcases h with rfl | h
        · exact List.not_mem_nil
        · exact ih h
      · -- The first line of the rest becomes longer by a character, and the others stay.
        rw [if_neg fun heq => hc (beq_iff_eq.mp heq)] at h
        rcases hrest : rest.splitOn '\n' with _ | ⟨first, others⟩
        · exact absurd hrest (List.splitOn_ne_nil '\n' rest)
        · rw [hrest, List.modifyHead_cons, List.mem_cons] at h
          rw [hrest] at ih
          rcases h with rfl | h
          · exact List.not_mem_cons_of_ne_of_not_mem (Ne.symm hc) (ih List.mem_cons_self)
          · exact ih (List.mem_cons_of_mem first h)

theorem not_mem_lineAt (source : String) (line : Nat) : '\n' ∉ lineAt source line := by
  rw [lineAt]
  rcases hline : (source.toList.splitOn '\n')[line - 1]? with _ | content
  · exact List.not_mem_nil
  · exact not_mem_of_mem_splitOn (List.mem_of_getElem? hline)

theorem lineAt_ofOffset (h : source.toList = front ++ rest) :
    lineAt source (Position.ofOffset source (Text.byteSize front)).line =
      lastLine front ++ rest.takeWhile (· != '\n') := by
  rw [Position.ofOffset_eq h, lineAt, h, Nat.add_sub_cancel_left, getElem?_splitOn_count,
    Option.getD_some]

/-- What is left of a line when the columns in front of a position are dropped: all that
    stands behind the offset, up to the end of the line. -/
theorem drop_lineAt (h : source.toList = front ++ rest) :
    (lineAt source (Position.ofOffset source (Text.byteSize front)).line).drop
        ((Position.ofOffset source (Text.byteSize front)).column - 1) =
      rest.takeWhile (· != '\n') := by
  rw [lineAt_ofOffset h, Position.ofOffset_eq h, Nat.add_sub_cancel_left, List.drop_left]

end Offsets

end Source

end OpcodeBuckets
