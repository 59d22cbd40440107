import Mathlib.Tactic.SplitIfs

/-!
# Texts in Parts

A text joined from parts, and the parts found again.

Parts are joined by a separator of one character or more, and a reader who knows the
separator splits the text wherever it stands. A separator could also come about by
accident, out of a part or across the end of one. It does not if no part has the first
character of the separator in it, since then no place inside a part is one where the
separator begins.

The walk of a splitter over a text is followed from seam to seam. Up to the end of a
part nothing matches, there the separator does, and behind it the walk is at the
beginning of the next part.

Nothing joined and one empty part give the same text, so a list of parts can be told
from its text only if the empty text is not among them.

## Main definitions

* `parts`: The parts of a text between separators.

## Theorems

* `intercalate_cons`: Joining puts a separator in front of each part but the first.
* `not_matchesAt`: No separator begins inside a part.
* `map_copy_split`: The walk of a splitter from the beginning of a part on.
* `parts_intercalate`: What was joined is found again.
* `intercalate_inj`: A joined text is that of one list of parts.
-/

namespace OpcodeBuckets

namespace Text

open String.Slice.Pattern

/-- The parts of a text between the places where a separator stands. -/
def parts (separator text : String) : List String :=
  (text.split separator).toList.map String.Slice.copy

/-- Joining puts a separator in front of each part but the first. -/
theorem intercalate_cons (separator part : String) (others : List String) :
    separator.intercalate (part :: others) =
      part ++ String.join (others.map (separator ++ ·)) := by
  induction others generalizing part with
  | nil => rw [String.intercalate_singleton, List.map_nil, String.join_nil, String.append_empty]
  | cons next others ih =>
      rw [String.intercalate_cons_cons, ih, List.map_cons, String.join_cons, String.append_assoc,
        String.append_assoc]

theorem not_mem_intercalate {c : Char} {separator : String} (hseparator : c ∉ separator.toList)
    {pieces : List String} (hpieces : ∀ part ∈ pieces, c ∉ part.toList) :
    c ∉ (separator.intercalate pieces).toList := by
  cases pieces with
  | nil => exact List.not_mem_nil
  | cons part others =>
      rw [List.forall_mem_cons] at hpieces
      rw [intercalate_cons, String.toList_append, String.toList_join, List.flatMap_map]
      refine List.not_mem_append hpieces.1 ?_
      rw [List.mem_flatMap]
      rintro ⟨other, hother, hmem⟩
      rw [String.toList_append] at hmem
      exact List.not_mem_append hseparator (hpieces.2 other hother) hmem

section Seams

variable {text : String.Slice} {start : text.Pos} {before part after : String}
  (h : start.Splits before (part ++ after))

include h

theorem le_rotateRight : start ≤ h.rotateRight :=
  (h.le_iff_exists_eq_append h.splits_rotateRight).mpr ⟨part, rfl, rfl⟩

/-- Between the beginning of a part and its end stands the part. -/
theorem copy_subslice :
    (text.subslice start h.rotateRight (le_rotateRight h)).toSlice.copy = part := by
  rcases String.Slice.copy_slice_eq_iff_splits.mpr ⟨before, after, h, h.splits_rotateRight⟩ with
    ⟨_, hcopy⟩
  exact hcopy

variable {separator : String} {first : Char} {more : List Char}
  (hseparator : separator.toList = first :: more) (hpart : first ∉ part.toList)

include hseparator hpart

/-- No separator begins inside a part that does not have its first character. -/
theorem not_matchesAt {pos : text.Pos} (hge : start ≤ pos) (hlt : pos < h.rotateRight) :
    ¬ Model.MatchesAt separator pos := by
  intro hmatch
  rcases Model.ForwardStringSearcher.matchesAt_iff_splits.mp hmatch with ⟨front, back, hpos⟩
  rcases (h.le_iff_exists_eq_append hpos).mp hge with ⟨passed, rfl, _⟩
  rcases (hpos.lt_iff_exists_eq_append h.splits_rotateRight).mp hlt with
    ⟨ahead, hahead, hfront, hback⟩
  rw [String.append_assoc, String.append_right_inj] at hfront
  -- What is ahead in the part is not empty and begins like the separator.
  have hchars := congrArg String.toList hback
  rw [String.toList_append, String.toList_append, hseparator, List.cons_append] at hchars
  rcases hcons : ahead.toList with _ | ⟨c, rest⟩
  · exact hahead (String.toList_eq_nil_iff.mp hcons)
  · rw [hcons, List.cons_append, List.cons.injEq] at hchars
    rw [hfront, String.toList_append, hcons, hchars.1] at hpart
    exact hpart (List.mem_append_right _ List.mem_cons_self)

/-- The walk of a splitter passes over a part without a match. -/
theorem split_eq_rotateRight [Model.StrictPatternModel separator] :
    Model.split separator start start start.le_refl =
      Model.split separator start h.rotateRight (le_rotateRight h) :=
  Model.split_eq_of_not_matchesAt h.rotateRight (le_rotateRight h) fun _ =>
    not_matchesAt h hseparator hpart

end Seams

section Joined

variable {separator : String} {first : Char} {more : List Char}
  (hseparator : separator.toList = first :: more)

include hseparator

/-- The walk of a splitter from the beginning of a part on. By induction on the parts behind
    it: the walk ends with the last of them, and goes on behind a separator otherwise. -/
theorem map_copy_split [Model.StrictPatternModel separator] {text : String.Slice}
    {start : text.Pos} {before part : String} {others : List String}
    (h : start.Splits before (separator.intercalate (part :: others)))
    (hparts : ∀ piece ∈ part :: others, first ∉ piece.toList) :
    (Model.split separator start start start.le_refl).map
      (String.Slice.copy ∘ String.Slice.Subslice.toSlice) = part :: others := by
  induction others generalizing start before part with
  | nil =>
      rw [List.forall_mem_singleton] at hparts
      rw [String.intercalate_singleton, ← String.append_empty (s := part)] at h
      -- No separator is left, and the walk ends where the text does.
      have hend : h.rotateRight = text.endPos := h.splits_rotateRight.eq_endPos_iff.mpr rfl
      rw [split_eq_rotateRight h hseparator hparts, Model.split, dif_pos hend,
        List.map_singleton, Function.comp_apply, copy_subslice]
  | cons next others ih =>
      rw [List.forall_mem_cons] at hparts
      rw [String.intercalate_cons_cons, String.append_assoc] at h
      -- A separator stands at the seam, and behind it the next part begins.
      have hseam := h.splits_rotateRight
      have hmatch : Model.IsLongestMatchAt separator h.rotateRight hseam.rotateRight :=
        Model.ForwardStringSearcher.isLongestMatchAt_iff_splits.mpr
          ⟨_, _, hseam, hseam.splits_rotateRight⟩
      rw [split_eq_rotateRight h hseparator hparts.1, Model.split_eq_of_isLongestMatchAt hmatch,
        List.map_cons, Function.comp_apply, copy_subslice, ih hseam.splits_rotateRight hparts.2]

/-- What was joined is found again, and where nothing was, one empty part. -/
theorem parts_intercalate {pieces : List String}
    (hpieces : ∀ part ∈ pieces, first ∉ part.toList) :
    parts separator (separator.intercalate pieces) = if pieces = [] then [""] else pieces := by
  have hne : separator ≠ "" := by
    intro hempty
    rw [hempty, String.toList_empty] at hseparator
    exact nomatch hseparator
  have := Model.ForwardStringSearcher.strictPatternModel hne
  have := Model.ForwardStringSearcher.lawfulToForwardSearcherModel hne
  cases pieces with
  | nil => exact String.toList_split_empty separator
  | cons part others =>
      have hstart := String.Slice.splits_startPos
        (separator.intercalate (part :: others)).toSlice
      rw [String.copy_toSlice] at hstart
      rw [if_neg (List.cons_ne_nil part others), parts, String.split_eq_split_toSlice,
        String.Slice.toList_split_eq_splitToSubslice, toList_splitToSubslice_eq_modelSplit,
        List.map_map]
      exact map_copy_split hseparator hstart hpieces

/-- A joined text is that of one list of parts, where none of them is empty. -/
theorem intercalate_inj {pieces others : List String}
    (hpieces : ∀ part ∈ pieces, part ≠ "" ∧ first ∉ part.toList)
    (hothers : ∀ part ∈ others, part ≠ "" ∧ first ∉ part.toList) :
    separator.intercalate pieces = separator.intercalate others ↔ pieces = others := by
  constructor
  · intro h
    have hparts := congrArg (parts separator) h
    rw [parts_intercalate hseparator fun part hpart => (hpieces part hpart).2,
      parts_intercalate hseparator fun part hpart => (hothers part hpart).2] at hparts
    -- A list without parts goes with an empty part, which the other list cannot have.
    split_ifs at hparts with hnil hempty hempty
    · rw [hnil, hempty]
    · exact absurd rfl (hothers "" (hparts ▸ List.mem_singleton_self "")).1
    · exact absurd rfl (hpieces "" (hparts ▸ List.mem_singleton_self "")).1
    · exact hparts
  · rintro rfl
    rfl

end Joined

end Text

end OpcodeBuckets
