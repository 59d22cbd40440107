import OpcodeBuckets.Text.ByteRange

/-!
# Byte Ranges as Parts of a Text

Offsets traded for the characters around them.

`byteRange?` counts bytes, and a proof about a text would rather name the
characters in front of a part, the part and what follows. The three lemmas on
`behindBytes?`, `firstBytes?` and `byteRange?` say that the two are the same:
there is a part at an offset exactly when the text can be cut there, between
characters, and the sizes fit. A character takes at least one byte, so a size
leaves no choice of where to cut.

## Theorems

* `append_inj_of_byteSize`: Fronts of one size in one text are the same.
* `exists_append_of_byteSize_le`: A longer front goes on from a shorter one.
* `behindBytes?_eq_some_iff`, `firstBytes?_eq_some_iff`: What stands behind an
  offset, and what stands in front of it.
* `byteRange?_eq_some_iff`: What stands in a range.
-/

namespace OpcodeBuckets

namespace Text

@[simp] theorem byteSize_nil : byteSize [] = 0 :=
  rfl

@[simp] theorem byteSize_cons (c : Char) (text : List Char) :
    byteSize (c :: text) = c.utf8Size + byteSize text := by
  rw [byteSize, ← List.singleton_append, String.ofList_append, String.utf8ByteSize_append,
    ← String.singleton_eq_ofList, String.utf8ByteSize_singleton, byteSize]

@[simp] theorem byteSize_append (front back : List Char) :
    byteSize (front ++ back) = byteSize front + byteSize back := by
  rw [byteSize, String.ofList_append, String.utf8ByteSize_append, byteSize, byteSize]

theorem byteSize_toList (text : String) : byteSize text.toList = text.utf8ByteSize := by
  rw [byteSize, String.ofList_toList]

@[simp] theorem byteSize_eq_zero_iff {text : List Char} : byteSize text = 0 ↔ text = [] := by
  cases text with
  | nil => exact iff_of_true byteSize_nil rfl
  | cons c rest =>
      have hc := c.utf8Size_pos
      rw [byteSize_cons]
      exact iff_of_false (by omega) (List.cons_ne_nil c rest)

/-- Fronts of one size in one text are the same, and so is what follows them. -/
theorem append_inj_of_byteSize {front back front' back' : List Char}
    (h : front ++ back = front' ++ back') (hsize : byteSize front = byteSize front') :
    front = front' ∧ back = back' := by
  induction front generalizing front' with
  | nil =>
      rw [byteSize_nil, eq_comm, byteSize_eq_zero_iff] at hsize
      subst hsize
      exact ⟨rfl, h⟩
  | cons c rest ih =>
      cases front' with
      | nil =>
          rw [byteSize_nil, byteSize_eq_zero_iff] at hsize
          exact absurd hsize (List.cons_ne_nil c rest)
      | cons c' rest' =>
          rw [List.cons_append, List.cons_append, List.cons.injEq] at h
          rw [byteSize_cons, byteSize_cons, h.1] at hsize
          rcases ih h.2 (Nat.add_left_cancel hsize) with ⟨hfront, hback⟩
          exact ⟨by rw [h.1, hfront], hback⟩

/-- Of two fronts of one text the longer goes on from the shorter. -/
theorem exists_append_of_byteSize_le {front back front' back' : List Char}
    (h : front ++ back = front' ++ back') (hsize : byteSize front ≤ byteSize front') :
    ∃ between, front' = front ++ between := by
  rcases List.append_eq_append_iff.mp h with ⟨between, hlonger, _⟩ | ⟨between, hshorter, _⟩
  · exact ⟨between, hlonger⟩
  · -- What goes on from the second front takes up no bytes.
    rw [hshorter, byteSize_append] at hsize
    have hnil : between = [] := byteSize_eq_zero_iff.mp (by omega)
    exact ⟨[], by rw [hshorter, hnil, List.append_nil, List.append_nil]⟩

/-- A front that takes up any bytes of a text begins with its first character, and the
    rest of the front takes up what that character leaves. -/
theorem exists_cons_of_byteSize {c : Char} {text front rest : List Char} {size : Nat}
    (htext : c :: text = front ++ rest) (hsize : byteSize front = size + 1) :
    ∃ front', front = c :: front' ∧ text = front' ++ rest ∧
      c.utf8Size + byteSize front' = size + 1 := by
  cases front with
  | nil =>
      rw [byteSize_nil] at hsize
      omega
  | cons c' front' =>
      rw [List.cons_append, List.cons.injEq] at htext
      rw [byteSize_cons, ← htext.1] at hsize
      exact ⟨front', by rw [htext.1], htext.2, hsize⟩

/-- Nothing takes up any bytes of the empty text. -/
theorem byteSize_ne_of_nil {front rest : List Char} {size : Nat} (htext : [] = front ++ rest) :
    byteSize front ≠ size + 1 := by
  rw [(List.append_eq_nil_iff.mp htext.symm).1, byteSize_nil]
  omega

/-- What stands behind an offset is what is left of the text when a front of that
    size is cut off. -/
theorem behindBytes?_eq_some_iff {size : Nat} {text rest : List Char} :
    behindBytes? size text = some rest ↔
      ∃ front, text = front ++ rest ∧ byteSize front = size := by
  fun_induction behindBytes? size text with
  | case1 text =>
      simp only [Option.some.injEq, byteSize_eq_zero_iff, exists_eq_right, List.nil_append]
  | case2 size =>
      refine iff_of_false (by simp only [reduceCtorEq, not_false_eq_true]) ?_
      rintro ⟨front, htext, hsize⟩
      exact byteSize_ne_of_nil htext hsize
  | case3 size c text hfits ih =>
      rw [ih]
      clear ih
      constructor
      · rintro ⟨front, rfl, hsize⟩
        exact ⟨c :: front, rfl, by rw [byteSize_cons, hsize]; omega⟩
      · rintro ⟨front, htext, hsize⟩
        rcases exists_cons_of_byteSize htext hsize with ⟨front', _, htext', hsize'⟩
        exact ⟨front', htext', by omega⟩
  | case4 size c text hlong =>
      -- The first character is longer than the size, so no front can have the size.
      refine iff_of_false (by simp only [reduceCtorEq, not_false_eq_true]) ?_
      rintro ⟨front, htext, hsize⟩
      rcases exists_cons_of_byteSize htext hsize with ⟨front', _, _, hsize'⟩
      omega

/-- What stands in front of an offset, when it falls between characters. -/
theorem firstBytes?_eq_some_iff {size : Nat} {text part : List Char} :
    firstBytes? size text = some part ↔
      ∃ rest, text = part ++ rest ∧ byteSize part = size := by
  fun_induction firstBytes? size text generalizing part with
  | case1 text =>
      rw [Option.some.injEq]
      constructor
      · rintro rfl
        exact ⟨text, rfl, byteSize_nil⟩
      · rintro ⟨rest, _, hsize⟩
        exact (byteSize_eq_zero_iff.mp hsize).symm
  | case2 size =>
      refine iff_of_false (by simp only [reduceCtorEq, not_false_eq_true]) ?_
      rintro ⟨rest, htext, hsize⟩
      exact byteSize_ne_of_nil htext hsize
  | case3 size c text hfits ih =>
      rw [Option.map_eq_some_iff]
      constructor
      · rintro ⟨part, hpart, rfl⟩
        rcases ih.mp hpart with ⟨rest, rfl, hsize⟩
        exact ⟨rest, rfl, by rw [byteSize_cons, hsize]; omega⟩
      · rintro ⟨rest, htext, hsize⟩
        rcases exists_cons_of_byteSize htext hsize with ⟨part', hpart, htext', hsize'⟩
        exact ⟨part', ih.mpr ⟨rest, htext', by omega⟩, hpart.symm⟩
  | case4 size c text hlong =>
      refine iff_of_false (by simp only [reduceCtorEq, not_false_eq_true]) ?_
      rintro ⟨rest, htext, hsize⟩
      rcases exists_cons_of_byteSize htext hsize with ⟨part', _, _, hsize'⟩
      omega

/-- A range has a part of the text exactly when both its ends fall between
    characters, and the part is what stands between them. -/
theorem byteRange?_eq_some_iff {offset size : Nat} {text part : List Char} :
    byteRange? offset size text = some part ↔
      ∃ front rest, text = front ++ part ++ rest ∧ byteSize front = offset ∧
        byteSize part = size := by
  rw [byteRange?, Option.bind_eq_some_iff]
  constructor
  · rintro ⟨behind, hbehind, hpart⟩
    rcases behindBytes?_eq_some_iff.mp hbehind with ⟨front, rfl, hfront⟩
    rcases firstBytes?_eq_some_iff.mp hpart with ⟨rest, rfl, hsize⟩
    exact ⟨front, rest, (List.append_assoc front part rest).symm, hfront, hsize⟩
  · rintro ⟨front, rest, rfl, hfront, hsize⟩
    refine ⟨part ++ rest, behindBytes?_eq_some_iff.mpr ⟨front, ?_, hfront⟩,
      firstBytes?_eq_some_iff.mpr ⟨rest, rfl, hsize⟩⟩
    exact List.append_assoc front part rest

end Text

end OpcodeBuckets
