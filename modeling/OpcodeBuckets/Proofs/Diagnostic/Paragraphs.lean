import OpcodeBuckets.Diagnostic.Snippet
import OpcodeBuckets.Proofs.Source.Positions
import OpcodeBuckets.Proofs.Text.Fields

/-!
# Diagnostics as Paragraphs

A diagnostic on the page, line by line.

Several diagnostics are printed one behind another, and a reader tells them apart by
the empty line that ends each. That works as long as no other line is empty and none
is broken in two. The first holds because all that is shown stands behind a margin or
a number. The second is a matter of the content: a line of the source has no line feed,
but a message or a note could have one, so that is asked for.

## Main definitions

* `Diagnostic.lines`: The lines of a diagnostic, less the empty one.
* `Diagnostic.Unbroken`: A diagnostic whose messages take one line each.
* `Diagnostic.IsParagraph`: Lines that are a diagnostic on the page.

## Theorems

* `Snippet.toList_render`, `Diagnostic.toList_render`: What is rendered, as lines.
* `Snippet.not_mem_lines`: The lines of a snippet are not broken.
* `Diagnostic.isParagraph_lines`: Rendering gives a paragraph.
-/

namespace OpcodeBuckets

namespace Snippet

/-- Where a diagnostic points, as it is shown. -/
def placeText (name : String) (position : Source.Position) : List Char :=
  (gutter position.line).toList ++ " ┌─ ".toList ++ name.toList ++
    ':' :: position.line.repr.toList ++ ':' :: position.column.repr.toList

/-- The lines of a snippet. -/
def lines (name source : String) (label : Label) : List (List Char) :=
  let position := Source.Position.ofOffset source label.span.start
  let lineStart := Source.lineStart source label.span.start
  let line := trimLineEnd (Source.lineAt source position.line)
  let margin := (gutter position.line).toList
  [placeText name position,
    margin ++ " │".toList,
    position.line.repr.toList ++ " │ ".toList ++ (cells line).flatMap (·.shown.toList),
    margin ++ " │ ".toList ++
      (caretLine label.style.caret line (label.span.start - lineStart)
        (label.span.stop - lineStart)).toList ++ ' ' :: label.message.toList]

theorem toList_render (name source : String) (label : Label) :
    (render name source label).toList = (lines name source label).flatMap (· ++ ['\n']) := by
  have hfeed : "\n".toList = ['\n'] := rfl
  have hcolon : ":".toList = [':'] := rfl
  have hblank : " ".toList = [' '] := rfl
  have hbar : " │\n".toList = " │".toList ++ ['\n'] := by decide
  unfold render lines placeText
  simp only [String.toList_append, String.toList_join, List.flatMap_map, hfeed, hcolon, hblank, hbar,
    List.flatMap_cons, List.flatMap_nil, List.append_assoc, List.cons_append, List.nil_append,
    List.append_nil]

section Content

theorem toList_gutter (line : Nat) :
    (gutter line).toList = List.replicate line.repr.length ' ' :=
  Text.toList_replicate _ ' '

theorem not_mem_gutter (line : Nat) : '\n' ∉ (gutter line).toList :=
  Text.not_mem_toList_replicate (by decide) _

theorem not_mem_trimLineEnd {line : List Char} (h : '\n' ∉ line) : '\n' ∉ trimLineEnd line := by
  intro hmem
  have hkept := (List.dropWhile_sublist _).mem (List.mem_reverse.mp hmem)
  exact h (List.mem_reverse.mp hkept)

/-- What is shown for a character is the character, or blanks for a tab. -/
theorem not_mem_shown_ofChar {c : Char} (hc : c ≠ '\n') (offset column : Nat) :
    '\n' ∉ (Cell.ofChar offset column c).shown.toList := by
  unfold Cell.ofChar
  by_cases htab : c = '\t'
  · rw [if_pos htab]
    exact Text.not_mem_toList_replicate (by decide) _
  · rw [if_neg htab, Char.toString, String.toList_singleton, List.mem_singleton]
    exact hc.symm

theorem not_mem_shown {line : List Char} (h : '\n' ∉ line) (offset column : Nat) :
    '\n' ∉ (cellsFrom offset column line).flatMap (·.shown.toList) := by
  induction line generalizing offset column with
  | nil => exact List.not_mem_nil
  | cons c rest ih =>
      rw [List.mem_cons, not_or] at h
      rw [cellsFrom, List.flatMap_cons]
      exact List.not_mem_append (not_mem_shown_ofChar (Ne.symm h.1) offset column) (ih h.2 _ _)

theorem caret_ne_line_feed (style : LabelStyle) : '\n' ≠ style.caret := by
  cases style <;> decide

/-- Below a cell there are carets, blanks or nothing. -/
theorem not_mem_mark (style : LabelStyle) (first behind : Nat) (cell : Cell) :
    '\n' ∉ (mark style.caret first behind cell).toList := by
  unfold mark
  split_ifs
  · exact Text.not_mem_toList_replicate (caret_ne_line_feed style) cell.width
  · exact Text.not_mem_toList_replicate (by decide) cell.width
  · exact List.not_mem_nil

theorem not_mem_caretLine (style : LabelStyle) (line : List Char) (start stop : Nat) :
    '\n' ∉ (caretLine style.caret line start stop).toList := by
  rw [caretLine, String.toList_join, List.flatMap_map, List.mem_flatMap]
  intro hmem
  rcases hmem with ⟨cell, _, hmem⟩
  exact not_mem_mark style _ _ cell hmem

theorem not_mem_placeText {name : String} (hname : '\n' ∉ name.toList)
    (position : Source.Position) : '\n' ∉ placeText name position := by
  simp only [placeText, List.mem_append, List.mem_cons, not_or]
  exact ⟨⟨⟨⟨not_mem_gutter _, by decide⟩, hname⟩, by decide, Text.not_mem_repr rfl _⟩,
    by decide, Text.not_mem_repr rfl _⟩

theorem not_mem_lines {name : String} (hname : '\n' ∉ name.toList) (source : String)
    {label : Label} (hlabel : '\n' ∉ label.message.toList) :
    ∀ line ∈ lines name source label, '\n' ∉ line := by
  have hshown := not_mem_trimLineEnd (Source.not_mem_lineAt source
    (Source.Position.ofOffset source label.span.start).line)
  have hmargin := not_mem_gutter (Source.Position.ofOffset source label.span.start).line
  rw [lines, List.forall_mem_cons, List.forall_mem_cons, List.forall_mem_cons,
    List.forall_mem_singleton]
  refine ⟨not_mem_placeText hname _, List.not_mem_append hmargin (by decide), ?_, ?_⟩
  · exact List.not_mem_append (List.not_mem_append (Text.not_mem_repr rfl _) (by decide))
      (not_mem_shown hshown 0 0)
  · refine List.not_mem_append (List.not_mem_append (List.not_mem_append hmargin (by decide))
      (not_mem_caretLine label.style _ _ _)) ?_
    exact List.not_mem_cons_of_ne_of_not_mem (by decide) hlabel

/-- All that a snippet shows stands behind a margin or a number. -/
theorem nil_not_mem_lines (name source : String) (label : Label) :
    [] ∉ lines name source label := by
  simp only [lines, placeText, List.mem_cons, List.nil_eq, List.append_eq_nil_iff, List.not_mem_nil,
    reduceCtorEq, and_false, or_false, false_or]
  intro h
  -- Left are the two lines that might end with their bar.
  rcases h with h | h
  · exact absurd h.2 (by decide)
  · exact absurd h.1.2 (by decide)

end Content

end Snippet

namespace Diagnostic

/-- A note on its line. -/
def noteText (margin note : String) : List Char :=
  margin.toList ++ " = ".toList ++ note.toList

/-- The lines below the message of a diagnostic. -/
def bodyLines (name source : String) (diagnostic : Diagnostic) : List (List Char) :=
  match diagnostic.labels with
  | [] => diagnostic.notes.map (noteText "")
  | label :: _ =>
    let margin := Snippet.gutter (Source.Position.ofOffset source label.span.start).line
    Snippet.lines name source label ++
      (if diagnostic.notes.isEmpty then [] else [margin.toList ++ " │".toList]) ++
      diagnostic.notes.map (noteText margin)

/-- The lines of a diagnostic, less the empty one that ends it. -/
def lines (name source : String) (diagnostic : Diagnostic) : List (List Char) :=
  (diagnostic.severity.name.toList ++ ": ".toList ++ diagnostic.message.toList) ::
    diagnostic.bodyLines name source

/-- A diagnostic whose messages take one line each. -/
structure Unbroken (diagnostic : Diagnostic) : Prop where
  /-- What is wrong is said in one line. -/
  message : '\n' ∉ diagnostic.message.toList
  /-- So is what stands beside the carets. -/
  labels : ∀ label ∈ diagnostic.labels, '\n' ∉ label.message.toList
  /-- So is each note. -/
  notes : ∀ note ∈ diagnostic.notes, '\n' ∉ note.toList

/-- Lines that are a diagnostic on the page, about a source of the given name. -/
structure IsParagraph (name source : String) (diagnostic : Diagnostic)
    (block : List (List Char)) : Prop where
  /-- The lines are what rendering gives. -/
  rendered : (diagnostic.render name source).toList = block.flatMap (· ++ ['\n'])
  /-- No line is broken. -/
  unbroken : ∀ line ∈ block, '\n' ∉ line
  /-- The last line is empty, and no other is. -/
  ended : ∃ lines, block = lines ++ [[]] ∧ [] ∉ lines
  /-- The first line says how bad it is, and what is wrong. -/
  headline : block.head? =
    some (diagnostic.severity.name.toList ++ ": ".toList ++ diagnostic.message.toList)
  /-- The second says where, by name, line and column. -/
  place : ∀ label ∈ diagnostic.labels.head?, ∃ margin line column,
    block[1]? = some (List.replicate margin ' ' ++ " ┌─ ".toList ++ name.toList ++
      ':' :: line ++ ':' :: column) ∧
    Text.Numeral 10 line (Source.Position.ofOffset source label.span.start).line ∧
    Text.Numeral 10 column (Source.Position.ofOffset source label.span.start).column

theorem toList_noteLine (margin note : String) :
    (Snippet.noteLine margin note).toList = noteText margin note ++ ['\n'] := by
  rw [Snippet.noteLine, noteText]
  simp only [String.toList_append]
  rfl

theorem toList_body (name source : String) (diagnostic : Diagnostic) :
    (diagnostic.body name source).toList =
      (diagnostic.bodyLines name source).flatMap (· ++ ['\n']) := by
  have hbar : " │\n".toList = " │".toList ++ ['\n'] := rfl
  have hnotes : ∀ margin, (String.join (diagnostic.notes.map (Snippet.noteLine margin))).toList =
      (diagnostic.notes.map (noteText margin)).flatMap (· ++ ['\n']) := by
    intro margin
    rw [String.toList_join, List.flatMap_map, List.flatMap_map]
    exact List.flatMap_congr fun note _ => toList_noteLine margin note
  rw [body, bodyLines]
  cases diagnostic.labels with
  | nil => exact hnotes ""
  | cons label _ =>
      rw [String.toList_append, String.toList_append, Snippet.toList_render, hnotes,
        List.flatMap_append, List.flatMap_append]
      -- A bar sets the notes off from the snippet, when there are any.
      cases diagnostic.notes.isEmpty
      · simp only [Bool.false_eq_true, if_false, String.toList_append, hbar, List.flatMap_cons,
          List.flatMap_nil, List.append_nil, List.append_assoc]
      · rfl

theorem toList_render (name source : String) (diagnostic : Diagnostic) :
    (diagnostic.render name source).toList =
      (diagnostic.lines name source ++ [[]]).flatMap (· ++ ['\n']) := by
  have hfeed : "\n".toList = ['\n'] := rfl
  simp only [render, lines, String.toList_append, toList_body, hfeed, List.flatMap_append,
    List.flatMap_cons, List.flatMap_nil, List.append_assoc, List.nil_append, List.append_nil]

theorem not_mem_name (severity : Severity) : '\n' ∉ severity.name.toList := by
  cases severity <;> decide

section Unbroken

variable {name : String} (hname : '\n' ∉ name.toList) (source : String) {diagnostic : Diagnostic}
  (h : diagnostic.Unbroken)

include h

theorem not_mem_noteText {margin : String} (hmargin : '\n' ∉ margin.toList) :
    ∀ line ∈ diagnostic.notes.map (noteText margin), '\n' ∉ line := by
  intro line hline
  rcases List.mem_map.mp hline with ⟨note, hnote, rfl⟩
  exact List.not_mem_append (List.not_mem_append hmargin (by decide)) (h.notes note hnote)

include hname

theorem not_mem_bodyLines : ∀ line ∈ diagnostic.bodyLines name source, '\n' ∉ line := by
  intro line hline
  rw [bodyLines] at hline
  rcases hlabels : diagnostic.labels with _ | ⟨label, others⟩
  · rw [hlabels] at hline
    exact not_mem_noteText h List.not_mem_nil line hline
  · rw [hlabels] at hline
    have hlabel := h.labels label (hlabels ▸ List.mem_cons_self)
    have hmargin := Snippet.not_mem_gutter (Source.Position.ofOffset source label.span.start).line
    rcases List.mem_append.mp hline with hline | hline
    · rcases List.mem_append.mp hline with hline | hline
      · exact Snippet.not_mem_lines hname source hlabel line hline
      · -- The bar above the notes, when there are any.
        split_ifs at hline
        · exact nomatch hline
        · rw [List.mem_singleton.mp hline]
          exact List.not_mem_append hmargin (by decide)
    · exact not_mem_noteText h hmargin line hline

theorem not_mem_lines : ∀ line ∈ diagnostic.lines name source, '\n' ∉ line := by
  rw [lines, List.forall_mem_cons]
  refine ⟨List.not_mem_append (List.not_mem_append ?_ (by decide)) h.message,
    not_mem_bodyLines hname source h⟩
  exact not_mem_name diagnostic.severity

end Unbroken

theorem nil_not_mem_noteText (margin : String) (notes : List String) :
    [] ∉ notes.map (noteText margin) := by
  rw [List.mem_map]
  intro hmem
  rcases hmem with ⟨note, _, hnil⟩
  rw [noteText, List.append_eq_nil_iff, List.append_eq_nil_iff] at hnil
  exact absurd hnil.1.2 (by decide)

/-- The first line has a colon in it at least. -/
theorem headline_ne_nil (diagnostic : Diagnostic) :
    diagnostic.severity.name.toList ++ ": ".toList ++ diagnostic.message.toList ≠ [] := by
  refine List.append_ne_nil_of_left_ne_nil (List.append_ne_nil_of_right_ne_nil _ ?_) _
  decide

theorem nil_not_mem_lines (name source : String) (diagnostic : Diagnostic) :
    [] ∉ diagnostic.lines name source := by
  refine List.not_mem_cons_of_ne_of_not_mem (headline_ne_nil diagnostic).symm ?_
  rw [bodyLines]
  cases diagnostic.labels with
  | nil => exact nil_not_mem_noteText "" diagnostic.notes
  | cons label _ =>
      refine List.not_mem_append (List.not_mem_append ?_ ?_) (nil_not_mem_noteText _ _)
      · exact Snippet.nil_not_mem_lines name source label
      · split_ifs
        · exact List.not_mem_nil
        · intro hmem
          have hnil := List.append_eq_nil_iff.mp (List.mem_singleton.mp hmem).symm
          exact absurd hnil.2 (by decide)

/-- Rendering gives a paragraph. -/
theorem isParagraph_lines {name : String} (hname : '\n' ∉ name.toList) (source : String)
    {diagnostic : Diagnostic} (h : diagnostic.Unbroken) :
    diagnostic.IsParagraph name source (diagnostic.lines name source ++ [[]]) where
  rendered := diagnostic.toList_render name source
  unbroken line hline := by
    rcases List.mem_append.mp hline with hline | hline
    · exact not_mem_lines hname source h line hline
    · rw [List.mem_singleton.mp hline]
      exact List.not_mem_nil
  ended := ⟨_, rfl, diagnostic.nil_not_mem_lines name source⟩
  headline := rfl
  place label hlabel := by
    have hsecond : (diagnostic.lines name source ++ [[]])[1]? =
        some (Snippet.placeText name (Source.Position.ofOffset source label.span.start)) := by
      rcases List.head?_eq_some_iff.mp hlabel with ⟨others, hlabels⟩
      rw [lines, bodyLines, hlabels]
      rfl
    rw [hsecond, Snippet.placeText, Snippet.toList_gutter]
    exact ⟨_, _, _, rfl, Text.numeral_repr _, Text.numeral_repr _⟩

end Diagnostic

end OpcodeBuckets
