import OpcodeBuckets.Proofs.Source.Accounting
import OpcodeBuckets.Proofs.Source.Positions

/-!
# Diagnostics Point at What They Quote

A diagnostic about a source, followed from its message to the line it shows.

A reader is told three things: a quotation in the message, a line number and a column.
They come about far apart. The quotation is the text of a token, the label is its span
in bytes, and line and column are counted anew from the source, where a character is
one column whatever it takes in bytes and a line ends at a line feed only. The reader
goes to the line, skips the columns in front, and should find the quotation there.

That rests on where errors can be. An error reports a whole word or a single character
that begins nothing, and neither has a line feed in it, so a label never leaves its
line. Errors come in the order of the source and do not run into each other, hence
their positions ascend strictly, and no two of them are reported at one place.

## Main definitions

* `Diagnostic.PointsAt`: An error with one label, the primary one, on what its message
  quotes.

## Theorems

* `Fault.not_mem_text`: What is at fault has no line feed in it.
* `SourceError.pointsAt_diagnostic`: The diagnostic of an error points at its text.
* `SourceError.position_lt`: Of two errors the later has the later position.
* `diagnostics_point_at_quotations`: All diagnostics of a source, and their order.
-/

namespace OpcodeBuckets

open Source in
/-- An error whose only label is the primary one, on what the message quotes. -/
structure Diagnostic.PointsAt (source : String) (diagnostic : Diagnostic) (label : Label)
    (quoted : List Char) : Prop where
  /-- The diagnostic is about an error. -/
  severity_eq : diagnostic.severity = .error
  /-- The label is the only one the diagnostic has. -/
  labels_eq : diagnostic.labels = [label]
  /-- It is the one on what is to blame. -/
  style_eq : label.style = .primary
  /-- The message ends with the quotation, between the first backquote in it and the last. -/
  quotes : ∃ lead, diagnostic.message.toList = lead ++ '\x60' :: quoted ++ ['\x60'] ∧
    '\x60' ∉ lead
  /-- Something is quoted. -/
  ne_nil : quoted ≠ []
  /-- What the label covers begins and ends between characters, and is quoted whole. -/
  covers : Text.byteRange? label.span.start (label.span.stop - label.span.start) source.toList =
    some quoted
  /-- There is no line feed in what is covered. -/
  no_line_feed : '\n' ∉ quoted
  /-- The label ends in the line that it begins in. -/
  one_line : (Position.ofOffset source label.span.stop).line =
    (Position.ofOffset source label.span.start).line
  /-- That line has the quotation in the column of the label. -/
  shown : let place := Position.ofOffset source label.span.start
    quoted <+: (lineAt source place.line).drop (place.column - 1)

namespace Source

/-- What is at fault has no line feed in it: a word consists of letters and digits, and a line
    feed begins a token of its own. -/
theorem Fault.not_mem_text {behind : List Char} {fault : Fault} (h : fault.Fits behind) :
    '\n' ∉ fault.text.toList := by
  cases fault with
  | unknownMnemonic word =>
      intro hmem
      rcases TokenKind.shape_iff.mp h.1 with ⟨first, rest, hword, hfirst, hrest⟩
      rw [text, hword, List.mem_cons] at hmem
      rcases hmem with hmem | hmem
      · rw [← hmem] at hfirst
        exact absurd hfirst (by decide)
      · exact absurd (hrest _ hmem) (by decide)
  | unexpectedCharacter text =>
      intro hmem
      rcases h with ⟨c, htext, _, hc⟩
      rw [Fault.text, htext, List.mem_singleton] at hmem
      rw [← hmem] at hc
      exact hc (by decide)

/-- A word between backquotes, behind an opening that has the first of them at its end. -/
theorem toList_quoted {opening : String} {lead : List Char} (h : opening.toList = lead ++ ['\x60'])
    (word : String) :
    (opening ++ word ++ "\x60").toList = lead ++ '\x60' :: word.toList ++ ['\x60'] := by
  have hclosing : "\x60".toList = ['\x60'] := rfl
  rw [String.toList_append, String.toList_append, h, hclosing, List.append_assoc lead,
    List.singleton_append]

/-- The message of a fault ends with what is at fault, between the only two backquotes that the
    message itself has, and has no line feed of its own. -/
theorem Fault.exists_lead (fault : Fault) :
    ∃ lead, fault.message.toList = lead ++ '\x60' :: fault.text.toList ++ ['\x60'] ∧
      '\x60' ∉ lead ∧ '\n' ∉ lead := by
  cases fault with
  | unknownMnemonic word =>
      exact ⟨"unknown instruction ".toList, toList_quoted rfl word, by decide, by decide⟩
  | unexpectedCharacter text =>
      exact ⟨"unexpected ".toList, toList_quoted rfl text, by decide, by decide⟩

namespace SourceError

variable {source : String} {error next : SourceError}

theorem Reports.text_ne_nil (h : error.Reports source) : error.fault.text.toList ≠ [] := by
  rcases h.quotes with ⟨front, behind, _, hstart, hstop, _⟩
  have hlt := h.start_lt_stop
  intro hnil
  rw [hnil, List.append_nil] at hstop
  omega

/-- The diagnostic of an error points at the text of the error. -/
theorem pointsAt_diagnostic (h : error.Reports source) :
    error.diagnostic.PointsAt source ⟨.primary, error.span, error.fault.pointer⟩
      error.fault.text.toList := by
  rcases h.quotes with ⟨front, behind, hsource, hstart, hstop, hfits⟩
  rcases error.fault.exists_lead with ⟨lead, hmessage, hlead, _⟩
  have hfeed := Fault.not_mem_text hfits
  have hfront : source.toList = front ++ (error.fault.text.toList ++ behind) := by
    rw [hsource, List.append_assoc]
  refine ⟨rfl, rfl, rfl, ⟨lead, hmessage, hlead⟩, h.text_ne_nil, ?_, hfeed, ?_, ?_⟩
  · rw [Text.byteRange?_eq_some_iff]
    refine ⟨front, behind, hsource, hstart, ?_⟩
    rw [Text.byteSize_append] at hstop
    change Text.byteSize _ = error.span.stop - error.span.start
    omega
  · -- No line feed is passed between the two ends.
    rw [← hstart, ← hstop, Position.ofOffset_eq hsource, Position.ofOffset_eq hfront]
    simp only [List.count_append, List.count_eq_zero.mpr hfeed, Nat.add_zero]
  · simp only [← hstart]
    rw [drop_lineAt hfront, List.takeWhile_append_of_pos (forall_ne_of_not_mem hfeed)]
    exact List.prefix_append _ _

/-- Of two errors that do not run into each other the later has the later position. -/
theorem position_lt (h : error.Reports source) (hnext : next.Reports source)
    (hle : error.span.stop ≤ next.span.start) :
    Position.ofOffset source error.span.start < Position.ofOffset source next.span.start := by
  rcases h.quotes with ⟨front, behind, hsource, hstart, hstop, _⟩
  rcases hnext.quotes with ⟨later, rest, hlater, hnextStart, _, _⟩
  rw [List.append_assoc] at hlater
  -- All that stands before the end of the first error stands before the second.
  rcases Text.exists_append_of_byteSize_le (hsource.symm.trans hlater) (by omega) with
    ⟨between, rfl⟩
  rw [List.append_assoc] at hlater hnextStart
  rw [← hstart, ← hnextStart]
  refine Position.ofOffset_lt_ofOffset (by rw [hlater]; simp only [List.append_assoc]; rfl) ?_
  exact List.append_ne_nil_of_left_ne_nil h.text_ne_nil between

end SourceError

section Errors

variable {source : String} {errors : List SourceError} (h : readMnemonics source = .error errors)

include h

/-- The diagnostics of a source. Each has exactly one label, the primary one, on the span of
    its error, and points at what its message quotes. Their positions ascend strictly. -/
theorem diagnostics_point_at_quotations :
    (∀ error ∈ errors, ∃ label quoted, label.span = error.span ∧
      error.diagnostic.PointsAt source label quoted) ∧
    (errors.map fun error => Position.ofOffset source error.span.start).Pairwise (· < ·) := by
  constructor
  · intro error hmem
    exact ⟨_, _, rfl, SourceError.pointsAt_diagnostic (reports_of_mem_errors h hmem)⟩
  · rw [List.pairwise_map]
    refine (pairwise_errors h).imp_of_mem ?_
    intro error next hmem hnext hle
    exact SourceError.position_lt (reports_of_mem_errors h hmem) (reports_of_mem_errors h hnext) hle

end Errors

/-- A word in the second line, behind a tab and a character of two bytes. It begins at byte
    thirteen of the source and stands in the fourth column. -/
theorem diagnostics_point_at_quotations_tab :
    let source := "é push\r\n\té Pop"
    let word : SourceError := ⟨.ofSize 13 3, .unknownMnemonic "Pop"⟩
    let errors : List SourceError := [⟨.ofSize 0 2, .unexpectedCharacter "é"⟩,
      ⟨.ofSize 10 2, .unexpectedCharacter "é"⟩, word]
    readMnemonics source = .error errors ∧
      (∃ label quoted, label.span = word.span ∧
        word.diagnostic.PointsAt source label quoted) ∧
      Position.ofOffset source 0 < Position.ofOffset source 10 ∧
      Position.ofOffset source 13 = ⟨2, 4⟩ := by
  intro source word errors
  have herrors : readMnemonics source = .error errors := by decide +kernel
  have hpoint := diagnostics_point_at_quotations herrors
  have hascend := List.pairwise_cons.mp hpoint.2
  exact ⟨herrors, hpoint.1 word (by decide), hascend.1 _ (by decide), by decide⟩

end Source

end OpcodeBuckets
