import OpcodeBuckets.Proofs.Source.Pieces

/-!
# Every Byte Is Accounted For

What the errors of a source say, and that nothing is left unsaid.

A reader who gets a list of errors wants to rely on it from both ends. Each error
has to be about something: a stretch of the source that begins and ends between
characters, that says what the error quotes, and that is at fault as a whole, so
that no part of a longer word is reported. And together they have to be about
everything: a byte that is neither between instructions nor in one is in an
error, in one only, and errors do not run into each other.

Both come from the tokens. They lie end to end, hence a byte is in one of them.
A token is trivia or a mnemonic or at fault, and never two of these, hence the
errors take up what trivia and mnemonics leave. And a token ends where its kind
does, hence a word at fault is the whole word.

## Main definitions

* `Span.Covers`, `coverCount`: The spans that a byte lies in.
* `Token.IsKnown`: A token that is a mnemonic.
* `Token.trivia`, `Token.known`: The separators and the mnemonics among tokens.
* `Fault.Fits`: What stands where a fault is reported.
* `SourceError.Reports`: An error about a stretch of a source.

## Theorems

* `coverCount_of_spans`: Of spans that lie end to end a byte is in one.
* `Token.exists_cut_of_mem_scanFrom`: Where a token stands, and where it ends.
* `Token.error?_eq_some_iff`: The tokens at fault.
* `Token.coverCount_partition`: A byte is in trivia, in a mnemonic or in an error.
* `reports_of_mem_errors`, `pairwise_errors`: What each error reports, and their order.
* `readMnemonics_accounts`: The errors of a source, from both ends.
-/

namespace OpcodeBuckets

namespace Source

/-- Whether a byte lies in a span. -/
def Span.Covers (span : Span) (offset : Nat) : Prop :=
  span.start ≤ offset ∧ offset < span.stop

instance (span : Span) (offset : Nat) : Decidable (span.Covers offset) :=
  inferInstanceAs (Decidable (_ ∧ _))

/-- The number of spans of a list that a byte lies in. -/
def coverCount (offset : Nat) (spans : List Span) : Nat :=
  spans.countP fun span => decide (span.Covers offset)

theorem coverCount_cons (offset : Nat) (span : Span) (spans : List Span) :
    coverCount offset (span :: spans) =
      coverCount offset spans + if span.Covers offset then 1 else 0 := by
  rw [coverCount, List.countP_cons]
  simp only [decide_eq_true_eq]
  rfl

theorem coverCount_append (offset : Nat) (front back : List Span) :
    coverCount offset (front ++ back) = coverCount offset front + coverCount offset back :=
  List.countP_append

/-- What stands where a fault is reported, with the text behind it. A word at fault is no
    mnemonic and goes on no further; a character at fault is one that begins nothing. -/
def Fault.Fits (behind : List Char) : Fault → Prop
  | .unknownMnemonic word =>
    TokenKind.Shape .mnemonic word.toList ∧ (∀ i : Instruction, i.mnemonic ≠ word) ∧
      ∀ c ∈ behind.head?, ¬ (IsLetter c ∨ IsDigit c)
  | .unexpectedCharacter text => TokenKind.Shape .stray text.toList

/-- An error about a stretch of a source. Its span is not empty, begins and ends between
    characters and holds what the error quotes, and that is what the error says it is. -/
structure SourceError.Reports (source : String) (error : SourceError) : Prop where
  /-- The span is not empty. -/
  start_lt_stop : error.span.start < error.span.stop
  /-- The source can be cut at both ends of the span, and the quotation stands between. -/
  quotes : ∃ front behind, source.toList = front ++ error.fault.text.toList ++ behind ∧
    Text.byteSize front = error.span.start ∧
    Text.byteSize (front ++ error.fault.text.toList) = error.span.stop ∧
    error.fault.Fits behind

/-- Of spans that lie end to end, a byte between their ends is in exactly one. -/
theorem coverCount_of_spans {start stop offset : Nat} {tokens : List Token}
    (h : Token.Spans start stop tokens) (hstart : start ≤ offset) (hstop : offset < stop) :
    coverCount offset (tokens.map Token.span) = 1 := by
  induction tokens generalizing start with
  | nil =>
      rw [Token.Spans] at h
      omega
  | cons token rest ih =>
      rcases h with ⟨hfirst, _, hrest⟩
      rw [List.map_cons, coverCount_cons]
      by_cases hcovers : token.span.Covers offset
      · -- The spans behind begin later.
        have hnone : coverCount offset (rest.map Token.span) = 0 := by
          rw [coverCount, List.countP_eq_zero, List.forall_mem_map]
          intro next hnext
          have hlater := (Token.bounds_of_spans hrest).2 next hnext
          rw [Span.Covers] at hcovers
          rw [decide_eq_true_eq, Span.Covers]
          omega
        rw [hnone, if_pos hcovers]
      · rw [if_neg hcovers, Nat.add_zero]
        refine ih hrest ?_
        rw [Span.Covers] at hcovers
        omega

/-- Spans that lie end to end do not run into each other. -/
theorem pairwise_of_spans {start stop : Nat} {tokens : List Token}
    (h : Token.Spans start stop tokens) :
    tokens.Pairwise fun token next => token.span.stop ≤ next.span.start := by
  induction tokens generalizing start with
  | nil => exact List.Pairwise.nil
  | cons token rest ih =>
      rcases h with ⟨_, _, hrest⟩
      refine List.pairwise_cons.mpr ⟨fun next hnext => ?_, ih hrest⟩
      exact ((Token.bounds_of_spans hrest).2 next hnext).1

namespace Token

/-- Whether a token is a mnemonic. -/
def IsKnown (token : Token) : Prop :=
  token.kind = .mnemonic ∧ ∃ i : Instruction, i.mnemonic = token.text

theorem instruction?_eq_some_iff {token : Token} {i : Instruction} :
    token.instruction? = some i ↔ token.kind = .mnemonic ∧ i.mnemonic = token.text := by
  rcases token with ⟨kind, span, text⟩
  cases kind with
  | mnemonic => exact (ofMnemonic?_eq_some_iff.trans eq_comm).trans (and_iff_right rfl).symm
  | comma | whitespace | comment | lineBreak | stray =>
      simp only [instruction?, reduceCtorEq, false_and]

theorem isSome_instruction?_iff {token : Token} :
    token.instruction?.isSome = true ↔ token.IsKnown := by
  simp only [Option.isSome_iff_exists, instruction?_eq_some_iff, exists_and_left, IsKnown]

instance (token : Token) : Decidable token.IsKnown :=
  decidable_of_iff (token.instruction?.isSome = true) isSome_instruction?_iff

/-- The tokens that only separate others. -/
def trivia (tokens : List Token) : List Token :=
  tokens.filter Token.isTrivia

/-- The tokens that are mnemonics. -/
def known (tokens : List Token) : List Token :=
  tokens.filter fun token => decide token.IsKnown

theorem ofMnemonic?_eq_none_iff {text : String} :
    Instruction.ofMnemonic? text = none ↔ ∀ i : Instruction, i.mnemonic ≠ text := by
  rw [Option.eq_none_iff_forall_ne_some]
  exact forall_congr' fun i => not_congr (ofMnemonic?_eq_some_iff.trans eq_comm)

/-- The tokens at fault are words that are no mnemonics, and stray characters. -/
theorem error?_eq_some_iff {token : Token} {error : SourceError} :
    token.error? = some error ↔
      (token.kind = .mnemonic ∧ (∀ i : Instruction, i.mnemonic ≠ token.text) ∧
        error = ⟨token.span, .unknownMnemonic token.text⟩) ∨
      (token.kind = .stray ∧ error = ⟨token.span, .unexpectedCharacter token.text⟩) := by
  rcases token with ⟨kind, span, text⟩
  cases kind with
  | mnemonic =>
      simp only [← ofMnemonic?_eq_none_iff, error?, fault?]
      cases Instruction.ofMnemonic? text with
      | none =>
          simp only [Option.isNone_none, if_true, Option.map_some, Option.some.injEq, true_and,
            reduceCtorEq, false_and, or_false]
          exact eq_comm
      | some i =>
          simp only [Option.isNone_some, Bool.false_eq_true, if_false, Option.map_none,
            reduceCtorEq, false_and, and_false, or_false]
  | stray =>
      simp only [error?, fault?, Option.map_some, Option.some.injEq, reduceCtorEq, false_and,
        false_or, true_and]
      exact eq_comm
  | comma | whitespace | comment | lineBreak =>
      simp only [error?, fault?, Option.map_none, reduceCtorEq, false_and, or_self]

theorem span_of_error?_eq_some {token : Token} {error : SourceError}
    (h : token.error? = some error) : error.span = token.span := by
  rcases error?_eq_some_iff.mp h with ⟨_, _, rfl⟩ | ⟨_, rfl⟩ <;> rfl

/-- A token is trivia or a mnemonic or at fault, and only one of these. -/
theorem trivia_or_known_or_fault (token : Token) :
    (token.isTrivia = true ∧ ¬ token.IsKnown ∧ token.error? = none) ∨
      (token.isTrivia = false ∧ token.IsKnown ∧ token.error? = none) ∨
      (token.isTrivia = false ∧ ¬ token.IsKnown ∧ ∃ error, token.error? = some error) := by
  simp only [← isSome_instruction?_iff]
  rcases token with ⟨kind, span, text⟩
  cases kind with
  | mnemonic =>
      rw [instruction?, error?, fault?]
      cases Instruction.ofMnemonic? text with
      | none => exact Or.inr (Or.inr ⟨rfl, Bool.false_ne_true, _, rfl⟩)
      | some i => exact Or.inr (Or.inl ⟨rfl, rfl, rfl⟩)
  | stray => exact Or.inr (Or.inr ⟨rfl, Bool.false_ne_true, _, rfl⟩)
  | comma | whitespace | comment | lineBreak => exact Or.inl ⟨rfl, Bool.false_ne_true, rfl⟩

/-- The spans that a byte lies in are those of trivia, of mnemonics and of errors. -/
theorem coverCount_partition (offset : Nat) (tokens : List Token) :
    coverCount offset ((trivia tokens).map Token.span ++ (known tokens).map Token.span ++
        (tokens.filterMap Token.error?).map SourceError.span) =
      coverCount offset (tokens.map Token.span) := by
  rw [coverCount_append, coverCount_append]
  induction tokens with
  | nil => rfl
  | cons token rest ih =>
      -- The token is on one of the three lists, with the same span, and not on the others.
      rw [trivia, known] at ih ⊢
      rw [List.filter_cons, List.filter_cons, List.map_cons, coverCount_cons]
      rcases token.trivia_or_known_or_fault with
        ⟨htrivia, hknown, herror⟩ | ⟨hsolid, hknown, herror⟩ | ⟨hsolid, hknown, error, herror⟩
      · rw [if_pos htrivia, if_neg (by rwa [decide_eq_true_eq]), List.filterMap_cons_none herror,
          List.map_cons, coverCount_cons]
        omega
      · rw [if_neg (by rwa [Bool.not_eq_true]), if_pos (decide_eq_true hknown),
          List.filterMap_cons_none herror, List.map_cons, coverCount_cons]
        omega
      · rw [if_neg (by rwa [Bool.not_eq_true]), if_neg (by rwa [decide_eq_true_eq]),
          List.filterMap_cons_some herror, List.map_cons, coverCount_cons,
            span_of_error?_eq_some herror]
        omega

/-- Where a token stands in a text, and where it ends: the character behind it does not
    continue it. -/
theorem exists_cut_of_mem_scanFrom {start : Nat} {text : List Char} {token : Token}
    (h : token ∈ scanFrom start text) :
    ∃ front behind, text = front ++ token.text.toList ++ behind ∧
      start + Text.byteSize front = token.span.start ∧
      start + Text.byteSize (front ++ token.text.toList) = token.span.stop ∧
      ∀ c ∈ behind.head?, token.kind.continues c = false := by
  induction text using token_induction generalizing start with
  | nil =>
      rw [scanFrom_nil] at h
      exact absurd h List.not_mem_nil
  | cons first body behind hcontinues hstop ih =>
      rw [scanFrom_append start hcontinues hstop, List.mem_cons] at h
      rcases h with rfl | h
      · refine ⟨[], behind, ?_, rfl, ?_, hstop⟩
        · rw [List.nil_append, String.toList_ofList]
        · rw [List.nil_append, String.toList_ofList]
          rfl
      · rcases ih h with ⟨front, rest, hbehind, hstart, hspan, hends⟩
        refine ⟨first :: body ++ front, rest, ?_, ?_, ?_, hends⟩
        · rw [hbehind]
          simp only [List.append_assoc]
        · rw [Text.byteSize_append, ← Nat.add_assoc, hstart]
        · rw [List.append_assoc, Text.byteSize_append, ← Nat.add_assoc, hspan]

/-- The error of a token that was scanned reports what stands in the source. -/
theorem reports_of_mem_scan {source : String} {token : Token} (h : token ∈ scan source)
    {error : SourceError} (herror : token.error? = some error) : error.Reports source := by
  have hshape := shape_of_mem_scanFrom h
  rcases exists_cut_of_mem_scanFrom h with ⟨front, behind, htext, hstart, hstop, hends⟩
  rw [Nat.zero_add] at hstart hstop
  -- A text that has the shape of a kind is not empty.
  have hlt : token.span.start < token.span.stop := by
    rcases TokenKind.shape_iff.mp hshape with ⟨first, rest, hfirst, _⟩
    have hpos := first.utf8Size_pos
    rw [← hstart, ← hstop, hfirst, Text.byteSize_append, Text.byteSize_cons]
    omega
  rcases error?_eq_some_iff.mp herror with ⟨hkind, hunknown, rfl⟩ | ⟨hkind, rfl⟩
  · rw [hkind] at hshape hends
    refine ⟨hlt, front, behind, htext, hstart, hstop, hshape, hunknown, fun c hc hpart => ?_⟩
    rw [← isWordPart_iff] at hpart
    exact Bool.eq_false_iff.mp (hends c hc) hpart
  · rw [hkind] at hshape
    exact ⟨hlt, front, behind, htext, hstart, hstop, hshape⟩

/-- Mnemonics are the texts of the tokens that are known. -/
theorem map_mnemonic_filterMap (tokens : List Token) :
    (tokens.filterMap Token.instruction?).map Instruction.mnemonic =
      (known tokens).map Token.text := by
  induction tokens with
  | nil => rfl
  | cons token rest ih =>
      rw [known] at ih ⊢
      rw [List.filter_cons]
      cases hi : token.instruction? with
      | none =>
          have hknown : ¬ token.IsKnown := by
            rw [← isSome_instruction?_iff, hi]
            exact Bool.false_ne_true
          rw [List.filterMap_cons_none hi, if_neg (by rwa [decide_eq_true_eq]), ih]
      | some i =>
          have hknown : token.IsKnown := by
            rw [← isSome_instruction?_iff, hi]
            rfl
          rw [List.filterMap_cons_some hi, if_pos (decide_eq_true hknown), List.map_cons, ih,
            List.map_cons, (instruction?_eq_some_iff.mp hi).2]

end Token

/-- A byte of a source is in trivia, in a mnemonic or in an error, in one of them and in
    only one. -/
theorem coverCount_scan {source : String} {offset : Nat} (h : offset < source.utf8ByteSize) :
    coverCount offset ((Token.trivia (Token.scan source)).map Token.span ++
      (Token.known (Token.scan source)).map Token.span ++
      ((Token.scan source).filterMap Token.error?).map SourceError.span) = 1 := by
  have hspans := (Token.spans_source_iff source (Token.scan source)).mpr
    (Token.laidOut_scanFrom 0 source.toList)
  rw [Token.coverCount_partition]
  exact coverCount_of_spans hspans.1 (Nat.zero_le offset) h

section Errors

variable {source : String} {errors : List SourceError} (h : readMnemonics source = .error errors)

include h

theorem reports_of_mem_errors {error : SourceError} (hmem : error ∈ errors) :
    error.Reports source := by
  rw [← (readMnemonics_eq_error_iff.mp h).1] at hmem
  rcases List.mem_filterMap.mp hmem with ⟨token, htoken, herror⟩
  exact Token.reports_of_mem_scan htoken herror

/-- The errors stand where their tokens do, in the same order. -/
theorem pairwise_errors :
    errors.Pairwise fun error next => error.span.stop ≤ next.span.start := by
  have hspans := (Token.spans_source_iff source (Token.scan source)).mpr
    (Token.laidOut_scanFrom 0 source.toList)
  rw [← (readMnemonics_eq_error_iff.mp h).1]
  refine (pairwise_of_spans hspans.1).filterMap _ ?_
  intro token next hle error herror other hother
  rwa [Token.span_of_error?_eq_some herror, Token.span_of_error?_eq_some hother]

end Errors

/-- The errors of a source, from both ends. There is one at least, and each reports a
    stretch of the source: a whole word that is no mnemonic, or a character that begins
    nothing. They ascend and do not run into each other, and of the spans of trivia, of
    mnemonics and of errors each byte of the source lies in exactly one. Without errors
    those of trivia and mnemonics are enough, and the instructions are the mnemonics. -/
theorem readMnemonics_accounts (source : String) :
    (∀ errors, readMnemonics source = .error errors →
      errors ≠ [] ∧ (∀ error ∈ errors, error.Reports source) ∧
      errors.Pairwise (fun error next => error.span.stop ≤ next.span.start) ∧
      ∀ offset, offset < source.utf8ByteSize →
        coverCount offset ((Token.trivia (Token.scan source)).map Token.span ++
          (Token.known (Token.scan source)).map Token.span ++ errors.map SourceError.span) = 1) ∧
    ∀ instructions, readMnemonics source = .ok instructions →
      (∀ offset, offset < source.utf8ByteSize →
        coverCount offset ((Token.trivia (Token.scan source)).map Token.span ++
          (Token.known (Token.scan source)).map Token.span) = 1) ∧
      instructions.map Instruction.mnemonic =
        (Token.known (Token.scan source)).map Token.text := by
  refine ⟨fun errors herrors => ?_, fun instructions hread => ?_⟩
  · have hreports : ∀ error ∈ errors, error.Reports source := fun _ => reports_of_mem_errors herrors
    have hascend := pairwise_errors herrors
    rcases readMnemonics_eq_error_iff.mp herrors with ⟨rfl, hne⟩
    exact ⟨hne, hreports, hascend, fun offset => coverCount_scan⟩
  · rw [readMnemonics_eq_ok_iff] at hread
    rcases hread with ⟨hnone, rfl⟩
    refine ⟨fun offset hoffset => ?_, Token.map_mnemonic_filterMap _⟩
    have hcount := coverCount_scan hoffset
    rwa [hnone, List.map_nil, List.append_nil] at hcount

/-- Errors that touch are two, though one byte of the first is inside a character, and a
    comment ends the word in front of it. Without errors each word is an instruction. -/
theorem readMnemonics_accounts_glued :
    let source := "push é9 Pop#x"
    let errors : List SourceError := [⟨.ofSize 5 2, .unexpectedCharacter "é"⟩,
      ⟨.ofSize 7 1, .unexpectedCharacter "9"⟩, ⟨.ofSize 9 3, .unknownMnemonic "Pop"⟩]
    readMnemonics source = .error errors ∧
      SourceError.Reports source ⟨.ofSize 9 3, .unknownMnemonic "Pop"⟩ ∧
      errors.Pairwise (fun error next => error.span.stop ≤ next.span.start) ∧
      6 < source.utf8ByteSize ∧
      coverCount 6 ((Token.trivia (Token.scan source)).map Token.span ++
        (Token.known (Token.scan source)).map Token.span ++ errors.map SourceError.span) = 1 ∧
      readMnemonics "dup,#\npush" = .ok [.dup, .push] ∧
      (Token.known (Token.scan "dup,#\npush")).map Token.text = ["dup", "push"] := by
  intro source errors
  have herrors : readMnemonics source = .error errors := by decide +kernel
  have hread : readMnemonics "dup,#\npush" = .ok [.dup, .push] := by decide +kernel
  have hoffset : 6 < source.utf8ByteSize := by decide
  rcases (readMnemonics_accounts source).1 errors herrors with ⟨_, hreports, hascend, hcount⟩
  have hknown := ((readMnemonics_accounts "dup,#\npush").2 _ hread).2
  exact ⟨herrors, hreports _ (by decide), hascend, hoffset, hcount 6 hoffset, hread, hknown.symm⟩

end Source

end OpcodeBuckets
