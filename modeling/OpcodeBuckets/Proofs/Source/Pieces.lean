import OpcodeBuckets.Proofs.Source.Tokens
import OpcodeBuckets.Source.MnemonicList
import Mathlib.Data.Set.List
import Mathlib.Data.String.Basic

/-!
# Reading Is Splitting

Which sources name instructions, said without tokens.

Delete the comments, split what is left at separators and drop the empty
pieces: if every piece is a mnemonic, those are the instructions, and otherwise
the source is refused. This is how the format is explained to a user, and the
reader does nothing of the kind. Its tokens end where a kind ends and not where
a piece does, so a piece may be several tokens that no separator keeps apart.

Such a piece is never a mnemonic, and it never goes unnoticed. A word takes in
all that can stand in a word, hence what is glued to a word, or stands before
one, is a stray character. It is a fault for the reader, and for the splitter it
sits in a piece that it keeps from being a mnemonic: behind a word because no
mnemonic has it anywhere, and at the front of a piece, where it may be a digit,
because no mnemonic begins with it.

## Main definitions

* `withoutComments`: A text without its comments.
* `words`: What separators leave of a text.
* `pieces`: The words of a source without its comments.
* `Reads`: Tokens that are free of faults and name given instructions.

## Theorems

* `words_append`: A word that ends where a text does or at a separator.
* `exists_words_append`: A piece begins with all that stands before a separator.
* `reads_scanFrom_iff`: Scanned tokens read as the words of their text.
* `readMnemonics_eq_pieces`: Reading a source is reading its pieces.
-/

namespace OpcodeBuckets

namespace Source

/-- Whether a character separates mnemonics. -/
def isSeparator (c : Char) : Bool :=
  [' ', '\t', ',', '\r', '\n'].contains c

/-- A text without its comments, from a place inside a comment or outside of one. A
    comment goes from a number sign up to the end of its line, which stays. -/
def withoutComments (inside : Bool) : List Char → List Char
  | [] => []
  | c :: rest =>
    if c = '\r' ∨ c = '\n' then c :: withoutComments false rest
    else if inside || c == '#' then withoutComments true rest
    else c :: withoutComments false rest

/-- What separators leave of a text, empty pieces dropped. -/
def words (text : List Char) : List (List Char) :=
  (text.splitOnP isSeparator).filter fun piece => !piece.isEmpty

/-- The words of a source without its comments. -/
def pieces (source : String) : List String :=
  (words (withoutComments false source.toList)).map String.ofList

theorem isSeparator_iff {c : Char} :
    isSeparator c = true ↔ isBlank c = true ∨ c = ',' ∨ isBreak c = true := by
  rw [isSeparator, List.contains_iff_mem, isBlank_iff, isBreak_iff]
  simp only [List.mem_cons, List.not_mem_nil, or_false, or_assoc]

theorem words_nil : words [] = [] :=
  rfl

theorem words_cons_separator {c : Char} (h : isSeparator c = true) (text : List Char) :
    words (c :: text) = words text := by
  rw [words, List.splitOnP_cons_eq_if_modifyHead, if_pos h, List.filter_cons_of_neg (by decide),
    words]

/-- Splitting leaves a stretch without separators in one piece with what follows it. -/
theorem splitOnP_append {word : List Char} (hword : ∀ c ∈ word, isSeparator c = false)
    (text : List Char) :
    (word ++ text).splitOnP isSeparator =
      (text.splitOnP isSeparator).modifyHead (word ++ ·) := by
  induction word with
  | nil =>
      rw [List.nil_append]
      cases text.splitOnP isSeparator with
      | nil => rfl
      | cons head tail => rfl
  | cons c rest ih =>
      rw [List.forall_mem_cons] at hword
      rw [List.cons_append, List.splitOnP_cons_eq_if_modifyHead,
        if_neg (by rw [hword.1]; exact Bool.false_ne_true), ih hword.2, List.modifyHead_modifyHead]
      rfl

/-- A piece begins with all that stands before a separator. -/
theorem exists_words_append {word : List Char} (hne : word ≠ [])
    (hword : ∀ c ∈ word, isSeparator c = false) (text : List Char) :
    ∃ glued more, words (word ++ text) = (word ++ glued) :: more := by
  rcases List.exists_cons_of_ne_nil (List.splitOnP_ne_nil isSeparator text) with
    ⟨head, tail, hsplit⟩
  refine ⟨head, tail.filter fun piece => !piece.isEmpty, ?_⟩
  rw [words, splitOnP_append hword, hsplit, List.modifyHead_cons, List.filter_cons_of_pos]
  rw [Bool.not_eq_true', List.isEmpty_eq_false_iff]
  exact List.append_ne_nil_of_left_ne_nil hne head

/-- A word that ends where a text does or at a separator is a piece. -/
theorem words_append {word text : List Char} (hne : word ≠ [])
    (hword : ∀ c ∈ word, isSeparator c = false) (htext : ∀ c ∈ text.head?, isSeparator c = true) :
    words (word ++ text) = word :: words text := by
  have hhead : text.splitOnP isSeparator = [] :: (text.splitOnP isSeparator).tail := by
    cases text with
    | nil => rfl
    | cons c rest =>
        rw [List.splitOnP_cons_eq_if_modifyHead, if_pos (htext c rfl), List.tail_cons]
  rw [words, splitOnP_append hword, hhead, List.modifyHead_cons, List.append_nil,
    List.filter_cons_of_pos, words, hhead, List.filter_cons_of_neg (by decide), List.tail_cons]
  rwa [Bool.not_eq_true', List.isEmpty_eq_false_iff]

/-- Outside of comments all stays that is no number sign. -/
theorem withoutComments_append {word : List Char} (hword : '#' ∉ word) (text : List Char) :
    withoutComments false (word ++ text) = word ++ withoutComments false text := by
  induction word with
  | nil => rfl
  | cons c rest ih =>
      rw [List.mem_cons, not_or] at hword
      have hc : ¬ (false || c == '#') = true := by
        rw [Bool.false_or, beq_iff_eq]
        exact Ne.symm hword.1
      rw [List.cons_append, withoutComments, if_neg hc, ite_self, ih hword.2, List.cons_append]

/-- A comment is gone without a trace, and the line end behind it stays. -/
theorem withoutComments_comment {body text : List Char} (hbody : ∀ c ∈ body, isBreak c = false)
    (htext : ∀ c ∈ text.head?, isBreak c = true) :
    withoutComments false ('#' :: body ++ text) = withoutComments false text := by
  -- Behind the number sign all is dropped up to the first break.
  have hinside : withoutComments true (body ++ text) = withoutComments false text := by
    induction body with
    | nil =>
        cases text with
        | nil => rfl
        | cons c rest =>
            have hc := isBreak_iff.mp (htext c rfl)
            rw [List.nil_append, withoutComments, if_pos hc, withoutComments, if_pos hc]
    | cons c rest ih =>
        rw [List.forall_mem_cons] at hbody
        have hc : ¬ (c = '\r' ∨ c = '\n') := by
          rw [← isBreak_iff, hbody.1]
          exact Bool.false_ne_true
        rw [List.cons_append, withoutComments, if_neg hc, Bool.true_or, if_pos rfl, ih hbody.2]
  rw [List.cons_append, withoutComments, if_neg (by decide), if_pos (by decide), hinside]

/-- Inside of a comment nothing stays up to the end of the line. -/
theorem isSeparator_of_head_withoutComments (text : List Char) :
    ∀ c ∈ (withoutComments true text).head?, isSeparator c = true := by
  induction text with
  | nil => exact fun c hc => nomatch hc
  | cons first rest ih =>
      intro c hc
      by_cases hfirst : first = '\r' ∨ first = '\n'
      · rw [withoutComments, if_pos hfirst, List.head?_cons, Option.mem_some_iff] at hc
        rw [isSeparator_iff, isBreak_iff, ← hc]
        exact Or.inr (Or.inr hfirst)
      · rw [withoutComments, if_neg hfirst, Bool.true_or, if_pos rfl] at hc
        exact ih c hc

/-- Tokens that are free of faults and name the given instructions. -/
def Reads (tokens : List Token) (instructions : List Instruction) : Prop :=
  tokens.filterMap Token.error? = [] ∧ tokens.filterMap Token.instruction? = instructions

theorem readMnemonics_eq_ok_iff {source : String} {instructions : List Instruction} :
    readMnemonics source = .ok instructions ↔ Reads (Token.scan source) instructions := by
  rw [readMnemonics, Reads]
  cases (Token.scan source).filterMap Token.error? with
  | nil => simp only [Except.ok.injEq, true_and]
  | cons first rest => simp only [reduceCtorEq, false_and]

theorem readMnemonics_eq_error_iff {source : String} {errors : List SourceError} :
    readMnemonics source = .error errors ↔
      (Token.scan source).filterMap Token.error? = errors ∧ errors ≠ [] := by
  rw [readMnemonics]
  cases (Token.scan source).filterMap Token.error? with
  | nil => simp only [reduceCtorEq, false_iff, not_and, not_not, eq_comm, imp_self]
  | cons first rest =>
      simp only [Except.error.injEq, iff_self_and]
      rintro rfl
      exact List.cons_ne_nil first rest

theorem ofMnemonic?_eq_some_iff {text : String} {i : Instruction} :
    Instruction.ofMnemonic? text = some i ↔ text = i.mnemonic := by
  constructor
  · intro h
    rw [Instruction.ofMnemonic?] at h
    have hfound := List.find?_some h
    exact (beq_iff_eq.mp hfound).symm
  · rintro rfl
    exact Instruction.ofMnemonic?_mnemonic i

theorem reads_nil {instructions : List Instruction} :
    Reads [] instructions ↔ instructions = [] := by
  rw [Reads, List.filterMap_nil, List.filterMap_nil, eq_self, true_and, eq_comm]

theorem reads_cons_trivia {token : Token} (h : token.isTrivia = true) (tokens : List Token)
    (instructions : List Instruction) :
    Reads (token :: tokens) instructions ↔ Reads tokens instructions := by
  rcases token with ⟨kind, span, text⟩
  cases kind with
  | mnemonic => exact absurd h Bool.false_ne_true
  | stray => exact absurd h Bool.false_ne_true
  | comma | whitespace | comment | lineBreak => rfl

theorem not_reads_cons_stray {token : Token} (h : token.kind = .stray) (tokens : List Token)
    (instructions : List Instruction) : ¬ Reads (token :: tokens) instructions := by
  rintro ⟨herrors, _⟩
  have herror : token.error? = some ⟨token.span, .unexpectedCharacter token.text⟩ := by
    simp only [Token.error?, Token.fault?, h, Option.map_some]
  rw [List.filterMap_cons_some herror] at herrors
  exact List.cons_ne_nil _ _ herrors

theorem reads_cons_mnemonic {token : Token} (h : token.kind = .mnemonic) (tokens : List Token)
    (instructions : List Instruction) :
    Reads (token :: tokens) instructions ↔
      ∃ i rest, instructions = i :: rest ∧ token.text = i.mnemonic ∧ Reads tokens rest := by
  cases hi : Instruction.ofMnemonic? token.text with
  | none =>
      -- The word is no mnemonic: a fault on one side, no such instruction on the other.
      have herror : token.error? = some ⟨token.span, .unknownMnemonic token.text⟩ := by
        simp only [Token.error?, Token.fault?, h, hi, Option.isNone_none, if_true, Option.map_some]
      refine iff_of_false ?_ ?_
      · rintro ⟨herrors, _⟩
        rw [List.filterMap_cons_some herror] at herrors
        exact List.cons_ne_nil _ _ herrors
      · rintro ⟨i, _, _, htext, _⟩
        rw [ofMnemonic?_eq_some_iff.mpr htext] at hi
        exact nomatch hi
  | some i =>
      have herror : token.error? = none := by
        simp only [Token.error?, Token.fault?, h, hi, Option.isNone_some, Bool.false_eq_true,
          if_false, Option.map_none]
      have hinstruction : token.instruction? = some i := by
        simp only [Token.instruction?, h, hi]
      rw [Reads, List.filterMap_cons_none herror, List.filterMap_cons_some hinstruction]
      constructor
      · rintro ⟨herrors, hrest⟩
        exact ⟨i, _, hrest.symm, ofMnemonic?_eq_some_iff.mp hi, herrors, rfl⟩
      · rintro ⟨j, rest, rfl, htext, herrors, hrest⟩
        rw [ofMnemonic?_eq_some_iff.mpr htext, Option.some.injEq] at hi
        exact ⟨herrors, by rw [hi, hrest]⟩

/-- A mnemonic is a word: it begins with a letter, and digits come later if at all. -/
theorem shape_mnemonic (i : Instruction) : TokenKind.Shape .mnemonic i.mnemonic.toList := by
  have hhead : i.mnemonic.toList.head?.any isWordStart = true := by
    cases i <;> decide
  have hall : i.mnemonic.toList.all isWordPart = true := by
    cases i <;> decide
  cases hchars : i.mnemonic.toList with
  | nil =>
      rw [hchars] at hhead
      exact absurd hhead Bool.false_ne_true
  | cons first rest =>
      rw [hchars] at hhead hall
      rw [List.all_cons, Bool.and_eq_true, List.all_eq_true] at hall
      refine TokenKind.shape_iff.mpr ⟨first, rest, rfl, ?_, hall.2⟩
      exact TokenKind.begins_iff.mp (isWordStart_iff.mp hhead)

/-- The characters that begin trivia are the separators and the number sign. -/
theorem isTrivia_ofFirst_iff {c : Char} :
    (TokenKind.ofFirst c).isTrivia = true ↔ isSeparator c = true ∨ c = '#' := by
  constructor
  · intro h
    have hbegins := TokenKind.begins_ofFirst c
    rw [isSeparator_iff, isBlank_iff, isBreak_iff]
    cases hkind : TokenKind.ofFirst c with
    | mnemonic => rw [hkind] at h; exact absurd h Bool.false_ne_true
    | stray => rw [hkind] at h; exact absurd h Bool.false_ne_true
    | comma => rw [hkind] at hbegins; exact Or.inl (Or.inr (Or.inl hbegins))
    | whitespace => rw [hkind] at hbegins; exact Or.inl (Or.inl hbegins)
    | comment => rw [hkind] at hbegins; exact Or.inr hbegins
    | lineBreak => rw [hkind] at hbegins; exact Or.inl (Or.inr (Or.inr hbegins))
  · rw [isSeparator_iff, isBlank_iff, isBreak_iff]
    rintro (((rfl | rfl) | rfl | (rfl | rfl)) | rfl) <;> rfl

theorem not_separator_of_not_trivia {c : Char} (h : (TokenKind.ofFirst c).isTrivia = false) :
    isSeparator c = false ∧ c ≠ '#' := by
  rw [← Bool.not_eq_true, isTrivia_ofFirst_iff, not_or, Bool.not_eq_true] at h
  exact h

theorem not_trivia_of_isWordPart {c : Char} (h : isWordPart c = true) :
    (TokenKind.ofFirst c).isTrivia = false := by
  rcases isWordPart_iff.mp h with hletter | hdigit
  · have hkind : TokenKind.Begins .mnemonic c := hletter
    rw [TokenKind.begins_iff.mp hkind]
    rfl
  · rw [TokenKind.begins_iff.mp (TokenKind.begins_stray_of_isDigit hdigit)]
    rfl

theorem words_separators {blank : List Char} (hblank : ∀ c ∈ blank, isSeparator c = true)
    (text : List Char) : words (blank ++ text) = words text := by
  induction blank with
  | nil => rfl
  | cons c rest ih =>
      rw [List.forall_mem_cons] at hblank
      rw [List.cons_append, words_cons_separator hblank.1, ih hblank.2]

/-- What continues trivia that is not a comment is a separator. -/
theorem isSeparator_of_continues {kind : TokenKind} {c : Char} (htrivia : kind.isTrivia = true)
    (hkind : kind ≠ .comment) (hc : kind.continues c = true) : isSeparator c = true := by
  rw [isSeparator_iff]
  cases kind with
  | mnemonic => exact absurd htrivia Bool.false_ne_true
  | comma => exact absurd hc Bool.false_ne_true
  | whitespace => exact Or.inl hc
  | comment => exact absurd rfl hkind
  | lineBreak => exact Or.inr (Or.inr hc)
  | stray => exact absurd htrivia Bool.false_ne_true

/-- Trivia leaves no piece and joins none. -/
theorem words_trivia {first : Char} {body behind : List Char}
    (htrivia : (TokenKind.ofFirst first).isTrivia = true)
    (hcontinues : ∀ c ∈ body, (TokenKind.ofFirst first).continues c = true)
    (hstop : ∀ c ∈ behind.head?, (TokenKind.ofFirst first).continues c = false) :
    words (withoutComments false (first :: body ++ behind)) =
      words (withoutComments false behind) := by
  by_cases hsign : first = '#'
  · subst hsign
    have hbreak : ∀ c, (TokenKind.ofFirst '#').continues c = !isBreak c := fun _ => rfl
    simp only [hbreak, Bool.not_eq_true', Bool.not_eq_false'] at hcontinues hstop
    rw [withoutComments_comment hcontinues hstop]
  · -- All other trivia consists of separators, which stay and leave nothing.
    have hkind : TokenKind.ofFirst first ≠ .comment := fun h =>
      hsign (TokenKind.begins_iff.mpr h)
    have hseparators : ∀ c ∈ first :: body, isSeparator c = true := by
      rw [List.forall_mem_cons]
      refine ⟨?_, fun c hc => isSeparator_of_continues htrivia hkind (hcontinues c hc)⟩
      exact (isTrivia_ofFirst_iff.mp htrivia).resolve_right hsign
    have hnosign : '#' ∉ first :: body := fun h => absurd (hseparators '#' h) (by decide)
    rw [withoutComments_append hnosign, words_separators hseparators]

/-- Behind a token that trivia follows there is no piece to be glued to. -/
theorem isSeparator_of_head_of_trivia {text : List Char}
    (htext : ∀ c ∈ text.head?, (TokenKind.ofFirst c).isTrivia = true) :
    ∀ c ∈ (withoutComments false text).head?, isSeparator c = true := by
  cases text with
  | nil => exact fun c hc => nomatch hc
  | cons first rest =>
      intro c hc
      rcases isTrivia_ofFirst_iff.mp (htext first rfl) with hseparator | rfl
      · have hsign : '#' ∉ [first] := fun h => by
          rw [List.mem_singleton] at h
          exact absurd (h ▸ hseparator) (by decide)
        rw [← List.singleton_append, withoutComments_append hsign, List.singleton_append,
          List.head?_cons, Option.mem_some_iff] at hc
        exact hc ▸ hseparator
      · -- The comment goes, and what is behind it begins with the end of its line.
        rw [withoutComments, if_neg (by decide), if_pos (by decide)] at hc
        exact isSeparator_of_head_withoutComments rest c hc

theorem isWordPart_of_mem_mnemonic {i : Instruction} {c : Char} (h : c ∈ i.mnemonic.toList) :
    isWordPart c = true := by
  rcases shape_mnemonic i with ⟨first, rest, hchars, hfirst, hrest⟩
  rw [hchars, List.mem_cons] at h
  rw [isWordPart_iff]
  rcases h with rfl | h
  · exact Or.inl hfirst
  · exact hrest c h

/-- If all pieces are mnemonics, what a text begins with is the beginning of one, unless
    trivia is in it. -/
theorem exists_prefix_of_words {front text : List Char} {instructions : List Instruction}
    (hne : front ≠ []) (hfront : ∀ c ∈ front, (TokenKind.ofFirst c).isTrivia = false)
    (h : words (withoutComments false (front ++ text)) =
      instructions.map fun i => i.mnemonic.toList) :
    ∃ i ∈ instructions, front <+: i.mnemonic.toList := by
  -- Nothing of the front is dropped and nothing splits it, so a piece begins with it.
  have hsign : '#' ∉ front := fun hmem => (not_separator_of_not_trivia (hfront '#' hmem)).2 rfl
  have hseparator : ∀ c ∈ front, isSeparator c = false := fun c hc =>
    (not_separator_of_not_trivia (hfront c hc)).1
  rcases exists_words_append hne hseparator (withoutComments false text) with ⟨glued, more, hwords⟩
  rw [withoutComments_append hsign, hwords, eq_comm, List.map_eq_cons_iff] at h
  rcases h with ⟨i, rest, rfl, hi, _⟩
  exact ⟨i, List.mem_cons_self, hi ▸ List.prefix_append front glued⟩

/-- A word is a piece of its own when trivia or nothing is behind it. -/
theorem words_of_word {word text : List Char} (hne : word ≠ [])
    (hword : ∀ c ∈ word, isWordPart c = true)
    (htext : ∀ c ∈ text.head?, (TokenKind.ofFirst c).isTrivia = true) :
    words (withoutComments false (word ++ text)) = word :: words (withoutComments false text) := by
  have hplain := fun c hc => not_separator_of_not_trivia (not_trivia_of_isWordPart (hword c hc))
  rw [withoutComments_append fun hmem => (hplain '#' hmem).2 rfl]
  exact words_append hne (fun c hc => (hplain c hc).1) (isSeparator_of_head_of_trivia htext)

/-- No mnemonic begins with a stray character. -/
theorem words_ne_of_stray {first : Char} {text : List Char} (h : TokenKind.ofFirst first = .stray)
    (instructions : List Instruction) :
    words (withoutComments false (first :: text)) ≠
      instructions.map fun i => i.mnemonic.toList := by
  intro hwords
  have htrivia : ∀ c ∈ [first], (TokenKind.ofFirst c).isTrivia = false := by
    rw [List.forall_mem_singleton, h]
    rfl
  rcases exists_prefix_of_words (List.cons_ne_nil first []) htrivia hwords with ⟨i, _, hpre⟩
  rcases TokenKind.shape_iff.mp (shape_mnemonic i) with ⟨letter, rest, hchars, hletter, _⟩
  rw [hchars, List.cons_prefix_cons] at hpre
  rw [hpre.1, hletter] at h
  exact nomatch h

/-- No mnemonic has a stray character behind a word in it. -/
theorem words_ne_of_word_stray {word text : List Char} {glued : Char}
    (hword : ∀ c ∈ word, isWordPart c = true) (hpart : isWordPart glued = false)
    (hglued : TokenKind.ofFirst glued = .stray) (instructions : List Instruction) :
    words (withoutComments false (word ++ glued :: text)) ≠
      instructions.map fun i => i.mnemonic.toList := by
  intro hwords
  rw [List.append_cons] at hwords
  have htrivia : ∀ c ∈ word ++ [glued], (TokenKind.ofFirst c).isTrivia = false := by
    rw [List.forall_mem_append, List.forall_mem_singleton, hglued]
    exact ⟨fun c hc => not_trivia_of_isWordPart (hword c hc), rfl⟩
  have hne : word ++ [glued] ≠ [] := List.append_ne_nil_of_right_ne_nil word (List.cons_ne_nil _ _)
  rcases exists_prefix_of_words hne htrivia hwords with ⟨i, _, hpre⟩
  have hmem : glued ∈ word ++ [glued] := List.mem_append_right word List.mem_cons_self
  rw [isWordPart_of_mem_mnemonic (hpre.subset hmem)] at hpart
  exact nomatch hpart

/-- A character that does not continue a word and is no trivia is stray. -/
theorem ofFirst_eq_stray {c : Char} (hpart : isWordPart c = false)
    (htrivia : (TokenKind.ofFirst c).isTrivia = false) : TokenKind.ofFirst c = .stray := by
  have hbegins := TokenKind.begins_ofFirst c
  cases hkind : TokenKind.ofFirst c with
  | mnemonic =>
      rw [hkind] at hbegins
      rw [isWordPart_iff.mpr (Or.inl hbegins)] at hpart
      exact nomatch hpart
  | stray => rfl
  | comma | whitespace | comment | lineBreak =>
      rw [hkind] at htrivia
      exact nomatch htrivia

/-- Scanned tokens read as the words of their text. Trivia leaves both sides as they
    are. A stray token is a fault, and a piece with a stray character is no mnemonic.
    A word is a piece when trivia or nothing is behind it, and else a stray character is. -/
theorem reads_scanFrom_iff {start : Nat} {text : List Char} {instructions : List Instruction} :
    Reads (Token.scanFrom start text) instructions ↔
      words (withoutComments false text) = instructions.map fun i => i.mnemonic.toList := by
  induction text using Token.token_induction generalizing start instructions with
  | nil =>
      rw [Token.scanFrom_nil, reads_nil, withoutComments, words_nil, eq_comm (a := []),
        List.map_eq_nil_iff]
  | cons first body behind hcontinues hstop ih =>
      rw [Token.scanFrom_append start hcontinues hstop]
      cases hkind : TokenKind.ofFirst first with
      | comma | whitespace | comment | lineBreak =>
          have htrivia : (TokenKind.ofFirst first).isTrivia = true := by
            rw [hkind]
            rfl
          rw [reads_cons_trivia rfl, words_trivia htrivia hcontinues hstop, ih]
      | stray =>
          refine iff_of_false (not_reads_cons_stray rfl _ _) ?_
          exact words_ne_of_stray hkind instructions
      | mnemonic =>
          rw [hkind] at hcontinues hstop
          have hword : ∀ c ∈ first :: body, isWordPart c = true := by
            have hletter : IsLetter first := TokenKind.begins_iff.mpr hkind
            exact List.forall_mem_cons.mpr ⟨isWordPart_iff.mpr (Or.inl hletter), hcontinues⟩
          by_cases hends : ∀ c ∈ behind.head?, (TokenKind.ofFirst c).isTrivia = true
          · -- The word is a piece, and the rest of the pieces are those of the rest.
            rw [reads_cons_mnemonic rfl, words_of_word (List.cons_ne_nil _ _) hword hends, eq_comm,
              List.map_eq_cons_iff]
            simp only [ih, String.ofList_eq, eq_comm]
          · -- What is behind the word neither continues it nor is trivia.
            push Not at hends
            rcases hends with ⟨glued, hglued, hsolid⟩
            rcases List.head?_eq_some_iff.mp hglued with ⟨rest, rfl⟩
            have hpart : isWordPart glued = false := hstop glued rfl
            have hstray := ofFirst_eq_stray hpart (Bool.eq_false_iff.mpr hsolid)
            refine iff_of_false (fun hreads => ?_)
              (words_ne_of_word_stray hword hpart hstray instructions)
            rw [reads_cons_mnemonic rfl] at hreads
            rcases hreads with ⟨_, _, _, _, hrest⟩
            rw [Token.scanFrom_cons] at hrest
            exact not_reads_cons_stray hstray _ _ hrest

/-- Reading a source is reading its pieces: the reader accepts a source exactly when
    every piece is a mnemonic, and then the pieces are the mnemonics of what it returns. A
    piece that is no mnemonic, and nothing else, has it refuse the source. -/
theorem readMnemonics_eq_pieces (source : String) :
    (∀ instructions, readMnemonics source = .ok instructions ↔
      pieces source = instructions.map Instruction.mnemonic) ∧
    ((∃ piece ∈ pieces source, ∀ i : Instruction, i.mnemonic ≠ piece) ↔
      ∃ errors, readMnemonics source = .error errors) := by
  have hok : ∀ instructions, readMnemonics source = .ok instructions ↔
      pieces source = instructions.map Instruction.mnemonic := by
    intro instructions
    have hmap : instructions.map Instruction.mnemonic =
        (instructions.map fun i => i.mnemonic.toList).map String.ofList := by
      simp only [List.map_map, Function.comp_def, String.ofList_toList]
    rw [readMnemonics_eq_ok_iff, Token.scan, reads_scanFrom_iff, pieces, hmap]
    exact (List.map_injective_iff.mpr fun _ _ => String.ofList_injective).eq_iff.symm
  refine ⟨hok, ?_, ?_⟩
  · rintro ⟨piece, hmem, hnone⟩
    cases hread : readMnemonics source with
    | error errors => exact ⟨errors, rfl⟩
    | ok instructions =>
        rw [(hok instructions).mp hread, List.mem_map] at hmem
        rcases hmem with ⟨i, _, hi⟩
        exact absurd hi (hnone i)
  · rintro ⟨errors, hread⟩
    -- Were all pieces mnemonics, they would be those of a list, and it would be accepted.
    by_contra hall
    push Not at hall
    have hrange : pieces source ∈ Set.range (List.map Instruction.mnemonic) := by
      rw [Set.range_list_map]
      exact hall
    rcases hrange with ⟨instructions, hinstructions⟩
    rw [(hok instructions).mpr hinstructions.symm] at hread
    exact nomatch hread

example : pieces "push,dup;#swap\rpop 9add" = ["push", "dup;", "pop", "9add"] := by
  decide

end Source

end OpcodeBuckets
