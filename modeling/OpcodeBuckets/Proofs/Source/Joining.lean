import OpcodeBuckets.Proofs.Source.Pieces

/-!
# Sources Joined at a Separator

Two sources with a separator between them read as one after the other.

Tokens do not respect the seam. A space behind a space is one token with it, a
line feed behind a carriage return too, and a comment takes in whatever follows
on its line. What follows a text can change the last of its tokens and none
before it, `exists_endsIn`, so it is enough to look at that one.

If it is trivia of separators, joining may lengthen it, and separators mean
nothing however they are grouped: they can be dropped one by one without a token
of any weight being touched. If it is a word or a stray character it stands as it
is, since no trivia continues either. If it is a comment, only a line break keeps
it apart from the text behind, which is the one condition on a seam. A comment
put at the end is safe anywhere, even behind another: it is itself all that a
longer comment takes in.

Behind the seam everything is read as by itself, at offsets that are as much
greater as the text in front is long.

## Main definitions

* `Token.significant`: The tokens that are not trivia.
* `Token.shift`, `SourceError.shift`: A token or an error further on in a source.
* `Token.EndsIn`: A text with its last token set apart.
* `errorsOf`: The errors of an outcome, of which acceptance has none.

## Theorems

* `Token.scanFrom_shift`: Tokens of a text that begins further on.
* `Token.exists_endsIn`: What follows a text changes its last token at most.
* `Token.significant_scanFrom_separator`: A separator in front of a text is nothing.
* `Token.significant_scanFrom_append`: The tokens of a text joined to another.
* `Token.significant_scanFrom_comment`: A comment at the end of a text is nothing.
* `readMnemonics_compositional`: Reading what is joined.
-/

namespace OpcodeBuckets

namespace Source

namespace Token

/-- The tokens that do more than separate others. -/
def significant (tokens : List Token) : List Token :=
  tokens.filter fun token => !token.isTrivia

/-- A token so many bytes further on in a source. -/
def shift (distance : Nat) (token : Token) : Token :=
  { token with span := token.span.shift distance }

theorem significant_append (front back : List Token) :
    significant (front ++ back) = significant front ++ significant back :=
  List.filter_append front back

theorem significant_map_shift (distance : Nat) (tokens : List Token) :
    significant (tokens.map (shift distance)) = (significant tokens).map (shift distance) :=
  List.filter_map

theorem shift_ofSize (distance start size : Nat) :
    (Span.ofSize start size).shift distance = .ofSize (start + distance) size := by
  rw [span_eq_ofSize_iff]
  exact ⟨rfl, Nat.add_right_comm start size distance⟩

/-- The tokens of a text that begins further on are the same, further on. -/
theorem scanFrom_shift (distance start : Nat) (text : List Char) :
    scanFrom (start + distance) text = (scanFrom start text).map (shift distance) := by
  induction text using token_induction generalizing start with
  | nil => rw [scanFrom_nil, scanFrom_nil, List.map_nil]
  | cons first body behind hcontinues hstop ih =>
      rw [scanFrom_append _ hcontinues hstop, scanFrom_append _ hcontinues hstop, List.map_cons,
        shift, shift_ofSize, ← ih, Nat.add_right_comm]

/-- A text that one token takes in whole. -/
theorem scanFrom_eq_singleton (start : Nat) {first : Char} {body : List Char}
    (hcontinues : ∀ c ∈ body, (TokenKind.ofFirst first).continues c = true) :
    scanFrom start (first :: body) =
      [⟨.ofFirst first, .ofSize start (Text.byteSize (first :: body)),
        .ofList (first :: body)⟩] := by
  have hstop : ∀ c ∈ ([] : List Char).head?, (TokenKind.ofFirst first).continues c = false :=
    fun _ hc => nomatch hc
  have hscan := scanFrom_append start hcontinues hstop
  rwa [List.append_nil, scanFrom_nil] at hscan

/-- A text whose last token is a first character with a body, and that has all its other
    tokens whatever follows it. -/
structure EndsIn (text before : List Char) (first : Char) (body : List Char) : Prop where
  /-- The last token stands at the end. -/
  eq_append : text = before ++ first :: body
  /-- It is a token by itself. -/
  continues : ∀ c ∈ body, (TokenKind.ofFirst first).continues c = true
  /-- What follows is scanned together with the last token, and apart from the others. -/
  scanFrom_append : ∀ start back, scanFrom start (text ++ back) =
    scanFrom start before ++ scanFrom (start + Text.byteSize before) (first :: body ++ back)

/-- What follows a text changes its last token at most. By induction along the text: a
    token that has another behind it ends there, whatever comes after that one. -/
theorem exists_endsIn {text : List Char} (hne : text ≠ []) :
    ∃ before first body, EndsIn text before first body := by
  induction text using token_induction with
  | nil => exact absurd rfl hne
  | cons first body behind hcontinues hstop ih =>
      cases behind with
      | nil =>
          refine ⟨[], first, body, List.append_nil _, hcontinues, fun start back => ?_⟩
          rw [List.append_nil, scanFrom_nil, List.nil_append, Text.byteSize_nil, Nat.add_zero]
      | cons c rest =>
          rcases ih (List.cons_ne_nil c rest) with ⟨before, last, tail, hbehind, htail, hscan⟩
          refine ⟨first :: body ++ before, last, tail, ?_, htail, fun start back => ?_⟩
          · rw [hbehind, List.append_assoc]
          · -- Cut off before its last token or not, the text behind goes on with `c` if at all.
            have hbefore : ∀ d ∈ before.head?, (TokenKind.ofFirst first).continues d = false := by
              intro d hd
              rcases List.head?_eq_some_iff.mp hd with ⟨more, rfl⟩
              rw [List.cons_append, List.cons.injEq] at hbehind
              exact hstop d (congrArg some hbehind.1)
            have hback : ∀ d ∈ (c :: rest ++ back).head?,
                (TokenKind.ofFirst first).continues d = false := hstop
            rw [List.append_assoc, Token.scanFrom_append start hcontinues hback, hscan,
              Token.scanFrom_append start hcontinues hbefore, Text.byteSize_append, Nat.add_assoc]
            rfl

theorem EndsIn.scanFrom_eq {text before body : List Char} {first : Char}
    (h : EndsIn text before first body) (start : Nat) :
    scanFrom start text =
      scanFrom start before ++ scanFrom (start + Text.byteSize before) (first :: body) := by
  have hscan := h.scanFrom_append start []
  rwa [List.append_nil, List.append_nil] at hscan

theorem EndsIn.exists_getLast? {text before body : List Char} {first : Char}
    (h : EndsIn text before first body) (start : Nat) :
    ∃ token ∈ (scanFrom start text).getLast?, token.kind = TokenKind.ofFirst first := by
  rw [h.scanFrom_eq, scanFrom_eq_singleton _ h.continues, List.getLast?_append,
    List.getLast?_singleton, Option.some_or]
  exact ⟨_, rfl, rfl⟩

/-- Trivia at the front of a text is not significant. -/
theorem significant_scanFrom_trivia {first : Char}
    (htrivia : (TokenKind.ofFirst first).isTrivia = true) (start : Nat) (rest : List Char) :
    significant (scanFrom start (first :: rest)) =
      significant (scanFrom
        (start + Text.byteSize (first :: rest.takeWhile (TokenKind.ofFirst first).continues))
        (rest.dropWhile (TokenKind.ofFirst first).continues)) := by
  rw [scanFrom_cons, significant, List.filter_cons_of_neg]
  · rfl
  · rw [isTrivia, htrivia]
    exact Bool.false_ne_true

/-- What continues separators begins a token of the same kind. -/
theorem ofFirst_eq_of_continues {c d : Char} (hc : isSeparator c = true)
    (hd : (TokenKind.ofFirst c).continues d = true) : TokenKind.ofFirst d = .ofFirst c := by
  rcases isSeparator_iff.mp hc with hblank | rfl | hbreak
  · have hkind : TokenKind.ofFirst c = .whitespace :=
      TokenKind.begins_iff.mp (isBlank_iff.mp hblank)
    rw [hkind] at hd ⊢
    exact TokenKind.begins_iff.mp (isBlank_iff.mp hd)
  · -- Nothing continues a comma.
    exact absurd hd Bool.false_ne_true
  · have hkind : TokenKind.ofFirst c = .lineBreak :=
      TokenKind.begins_iff.mp (isBreak_iff.mp hbreak)
    rw [hkind] at hd ⊢
    exact TokenKind.begins_iff.mp (isBreak_iff.mp hd)

/-- A separator in front of a text is dropped without a trace, though it may be part of
    a longer token. -/
theorem significant_scanFrom_separator {c : Char} (hc : isSeparator c = true) (start : Nat)
    (rest : List Char) :
    significant (scanFrom start (c :: rest)) =
      significant (scanFrom (start + c.utf8Size) rest) := by
  have htrivia : (TokenKind.ofFirst c).isTrivia = true := isTrivia_ofFirst_iff.mpr (Or.inl hc)
  rw [significant_scanFrom_trivia htrivia]
  cases rest with
  | nil => rw [List.takeWhile_nil, List.dropWhile_nil, scanFrom_nil, scanFrom_nil]
  | cons d rest =>
      by_cases hd : (TokenKind.ofFirst c).continues d = true
      · -- The next character would begin the rest of the same token.
        have hkind := ofFirst_eq_of_continues hc hd
        rw [List.takeWhile_cons_of_pos hd, List.dropWhile_cons_of_pos hd,
          significant_scanFrom_trivia (by rwa [hkind]), hkind, Text.byteSize_cons, Nat.add_assoc]
      · rw [List.takeWhile_cons_of_neg hd, List.dropWhile_cons_of_neg hd, Text.byteSize_cons,
          Text.byteSize_nil, Nat.add_zero]

theorem significant_scanFrom_separators {blank : List Char}
    (hblank : ∀ c ∈ blank, isSeparator c = true) (start : Nat) (rest : List Char) :
    significant (scanFrom start (blank ++ rest)) =
      significant (scanFrom (start + Text.byteSize blank) rest) := by
  induction blank generalizing start with
  | nil => rw [List.nil_append, Text.byteSize_nil, Nat.add_zero]
  | cons c more ih =>
      rw [List.forall_mem_cons] at hblank
      rw [List.cons_append, significant_scanFrom_separator hblank.1, ih hblank.2,
        Text.byteSize_cons, Nat.add_assoc]

theorem isSeparator_of_token {first : Char} {body : List Char} (hfirst : isSeparator first = true)
    (hcontinues : ∀ c ∈ body, (TokenKind.ofFirst first).continues c = true) :
    ∀ c ∈ first :: body, isSeparator c = true := by
  have htrivia : (TokenKind.ofFirst first).isTrivia = true :=
    isTrivia_ofFirst_iff.mpr (Or.inl hfirst)
  have hkind : TokenKind.ofFirst first ≠ .comment := by
    intro h
    rw [show first = '#' from TokenKind.begins_iff.mpr h] at hfirst
    exact absurd hfirst (by decide)
  exact List.forall_mem_cons.mpr
    ⟨hfirst, fun c hc => isSeparator_of_continues htrivia hkind (hcontinues c hc)⟩

/-- Trivia continues separators, or a comment if it is no line break, and nothing else. -/
theorem not_continues_of_trivia {first c : Char} (hfirst : isSeparator first = false)
    (hc : (TokenKind.ofFirst c).isTrivia = true)
    (hcomment : TokenKind.ofFirst first = .comment → isBreak c = true) :
    (TokenKind.ofFirst first).continues c = false := by
  cases hkind : TokenKind.ofFirst first with
  | mnemonic =>
      refine Bool.eq_false_iff.mpr fun hpart => ?_
      have hsolid := not_trivia_of_isWordPart hpart
      rw [hc] at hsolid
      exact Bool.noConfusion hsolid
  | comment =>
      rw [TokenKind.continues, hcomment hkind]
      rfl
  | comma | stray => rfl
  | whitespace | lineBreak =>
      -- These begin with separators.
      have htrivia : (TokenKind.ofFirst first).isTrivia = true := by
        rw [hkind]
        rfl
      rcases isTrivia_ofFirst_iff.mp htrivia with hseparator | rfl
      · rw [hseparator] at hfirst
        exact Bool.noConfusion hfirst
      · exact absurd hkind (by decide)

/-- Behind a token a text may be cut where trivia comes that is not part of a comment.
    Separators may merge over the cut, and all else stops by itself. -/
theorem significant_scanFrom_seam {first : Char} {body back : List Char}
    (hcontinues : ∀ c ∈ body, (TokenKind.ofFirst first).continues c = true)
    (hback : ∀ c ∈ back.head?, (TokenKind.ofFirst c).isTrivia = true)
    (hcomment : TokenKind.ofFirst first = .comment → ∀ c ∈ back.head?, isBreak c = true)
    (start : Nat) :
    significant (scanFrom start (first :: body ++ back)) =
      significant (scanFrom start (first :: body)) ++
        significant (scanFrom (start + Text.byteSize (first :: body)) back) := by
  cases hseparator : isSeparator first with
  | true =>
      -- The token is made of separators, so nothing of it is left on either side.
      have hblank := isSeparator_of_token hseparator hcontinues
      have hnothing := significant_scanFrom_separators hblank start []
      rw [List.append_nil, scanFrom_nil] at hnothing
      rw [significant_scanFrom_separators hblank, hnothing]
      rfl
  | false =>
      have hstop : ∀ c ∈ back.head?, (TokenKind.ofFirst first).continues c = false := fun c hc =>
        not_continues_of_trivia hseparator (hback c hc) fun h => hcomment h c hc
      rw [scanFrom_append start hcontinues hstop, scanFrom_eq_singleton start hcontinues,
        ← significant_append, List.singleton_append]

/-- Joined to a text that begins with trivia, a text has the significant tokens of both.
    Only a comment at its end needs more: a line break behind it. -/
theorem significant_scanFrom_append {front back : List Char} (start : Nat)
    (hback : ∀ c ∈ back.head?, (TokenKind.ofFirst c).isTrivia = true)
    (hcomment : (∀ c ∈ back.head?, isBreak c = true) ∨
      ∀ token ∈ (scanFrom start front).getLast?, token.kind ≠ .comment) :
    significant (scanFrom start (front ++ back)) =
      significant (scanFrom start front) ++
        significant (scanFrom (start + Text.byteSize front) back) := by
  by_cases hne : front = []
  · rw [hne, List.nil_append, scanFrom_nil, Text.byteSize_nil, Nat.add_zero]
    rfl
  · rcases exists_endsIn hne with ⟨before, first, body, hends⟩
    rcases hends.exists_getLast? start with ⟨token, htoken, hkind⟩
    have hbreak : TokenKind.ofFirst first = .comment → ∀ c ∈ back.head?, isBreak c = true := by
      intro h
      exact hcomment.resolve_right fun hlast => hlast token htoken (hkind.trans h)
    have hsize : start + Text.byteSize before + Text.byteSize (first :: body) =
        start + Text.byteSize front := by
      rw [hends.eq_append, Text.byteSize_append, Nat.add_assoc]
    rw [hends.scanFrom_append, hends.scanFrom_eq, significant_append, significant_append,
      List.append_assoc, significant_scanFrom_seam hends.continues hback hbreak, hsize]

/-- A comment at the end of a text is not significant, not even where it lengthens the
    comment that the text ends in. -/
theorem significant_scanFrom_comment {front body : List Char} (start : Nat)
    (hbody : ∀ c ∈ body, isBreak c = false) :
    significant (scanFrom start (front ++ '#' :: body)) = significant (scanFrom start front) := by
  have hline : ∀ c ∈ body, TokenKind.comment.continues c = true := by
    intro c hc
    rw [TokenKind.continues, hbody c hc]
    rfl
  have hnothing : ∀ offset, significant (scanFrom offset ('#' :: body)) = [] := by
    intro offset
    rw [scanFrom_eq_singleton offset hline]
    rfl
  by_cases hne : front = []
  · rw [hne, List.nil_append, hnothing, scanFrom_nil]
    rfl
  · rcases exists_endsIn hne with ⟨before, first, tail, hends⟩
    rw [hends.scanFrom_append, hends.scanFrom_eq, significant_append, significant_append]
    congr 1
    by_cases hkind : TokenKind.ofFirst first = .comment
    · -- The last token takes the new comment in, and is a comment before and after.
      have hlong : ∀ c ∈ tail ++ '#' :: body, (TokenKind.ofFirst first).continues c = true := by
        rw [List.forall_mem_append, hkind]
        exact ⟨hkind ▸ hends.continues, List.forall_mem_cons.mpr ⟨rfl, hline⟩⟩
      rw [List.cons_append, scanFrom_eq_singleton _ hlong,
        scanFrom_eq_singleton _ hends.continues, hkind]
      rfl
    · have hback : ∀ c ∈ ('#' :: body).head?, (TokenKind.ofFirst c).isTrivia = true := by
        rintro c ⟨⟩
        rfl
      rw [significant_scanFrom_seam hends.continues hback (fun h => absurd h hkind), hnothing,
        List.append_nil]

end Token

/-- An error so many bytes further on in a source. -/
def SourceError.shift (distance : Nat) (error : SourceError) : SourceError :=
  { error with span := error.span.shift distance }

/-- The errors of an outcome. Acceptance has none. -/
def errorsOf {α : Type} : Except (List SourceError) α → List SourceError
  | .ok _ => []
  | .error errors => errors

theorem errorsOf_readMnemonics (source : String) :
    errorsOf (readMnemonics source) = (Token.scan source).filterMap Token.error? := by
  rw [readMnemonics]
  cases (Token.scan source).filterMap Token.error? with
  | nil => rfl
  | cons first rest => rfl

/-- Tokens further on have their errors further on. -/
theorem filterMap_error?_shift (distance : Nat) (tokens : List Token) :
    (tokens.map (Token.shift distance)).filterMap Token.error? =
      (tokens.filterMap Token.error?).map (SourceError.shift distance) := by
  have hshift : ∀ token : Token,
      (token.shift distance).error? = token.error?.map (SourceError.shift distance) := by
    intro token
    rw [Token.error?, Token.error?, Option.map_map]
    rfl
  rw [List.filterMap_map, List.map_filterMap]
  exact List.filterMap_congr fun token _ => hshift token

/-- What tokens name does not depend on where they stand. -/
theorem filterMap_instruction?_shift (distance : Nat) (tokens : List Token) :
    (tokens.map (Token.shift distance)).filterMap Token.instruction? =
      tokens.filterMap Token.instruction? := by
  rw [List.filterMap_map]
  rfl

/-- Trivia has no say in what a list of tokens comes to, be it errors or instructions. -/
theorem filterMap_significant {α : Type} {meaning : Token → Option α}
    (hmeaning : ∀ token : Token, token.isTrivia = true → meaning token = none)
    (tokens : List Token) :
    (Token.significant tokens).filterMap meaning = tokens.filterMap meaning := by
  rw [Token.significant, List.filterMap_filter]
  refine List.filterMap_congr fun token _ => ?_
  by_cases htrivia : token.isTrivia = true
  · rw [hmeaning token htrivia, ite_self]
  · rw [Bool.not_eq_true] at htrivia
    rw [htrivia]
    rfl

theorem meaning_of_trivia {token : Token} (h : token.isTrivia = true) :
    token.error? = none ∧ token.instruction? = none := by
  rcases token with ⟨kind, span, text⟩
  cases kind with
  | mnemonic | stray => exact absurd h Bool.false_ne_true
  | comma | whitespace | comment | lineBreak => exact ⟨rfl, rfl⟩

theorem filterMap_error?_significant (tokens : List Token) :
    (Token.significant tokens).filterMap Token.error? = tokens.filterMap Token.error? :=
  filterMap_significant (fun _ h => (meaning_of_trivia h).1) tokens

theorem filterMap_instruction?_significant (tokens : List Token) :
    (Token.significant tokens).filterMap Token.instruction? =
      tokens.filterMap Token.instruction? :=
  filterMap_significant (fun _ h => (meaning_of_trivia h).2) tokens

/-- Sources with the same significant tokens read alike. -/
theorem readMnemonics_congr {a b : String}
    (h : Token.significant (Token.scan a) = Token.significant (Token.scan b)) :
    readMnemonics a = readMnemonics b := by
  simp only [readMnemonics, ← filterMap_error?_significant (Token.scan _),
    ← filterMap_instruction?_significant (Token.scan _), h]

/-- A separator is one byte long. -/
theorem utf8Size_of_isSeparator {c : Char} (h : isSeparator c = true) : c.utf8Size = 1 := by
  rw [isSeparator_iff, isBlank_iff, isBreak_iff] at h
  rcases h with (rfl | rfl) | rfl | (rfl | rfl) <;> rfl

section Joined

variable {a : String} {s : Char} (hs : isSeparator s = true)
  (hseam : isBreak s = true ∨ ∀ token ∈ (Token.scan a).getLast?, token.kind ≠ .comment)

include hs hseam

/-- The significant tokens of two sources with a separator between them. -/
theorem significant_scan_join (b : String) :
    Token.significant (Token.scan (a ++ .singleton s ++ b)) =
      Token.significant (Token.scan a) ++
        (Token.significant (Token.scan b)).map (Token.shift (a.utf8ByteSize + 1)) := by
  have htext : (a ++ String.singleton s ++ b).toList = a.toList ++ s :: b.toList := by
    rw [String.toList_append, String.toList_append, String.toList_singleton, List.append_assoc,
      List.singleton_append]
  have htrivia : ∀ c ∈ (s :: b.toList).head?, (TokenKind.ofFirst c).isTrivia = true := by
    rintro c ⟨⟩
    exact isTrivia_ofFirst_iff.mpr (Or.inl hs)
  have hbreak : (∀ c ∈ (s :: b.toList).head?, isBreak c = true) ∨
      ∀ token ∈ (Token.scanFrom 0 a.toList).getLast?, token.kind ≠ .comment := by
    refine hseam.imp_left fun h => ?_
    rintro c ⟨⟩
    exact h
  rw [Token.scan, htext, Token.significant_scanFrom_append 0 htrivia hbreak,
    Token.significant_scanFrom_separator hs, utf8Size_of_isSeparator hs, Text.byteSize_toList,
    Nat.add_assoc, Token.scanFrom_shift, Token.significant_map_shift]
  rfl

theorem errors_join (b : String) :
    (Token.scan (a ++ .singleton s ++ b)).filterMap Token.error? =
      errorsOf (readMnemonics a) ++
        (errorsOf (readMnemonics b)).map (SourceError.shift (a.utf8ByteSize + 1)) := by
  rw [← filterMap_error?_significant, significant_scan_join hs hseam b, List.filterMap_append,
    filterMap_error?_shift, filterMap_error?_significant, filterMap_error?_significant,
    errorsOf_readMnemonics, errorsOf_readMnemonics]

theorem instructions_join (b : String) :
    (Token.scan (a ++ .singleton s ++ b)).filterMap Token.instruction? =
      (Token.scan a).filterMap Token.instruction? ++
        (Token.scan b).filterMap Token.instruction? := by
  rw [← filterMap_instruction?_significant, significant_scan_join hs hseam b,
    List.filterMap_append, filterMap_instruction?_shift, filterMap_instruction?_significant,
    filterMap_instruction?_significant]

end Joined

/-- An outcome without errors is an acceptance. -/
theorem exists_ok_of_errorsOf_eq_nil {source : String} (h : errorsOf (readMnemonics source) = []) :
    ∃ instructions, readMnemonics source = .ok instructions := by
  rw [errorsOf_readMnemonics] at h
  exact ⟨_, readMnemonics_eq_ok_iff.mpr ⟨h, rfl⟩⟩

/-- Reading what is joined. Two sources with a separator between them, of which the
    first does not end in a comment or the separator is a line break, read as one after
    the other: when both are accepted, so are their instructions in a row, and otherwise
    the errors of both are reported, those of the second further on by the size of the
    first and of the separator. A comment at the end of a source changes nothing. -/
theorem readMnemonics_compositional (a : String) :
    (∀ (b : String) (s : Char), isSeparator s = true →
      (isBreak s = true ∨ ∀ token ∈ (Token.scan a).getLast?, token.kind ≠ .comment) →
      (∀ x y, readMnemonics a = .ok x → readMnemonics b = .ok y →
        readMnemonics (a ++ .singleton s ++ b) = .ok (x ++ y)) ∧
      ((¬ ∃ x y, readMnemonics a = .ok x ∧ readMnemonics b = .ok y) →
        readMnemonics (a ++ .singleton s ++ b) =
          .error (errorsOf (readMnemonics a) ++
            (errorsOf (readMnemonics b)).map (SourceError.shift (a.utf8ByteSize + 1))))) ∧
    ∀ c : String, (∀ character ∈ c.toList, isBreak character = false) →
      readMnemonics (a ++ "#" ++ c) = readMnemonics a := by
  refine ⟨fun b s hs hseam => ⟨fun x y hx hy => ?_, fun hrefused => ?_⟩, fun c hc => ?_⟩
  · have herrors := errors_join hs hseam b
    rw [hx, hy] at herrors
    rw [readMnemonics_eq_ok_iff] at hx hy ⊢
    exact ⟨herrors, by rw [instructions_join hs hseam b, hx.2, hy.2]⟩
  · rw [readMnemonics_eq_error_iff]
    refine ⟨errors_join hs hseam b, fun hnone => hrefused ?_⟩
    -- Without any errors both would have been accepted.
    rw [List.append_eq_nil_iff, List.map_eq_nil_iff] at hnone
    rcases exists_ok_of_errorsOf_eq_nil hnone.1 with ⟨x, hx⟩
    rcases exists_ok_of_errorsOf_eq_nil hnone.2 with ⟨y, hy⟩
    exact ⟨x, y, hx, hy⟩
  · have htext : (a ++ "#" ++ c).toList = a.toList ++ '#' :: c.toList := by
      rw [String.toList_append, String.toList_append, List.append_assoc]
      rfl
    apply readMnemonics_congr
    rw [Token.scan, htext, Token.significant_scanFrom_comment 0 hc, Token.scan]

/-- Of two refused sources joined by a tab the second has its errors eight bytes further
    on, though one of its characters is a digit that a word could go on with. Behind a
    comment a second comment is part of the first. -/
theorem readMnemonics_compositional_tab :
    isSeparator '\t' = true ∧
      (∀ token ∈ (Token.scan "push é").getLast?, token.kind ≠ .comment) ∧
      (¬ ∃ x y, readMnemonics "push é" = .ok x ∧ readMnemonics "9 Pop" = .ok y) ∧
      readMnemonics ("push é" ++ .singleton '\t' ++ "9 Pop") = .error
        [⟨.ofSize 5 2, .unexpectedCharacter "é"⟩, ⟨.ofSize 8 1, .unexpectedCharacter "9"⟩,
          ⟨.ofSize 10 3, .unknownMnemonic "Pop"⟩] ∧
      readMnemonics ("dup # swap" ++ "#" ++ " pop") = .ok [.dup] := by
  have hlast : (Token.scan "push é").getLast? = some ⟨.stray, .ofSize 5 2, "é"⟩ := by
    decide +kernel
  have hseam : ∀ token ∈ (Token.scan "push é").getLast?, token.kind ≠ .comment := by
    rw [hlast]
    rintro token ⟨⟩
    decide
  have ha : readMnemonics "push é" = .error [⟨.ofSize 5 2, .unexpectedCharacter "é"⟩] := by
    decide +kernel
  have hb : readMnemonics "9 Pop" = .error
      [⟨.ofSize 0 1, .unexpectedCharacter "9"⟩, ⟨.ofSize 2 3, .unknownMnemonic "Pop"⟩] := by
    decide +kernel
  have hrefused : ¬ ∃ x y, readMnemonics "push é" = .ok x ∧ readMnemonics "9 Pop" = .ok y := by
    rintro ⟨x, y, hx, _⟩
    rw [ha] at hx
    simp only [reduceCtorEq] at hx
  refine ⟨by decide, hseam, hrefused, ?_, ?_⟩
  · have hjoin := (readMnemonics_compositional "push é").1 "9 Pop" '\t' (by decide) (Or.inr hseam)
    rw [hjoin.2 hrefused, ha, hb]
    rfl
  · have hline : ∀ c ∈ " pop".toList, isBreak c = false := by
      rw [show " pop".toList = [' ', 'p', 'o', 'p'] from rfl]
      simp only [List.forall_mem_cons]
      exact ⟨rfl, rfl, rfl, rfl, fun c hc => absurd hc List.not_mem_nil⟩
    rw [(readMnemonics_compositional "dup # swap").2 " pop" hline]
    decide +kernel

end Source

end OpcodeBuckets
