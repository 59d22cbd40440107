import OpcodeBuckets.Proofs.Text.ByteRanges
import OpcodeBuckets.Source.Token
import Mathlib.Data.List.Chain

/-!
# The Only Tokenization

What the tokens of a source are, said without scanning it.

A tokenization is a list of tokens that fits its source in three ways. The
spans lie end to end over all of its bytes and never cut a character, so the
texts are the source again. Every text has the shape of its kind. And no token
stands before one that it should have taken in: that is the whole of being
greedy, and it is a condition on neighbours.

The conditions speak of characters by themselves and of spans by their bounds,
and know nothing of first characters or of what continues a kind. The scanner
decides a kind by one character and runs on while it can. Between the two stands
one observation about shapes, `shape_iff`: a text has the shape of a kind exactly
when its first character is of that kind and the others continue it. Read with
it, the condition on neighbours says that the next character does not continue
the token, so a token ends where the scanner ends it.

## Main definitions

* `IsLetter`, `IsDigit`: The characters of words.
* `TokenKind.Shape`: The texts of a kind.
* `Token.MayPrecede`: Whether a token may stand directly before another.
* `Token.Spans`: Tokens that lie end to end.
* `IsTokenization`: Tokens that fit a source.

## Theorems

* `TokenKind.shape_iff`: Shapes by first character and continuation.
* `Token.mayPrecede_iff`: A token ends where its kind does.
* `Token.spans_iff_laidOut`: Spans and texts, traded for each other.
* `Token.token_induction`: Induction along a text, token by token.
* `Token.shape_prefix_of_scanFrom`: A token scanned is the longest that could be.
* `Token.stop_le_of_mem_scan`: Offsets do not pass the end of the source.
* `Token.toNat_ofNat_of_mem_scan`: Words hold the offsets in a source of less than
  `2 ^ 32` bytes.
* `Token.eq_scanFrom`: Tokens of right shapes and neighbours are those scanned.
* `Token.isTokenization_iff_eq_scan`: A source has one tokenization, its scan.
-/

namespace OpcodeBuckets

namespace Source

/-- A Latin letter without accents, or an underscore. -/
def IsLetter (c : Char) : Prop :=
  ('A' ≤ c ∧ c ≤ 'Z') ∨ ('a' ≤ c ∧ c ≤ 'z') ∨ c = '_'

/-- One of the digits `0` to `9`. -/
def IsDigit (c : Char) : Prop :=
  '0' ≤ c ∧ c ≤ '9'

theorem isWordStart_iff {c : Char} : isWordStart c = true ↔ IsLetter c := by
  unfold isWordStart Char.isAlpha Char.isUpper Char.isLower
  simp only [Bool.or_eq_true, Bool.and_eq_true, decide_eq_true_eq, beq_iff_eq, IsLetter,
    Char.le_def, ge_iff_le, or_assoc]

theorem isWordPart_iff {c : Char} : isWordPart c = true ↔ IsLetter c ∨ IsDigit c := by
  rw [isWordPart, Bool.or_eq_true, isWordStart_iff]
  unfold Char.isDigit
  simp only [Bool.and_eq_true, decide_eq_true_eq, IsDigit, Char.le_def, ge_iff_le]

theorem isBlank_iff {c : Char} : isBlank c = true ↔ c = ' ' ∨ c = '\t' := by
  rw [isBlank, Bool.or_eq_true, beq_iff_eq, beq_iff_eq]

theorem isBreak_iff {c : Char} : isBreak c = true ↔ c = '\r' ∨ c = '\n' := by
  rw [isBreak, Bool.or_eq_true, beq_iff_eq, beq_iff_eq]

namespace TokenKind

/-- The texts of each kind of token. -/
def Shape : TokenKind → List Char → Prop
  | .mnemonic, text =>
    ∃ first rest, text = first :: rest ∧ IsLetter first ∧ ∀ c ∈ rest, IsLetter c ∨ IsDigit c
  | .comma, text => text = [',']
  | .whitespace, text => text ≠ [] ∧ ∀ c ∈ text, c = ' ' ∨ c = '\t'
  | .comment, text => ∃ rest, text = '#' :: rest ∧ ∀ c ∈ rest, c ≠ '\r' ∧ c ≠ '\n'
  | .lineBreak, text => text ≠ [] ∧ ∀ c ∈ text, c = '\r' ∨ c = '\n'
  | .stray, text => ∃ c, text = [c] ∧ ¬ IsLetter c ∧ c ∉ [',', '#', ' ', '\t', '\r', '\n']

/-- The characters that begin each kind of token. -/
def Begins : TokenKind → Char → Prop
  | .mnemonic, c => IsLetter c
  | .comma, c => c = ','
  | .whitespace, c => c = ' ' ∨ c = '\t'
  | .comment, c => c = '#'
  | .lineBreak, c => c = '\r' ∨ c = '\n'
  | .stray, c => ¬ IsLetter c ∧ c ∉ [',', '#', ' ', '\t', '\r', '\n']

theorem begins_ofFirst (c : Char) : (ofFirst c).Begins c := by
  rw [ofFirst]
  split_ifs with hletter hcomma hblank hsign hbreak
  · exact isWordStart_iff.mp hletter
  · exact beq_iff_eq.mp hcomma
  · exact isBlank_iff.mp hblank
  · exact beq_iff_eq.mp hsign
  · exact isBreak_iff.mp hbreak
  · -- No test held, so the character is none of those tested for.
    rw [beq_iff_eq] at hcomma hsign
    rw [isBlank_iff, not_or] at hblank
    rw [isBreak_iff, not_or] at hbreak
    refine ⟨fun h => hletter (isWordStart_iff.mpr h), ?_⟩
    simp only [List.mem_cons, List.not_mem_nil, or_false, not_or]
    exact ⟨hcomma, hsign, hblank.1, hblank.2, hbreak.1, hbreak.2⟩

/-- No character begins two kinds. -/
theorem begins_iff {kind : TokenKind} {c : Char} : kind.Begins c ↔ ofFirst c = kind := by
  constructor
  · intro h
    cases kind with
    | mnemonic => rw [ofFirst, if_pos (isWordStart_iff.mpr h)]
    | comma =>
        rw [show c = ',' from h]
        rfl
    | whitespace => rcases h with rfl | rfl <;> rfl
    | comment =>
        rw [show c = '#' from h]
        rfl
    | lineBreak => rcases h with rfl | rfl <;> rfl
    | stray =>
        -- Each test of `ofFirst` asks for a character that a stray one is not.
        have hletter : ¬ isWordStart c = true := fun hstart => h.1 (isWordStart_iff.mp hstart)
        have hothers := h.2
        simp only [List.mem_cons, List.not_mem_nil, or_false, not_or] at hothers
        simp only [ofFirst, isBlank, isBreak, hletter, hothers, Bool.or_eq_true, beq_iff_eq,
          Bool.false_eq_true, or_self, if_false]
  · rintro rfl
    exact begins_ofFirst c

/-- A run of characters, taken apart at the first. -/
theorem ne_nil_and_forall_mem_iff {p : Char → Prop} {text : List Char} :
    (text ≠ [] ∧ ∀ c ∈ text, p c) ↔
      ∃ first rest, text = first :: rest ∧ p first ∧ ∀ c ∈ rest, p c := by
  constructor
  · rintro ⟨hne, hall⟩
    rcases List.exists_cons_of_ne_nil hne with ⟨first, rest, rfl⟩
    exact ⟨first, rest, rfl, List.forall_mem_cons.mp hall⟩
  · rintro ⟨first, rest, rfl, hall⟩
    exact ⟨List.cons_ne_nil first rest, List.forall_mem_cons.mpr hall⟩

/-- A text has the shape of a kind exactly when its first character begins the kind
    and the others continue it. -/
theorem shape_iff {kind : TokenKind} {text : List Char} :
    kind.Shape text ↔
      ∃ first rest, text = first :: rest ∧ ofFirst first = kind ∧
        ∀ c ∈ rest, kind.continues c = true := by
  simp only [← begins_iff]
  -- Nothing continues a comma or a stray character.
  have hnone : ∀ {rest : List Char}, (∀ c ∈ rest, false = true) ↔ rest = [] := by
    intro rest
    rw [List.eq_nil_iff_forall_not_mem]
    simp only [Bool.false_eq_true]
  cases kind with
  | mnemonic => simp only [Shape, Begins, continues, isWordPart_iff]
  | comma =>
      simp only [Shape, Begins, continues, hnone]
      constructor
      · rintro rfl
        exact ⟨',', [], rfl, rfl, rfl⟩
      · rintro ⟨_, _, rfl, rfl, rfl⟩
        rfl
  | whitespace =>
      simp only [Shape, Begins, continues, isBlank_iff]
      exact ne_nil_and_forall_mem_iff
  | comment =>
      simp only [Shape, Begins, continues, Bool.not_eq_true', ← Bool.not_eq_true, isBreak_iff,
        not_or]
      constructor
      · rintro ⟨rest, rfl, hall⟩
        exact ⟨'#', rest, rfl, rfl, hall⟩
      · rintro ⟨_, rest, rfl, rfl, hall⟩
        exact ⟨rest, rfl, hall⟩
  | lineBreak =>
      simp only [Shape, Begins, continues, isBreak_iff]
      exact ne_nil_and_forall_mem_iff
  | stray =>
      simp only [Shape, Begins, continues, hnone]
      constructor
      · rintro ⟨c, rfl, hc⟩
        exact ⟨c, [], rfl, hc, rfl⟩
      · rintro ⟨c, _, rfl, hc, rfl⟩
        exact ⟨c, rfl, hc⟩

/-- A digit continues a word but begins none. -/
theorem begins_stray_of_isDigit {c : Char} (h : IsDigit c) : Begins .stray c := by
  simp only [IsDigit, Char.le_def, UInt32.le_iff_toNat_le] at h
  change 48 ≤ c.val.toNat ∧ c.val.toNat ≤ 57 at h
  refine ⟨fun hletter => ?_, fun hmem => ?_⟩
  · simp only [IsLetter, Char.le_def, UInt32.le_iff_toNat_le] at hletter
    rcases hletter with hupper | hlower | rfl
    · change 65 ≤ c.val.toNat ∧ c.val.toNat ≤ 90 at hupper
      omega
    · change 97 ≤ c.val.toNat ∧ c.val.toNat ≤ 122 at hlower
      omega
    · exact absurd h (by decide)
  · simp only [List.mem_cons, List.not_mem_nil, or_false] at hmem
    rcases hmem with rfl | rfl | rfl | rfl | rfl | rfl <;> exact absurd h (by decide)

end TokenKind

namespace Token

/-- Whether a token may stand directly before another without having taken in some
    of it. A stray digit counts as what a word takes in. -/
def MayPrecede (token next : Token) : Prop :=
  match token.kind with
  | .mnemonic =>
    next.kind ≠ .mnemonic ∧ ¬ (next.kind = .stray ∧ ∃ c, next.text = .singleton c ∧ IsDigit c)
  | .whitespace => next.kind ≠ .whitespace
  | .comment => next.kind = .lineBreak
  | .lineBreak => next.kind ≠ .lineBreak
  | .comma | .stray => True

/-- Tokens that lie end to end from one offset to another, none of them empty. -/
def Spans : Nat → Nat → List Token → Prop
  | start, stop, [] => start = stop
  | start, stop, token :: rest =>
    token.span.start = start ∧ start < token.span.stop ∧ Spans token.span.stop stop rest

end Token

/-- A list of tokens that fits a source. -/
structure IsTokenization (source : String) (tokens : List Token) : Prop where
  /-- The spans lie end to end over all bytes of the source, and none is empty. -/
  spans : Token.Spans 0 source.utf8ByteSize tokens
  /-- A span begins and ends between characters, and the text is what stands in it. -/
  slice : ∀ token ∈ tokens,
    Text.byteRange? token.span.start (token.span.stop - token.span.start) source.toList =
      some token.text.toList
  /-- A text has the shape of its kind. -/
  shape : ∀ token ∈ tokens, token.kind.Shape token.text.toList
  /-- No token stands before one it should have taken in. -/
  greedy : tokens.IsChain Token.MayPrecede

namespace Token

/-- A token may stand before another exactly when it ends where its kind does: the
    character behind it does not continue the kind. -/
theorem mayPrecede_iff {token next : Token} {first : Char} {rest : List Char}
    (hshape : next.kind.Shape next.text.toList) (htext : next.text.toList = first :: rest) :
    token.MayPrecede next ↔ token.kind.continues first = false := by
  -- What kind the next token is can be seen from the character it begins with.
  have hkind : ∀ kind : TokenKind, next.kind = kind ↔ kind.Begins first := by
    intro kind
    rcases TokenKind.shape_iff.mp hshape with ⟨c, body, hcons, hc, _⟩
    rw [htext, List.cons.injEq] at hcons
    rw [TokenKind.begins_iff, hcons.1, hc]
  rw [MayPrecede, ← Bool.not_eq_true]
  cases token.kind with
  | mnemonic =>
      simp only [TokenKind.continues, isWordPart_iff, not_or]
      refine and_congr (not_congr (hkind .mnemonic)) (not_congr ⟨?_, fun hdigit => ?_⟩)
      · rintro ⟨_, c, hsingle, hdigit⟩
        rw [hsingle, String.toList_singleton, List.cons.injEq] at htext
        exact htext.1 ▸ hdigit
      · -- A digit begins no word, so the token it begins is stray and holds it alone.
        have hstray : next.kind = .stray :=
          (hkind .stray).mpr (TokenKind.begins_stray_of_isDigit hdigit)
        rw [hstray] at hshape
        rcases hshape with ⟨c, hsingle, _⟩
        refine ⟨hstray, first, ?_, hdigit⟩
        rw [hsingle, List.cons.injEq] at htext
        rw [← String.toList_inj, hsingle, String.toList_singleton, htext.1]
  | comma => simp only [TokenKind.continues, Bool.false_eq_true, not_false_eq_true]
  | whitespace =>
      simp only [TokenKind.continues, isBlank_iff]
      exact not_congr (hkind .whitespace)
  | comment =>
      simp only [TokenKind.continues, Bool.not_eq_true', Bool.not_eq_false, isBreak_iff]
      exact hkind .lineBreak
  | lineBreak =>
      simp only [TokenKind.continues, isBreak_iff]
      exact not_congr (hkind .lineBreak)
  | stray => simp only [TokenKind.continues, Bool.false_eq_true, not_false_eq_true]

/-- Tokens whose texts, laid end to end, are a text that begins at an offset, and
    whose spans are where their texts come to lie. -/
def LaidOut : Nat → List Char → List Token → Prop
  | _, text, [] => text = []
  | start, text, token :: rest =>
    token.text.toList ≠ [] ∧ token.span = .ofSize start (Text.byteSize token.text.toList) ∧
      ∃ behind, text = token.text.toList ++ behind ∧
        LaidOut (start + Text.byteSize token.text.toList) behind rest

/-- Tokens that lie end to end keep to the offsets they lie between. -/
theorem bounds_of_spans {start stop : Nat} {tokens : List Token} (h : Spans start stop tokens) :
    start ≤ stop ∧ ∀ token ∈ tokens, start ≤ token.span.start ∧ token.span.stop ≤ stop := by
  induction tokens generalizing start with
  | nil => exact ⟨Nat.le_of_eq h, fun token hmem => absurd hmem List.not_mem_nil⟩
  | cons token rest ih =>
      rcases h with ⟨hstart, hlt, hrest⟩
      rcases ih hrest with ⟨hstop, hbounds⟩
      refine ⟨by omega, List.forall_mem_cons.mpr ⟨by omega, fun next hmem => ?_⟩⟩
      have hnext := hbounds next hmem
      omega

theorem span_eq_ofSize_iff {span : Span} {start size : Nat} :
    span = .ofSize start size ↔ span.start = start ∧ span.stop = start + size := by
  rcases span with ⟨spanStart, spanStop, _⟩
  rw [Span.ofSize, Span.mk.injEq]

/-- Spans that lie end to end and cut no character, with the texts that stand in
    them, are texts laid end to end. By induction on the tokens, the front growing
    by each. -/
theorem spans_iff_laidOut {front text : List Char} {tokens : List Token} :
    (Spans (Text.byteSize front) (Text.byteSize (front ++ text)) tokens ∧
      ∀ token ∈ tokens,
        Text.byteRange? token.span.start (token.span.stop - token.span.start) (front ++ text) =
          some token.text.toList) ↔
      LaidOut (Text.byteSize front) text tokens := by
  induction tokens generalizing front text with
  | nil =>
      simp only [Spans, LaidOut, Text.byteSize_append, List.not_mem_nil, false_imp_iff,
        implies_true, and_true, Nat.left_eq_add, Text.byteSize_eq_zero_iff]
  | cons token rest ih =>
      rw [Spans, LaidOut, List.forall_mem_cons, Text.byteRange?_eq_some_iff]
      constructor
      · rintro ⟨⟨hstart, hlt, hrest⟩, ⟨front', behind, htext, hfront', hsize⟩, hslices⟩
        -- The span begins where the front ends, so what is before it is the front.
        rw [List.append_assoc] at htext
        rcases Text.append_inj_of_byteSize htext (by rw [hfront', hstart]) with ⟨rfl, rfl⟩
        have hstop : token.span.stop = Text.byteSize (front ++ token.text.toList) := by
          rw [Text.byteSize_append]
          omega
        refine ⟨fun hempty => ?_, span_eq_ofSize_iff.mpr ⟨hstart, by omega⟩, behind, rfl, ?_⟩
        · rw [hempty, Text.byteSize_nil] at hsize
          omega
        · rw [← Text.byteSize_append, ← ih, List.append_assoc, ← hstop]
          exact ⟨hrest, hslices⟩
      · rintro ⟨hne, hspan, behind, rfl, hrest⟩
        rw [span_eq_ofSize_iff] at hspan
        rw [← Text.byteSize_append, ← ih, List.append_assoc] at hrest
        -- A text that is not empty takes up bytes, so the span is not empty either.
        have hpos : Text.byteSize token.text.toList ≠ 0 := by
          rwa [Ne, Text.byteSize_eq_zero_iff]
        refine ⟨⟨hspan.1, by omega, ?_⟩, ⟨front, behind, ?_, hspan.1.symm, by omega⟩, hrest.2⟩
        · rw [hspan.2, ← Text.byteSize_append]
          exact hrest.1
        · exact (List.append_assoc front _ behind).symm

/-- The first token of a text that is not empty begins with its first character. -/
theorem exists_cons_of_laidOut {start : Nat} {first : Char} {text : List Char}
    {tokens : List Token} (h : LaidOut start (first :: text) tokens) :
    ∃ token rest body, tokens = token :: rest ∧ token.text.toList = first :: body := by
  cases tokens with
  | nil => exact absurd h (List.cons_ne_nil first text)
  | cons token rest =>
      rcases h with ⟨hne, _, behind, htext, _⟩
      rcases List.exists_cons_of_ne_nil hne with ⟨c, body, hbody⟩
      rw [hbody, List.cons_append, List.cons.injEq] at htext
      exact ⟨token, rest, body, rfl, by rw [hbody, htext.1]⟩

/-- The scanner takes a token off a text that begins with it, when the character
    behind does not continue it. -/
theorem scanFrom_append (start : Nat) {first : Char} {body behind : List Char}
    (hcontinues : ∀ c ∈ body, (TokenKind.ofFirst first).continues c = true)
    (hstop : ∀ c ∈ behind.head?, (TokenKind.ofFirst first).continues c = false) :
    scanFrom start (first :: body ++ behind) =
      ⟨.ofFirst first, .ofSize start (Text.byteSize (first :: body)),
          .ofList (first :: body)⟩ ::
        scanFrom (start + Text.byteSize (first :: body)) behind := by
  have htake : (body ++ behind).takeWhile (TokenKind.ofFirst first).continues = body := by
    rw [List.takeWhile_append_of_pos hcontinues]
    cases behind with
    | nil => exact List.append_nil body
    | cons c rest =>
        rw [List.takeWhile_cons_of_neg (by rw [hstop c rfl]; exact Bool.false_ne_true),
          List.append_nil]
  have hdrop : (body ++ behind).dropWhile (TokenKind.ofFirst first).continues = behind := by
    rw [List.dropWhile_append_of_pos hcontinues]
    cases behind with
    | nil => rfl
    | cons c rest =>
        rw [List.dropWhile_cons_of_neg (by rw [hstop c rfl]; exact Bool.false_ne_true)]
  rw [List.cons_append, scanFrom_cons]
  simp only [htake, hdrop]
  rfl

/-- Induction along a text, token by token: a token is a first character with all
    that continues it, and what follows does not. -/
@[elab_as_elim]
theorem token_induction {motive : List Char → Prop} (nil : motive [])
    (cons : ∀ first body behind,
      (∀ c ∈ body, (TokenKind.ofFirst first).continues c = true) →
      (∀ c ∈ behind.head?, (TokenKind.ofFirst first).continues c = false) →
      motive behind → motive (first :: body ++ behind))
    (text : List Char) : motive text := by
  induction hlength : text.length using Nat.strong_induction_on generalizing text with
  | _ length ih =>
      cases text with
      | nil => exact nil
      | cons first rest =>
          -- The text is cut where its first token ends, and what is left is shorter.
          have hbehind := List.head?_dropWhile_not (TokenKind.ofFirst first).continues rest
          have hshorter := (List.dropWhile_sublist (TokenKind.ofFirst first).continues
            (l := rest)).length_le
          rw [List.length_cons] at hlength
          rw [← rest.takeWhile_append_dropWhile (p := (TokenKind.ofFirst first).continues),
            ← List.cons_append]
          refine cons first _ _ (List.all_eq_true.mp List.all_takeWhile) (fun c hc => ?_)
            (ih _ (by omega) _ rfl)
          rwa [hc] at hbehind

/-- A token scanned is the longest that could be: all else that a text begins with and
    that has the shape of some kind is the beginning of it, and of the same kind. -/
theorem shape_prefix_of_scanFrom {start : Nat} {text part : List Char} {kind : TokenKind}
    {token : Token} {tokens : List Token} (hscan : scanFrom start text = token :: tokens)
    (hshape : kind.Shape part) (hpre : part <+: text) :
    kind = token.kind ∧ part <+: token.text.toList := by
  -- The part begins with the character that decides the kind of the token, and all
  -- the others continue that kind.
  rcases TokenKind.shape_iff.mp hshape with ⟨first, rest, rfl, rfl, hcontinues⟩
  cases text with
  | nil => exact absurd (List.prefix_nil.mp hpre) (List.cons_ne_nil first rest)
  | cons c behind =>
      rw [List.cons_prefix_cons] at hpre
      rcases hpre with ⟨rfl, more, rfl⟩
      rw [scanFrom_cons, List.cons.injEq] at hscan
      rw [← hscan.1, String.toList_ofList, List.takeWhile_append_of_pos hcontinues]
      exact ⟨rfl, List.prefix_append (first :: rest) _⟩

/-- Tokens of right shapes and neighbours are those scanned. A token takes in all of
    its own text, each character continuing its kind, and nothing more, the next
    character not continuing it. -/
theorem eq_scanFrom {start : Nat} {text : List Char} {tokens : List Token}
    (hlaid : LaidOut start text tokens)
    (hshape : ∀ token ∈ tokens, token.kind.Shape token.text.toList)
    (hgreedy : tokens.IsChain MayPrecede) : tokens = scanFrom start text := by
  induction tokens generalizing start text with
  | nil =>
      rw [LaidOut] at hlaid
      rw [hlaid, scanFrom_nil]
  | cons token rest ih =>
      rcases token with ⟨kind, span, word⟩
      rcases hlaid with ⟨_, hspan, behind, rfl, hbehind⟩
      rw [List.forall_mem_cons] at hshape
      rw [List.isChain_cons] at hgreedy
      rcases TokenKind.shape_iff.mp hshape.1 with ⟨first, body, hword, rfl, hcontinues⟩
      -- The next token begins with the next character, and may stand there.
      have hstop : ∀ c ∈ behind.head?, (TokenKind.ofFirst first).continues c = false := by
        intro c hc
        rcases List.head?_eq_some_iff.mp hc with ⟨text, rfl⟩
        rcases exists_cons_of_laidOut hbehind with ⟨next, more, nextBody, rfl, hnext⟩
        exact (mayPrecede_iff (hshape.2 next List.mem_cons_self) hnext).mp
          (hgreedy.1 next rfl)
      have hscan := scanFrom_append start hcontinues hstop
      simp only at hword hspan hbehind ⊢
      rw [← hword, String.ofList_toList] at hscan
      rw [hscan, hspan, ih hbehind hshape.2 hgreedy.2]

/-- The scanner lays its tokens out over the whole text. -/
theorem laidOut_scanFrom (start : Nat) (text : List Char) :
    LaidOut start text (scanFrom start text) := by
  induction text using token_induction generalizing start with
  | nil =>
      rw [scanFrom_nil]
      rfl
  | cons first body behind hcontinues hstop ih =>
      rw [scanFrom_append start hcontinues hstop, LaidOut, String.toList_ofList]
      exact ⟨List.cons_ne_nil first body, rfl, behind, rfl, ih _⟩

/-- The tokens scanned have the shapes of their kinds. -/
theorem shape_of_mem_scanFrom {start : Nat} {text : List Char} {token : Token}
    (h : token ∈ scanFrom start text) : token.kind.Shape token.text.toList := by
  induction text using token_induction generalizing start with
  | nil =>
      rw [scanFrom_nil] at h
      exact absurd h List.not_mem_nil
  | cons first body behind hcontinues hstop ih =>
      rw [scanFrom_append start hcontinues hstop, List.mem_cons] at h
      rcases h with rfl | h
      · exact TokenKind.shape_iff.mpr ⟨first, body, String.toList_ofList, rfl, hcontinues⟩
      · exact ih h

/-- No token scanned stands before one it should have taken in: the next begins with
    the character at which it stopped. -/
theorem isChain_scanFrom (start : Nat) (text : List Char) :
    (scanFrom start text).IsChain MayPrecede := by
  induction text using token_induction generalizing start with
  | nil =>
      rw [scanFrom_nil]
      exact List.isChain_nil
  | cons first body behind hcontinues hstop ih =>
      rw [scanFrom_append start hcontinues hstop, List.isChain_cons]
      refine ⟨fun next hnext => ?_, ih _⟩
      cases behind with
      | nil =>
          rw [scanFrom_nil] at hnext
          exact nomatch hnext
      | cons c rest =>
          rcases exists_cons_of_laidOut (laidOut_scanFrom _ (c :: rest)) with
            ⟨token, more, nextBody, htokens, hnextBody⟩
          rw [htokens, List.head?_cons, Option.mem_some_iff] at hnext
          subst hnext
          have hmem := htokens ▸ List.mem_cons_self
          exact (mayPrecede_iff (shape_of_mem_scanFrom hmem) hnextBody).mpr (hstop c rfl)

/-- Over a whole source, spans that lie end to end are texts laid end to end. -/
theorem spans_source_iff (source : String) (tokens : List Token) :
    (Spans 0 source.utf8ByteSize tokens ∧
      ∀ token ∈ tokens,
        Text.byteRange? token.span.start (token.span.stop - token.span.start) source.toList =
          some token.text.toList) ↔
      LaidOut 0 source.toList tokens := by
  have hspans := @spans_iff_laidOut [] source.toList tokens
  rwa [List.nil_append, Text.byteSize_nil, Text.byteSize_toList] at hspans

/-- No offset of a scan passes the end of its source, so whatever can count the bytes
    of the source can hold the offsets of its tokens. -/
theorem stop_le_of_mem_scan {source : String} {token : Token} (h : token ∈ scan source) :
    token.span.stop ≤ source.utf8ByteSize := by
  have hspans := (spans_source_iff source (scan source)).mpr (laidOut_scanFrom 0 source.toList)
  exact ((bounds_of_spans hspans.1).2 token h).2

/-- In a source that a word can count the bytes of, the offsets of tokens are the same when
    they are kept in words. -/
theorem toNat_ofNat_of_mem_scan {source : String} (hsize : source.utf8ByteSize < UInt32.size)
    {token : Token} (h : token ∈ scan source) :
    (UInt32.ofNat token.span.start).toNat = token.span.start ∧
      (UInt32.ofNat token.span.stop).toNat = token.span.stop := by
  have hstop : token.span.stop < UInt32.size :=
    Nat.lt_of_le_of_lt (stop_le_of_mem_scan h) hsize
  have hstart : token.span.start < UInt32.size :=
    Nat.lt_of_le_of_lt token.span.start_le_stop hstop
  exact ⟨UInt32.toNat_ofNat_of_lt' hstart, UInt32.toNat_ofNat_of_lt' hstop⟩

/-- A source has one tokenization, and it is the scan. So the texts of the tokens are
    the source again, and the scan is the only way to cut it that keeps to the kinds
    and is greedy. -/
theorem isTokenization_iff_eq_scan (source : String) (tokens : List Token) :
    (IsTokenization source tokens ↔ tokens = scan source) ∧
      String.join ((scan source).map Token.text) = source := by
  refine ⟨⟨fun h => ?_, ?_⟩, ?_⟩
  · exact eq_scanFrom ((spans_source_iff source tokens).mp ⟨h.spans, h.slice⟩) h.shape h.greedy
  · rintro rfl
    rcases (spans_source_iff source (scan source)).mpr (laidOut_scanFrom 0 source.toList) with
      ⟨hends, hslices⟩
    exact ⟨hends, hslices, fun token => shape_of_mem_scanFrom, isChain_scanFrom 0 source.toList⟩
  · rw [← String.toList_inj, String.toList_join, List.flatMap_map]
    exact flatMap_text_scanFrom 0 source.toList

end Token

end Source

end OpcodeBuckets
