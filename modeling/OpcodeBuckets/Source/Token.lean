import OpcodeBuckets.Source.Span

/-!
# Tokens

The words, separators and stray characters of a source text.

A token is read greedily. Its first character decides its kind, and the token
takes every following character that continues that kind, so it ends at the
first character that does not. No two kinds begin alike, which is why one
character is enough to decide. Every character belongs to some token, a stray
one to a token of its own, and the texts of the tokens laid end to end are the
source again.

## Main definitions

* `TokenKind`: The kinds of tokens.
* `TokenKind.ofFirst`: The kind of a token that begins with a character.
* `TokenKind.continues`: Whether a character continues a token of a kind.
* `TokenKind.isTrivia`: Whether tokens of a kind only separate others.
* `Token`: A token, with its place in the source.
* `Token.scan`: The tokens of a source.

## Theorems

* `Token.scanFrom_cons`: How a text that is not empty is cut into tokens.
* `Token.flatMap_text_scanFrom`: The texts of the tokens, laid end to end.
-/

namespace OpcodeBuckets

namespace Source

/-- Whether a character may begin a word: an ASCII letter or an underscore. -/
def isWordStart (c : Char) : Bool :=
  c.isAlpha || c == '_'

/-- Whether a character may stand inside a word: as at its start, or an ASCII digit. -/
def isWordPart (c : Char) : Bool :=
  isWordStart c || c.isDigit

/-- Whether a character is a space or a tab. -/
def isBlank (c : Char) : Bool :=
  c == ' ' || c == '\t'

/-- Whether a character ends a line: a carriage return or a line feed. -/
def isBreak (c : Char) : Bool :=
  c == '\r' || c == '\n'

/-- The kinds of tokens. -/
inductive TokenKind where
  /-- A letter or underscore, then letters, digits and underscores. -/
  | mnemonic
  /-- A comma. -/
  | comma
  /-- Spaces and tabs. -/
  | whitespace
  /-- A number sign and the rest of its line. -/
  | comment
  /-- Carriage returns and line feeds. -/
  | lineBreak
  /-- A character that begins none of the others. -/
  | stray
  deriving DecidableEq, Repr

namespace TokenKind

/-- The kind of a token that begins with the given character. -/
def ofFirst (c : Char) : TokenKind :=
  if isWordStart c then .mnemonic
  else if c == ',' then .comma
  else if isBlank c then .whitespace
  else if c == '#' then .comment
  else if isBreak c then .lineBreak
  else .stray

/-- Whether a character continues a token of the given kind. -/
def continues : TokenKind → Char → Bool
  | .mnemonic, c => isWordPart c
  | .comma, _ => false
  | .whitespace, c => isBlank c
  | .comment, c => !isBreak c
  | .lineBreak, c => isBreak c
  | .stray, _ => false

/-- Whether tokens of the kind only separate others. -/
def isTrivia : TokenKind → Bool
  | .comma | .whitespace | .comment | .lineBreak => true
  | .mnemonic | .stray => false

end TokenKind

/-- A token of a source text. -/
structure Token where
  /-- What the token is. -/
  kind : TokenKind
  /-- Where the token stands. -/
  span : Span
  /-- What the token says. -/
  text : String
  deriving DecidableEq, Repr

namespace Token

/-- Whether the token only separates others. -/
def isTrivia (token : Token) : Bool :=
  token.kind.isTrivia

/-- The tokens of a text that begins at the given offset. -/
def scanFrom (start : Nat) : List Char → List Token
  | [] => []
  | c :: rest =>
    let kind := TokenKind.ofFirst c
    let text := String.ofList (c :: rest.takeWhile kind.continues)
    ⟨kind, .ofSize start text.utf8ByteSize, text⟩ ::
      scanFrom (start + text.utf8ByteSize) (rest.dropWhile kind.continues)
  termination_by characters => characters.length
  decreasing_by exact Nat.lt_succ_of_le (List.dropWhile_sublist _).length_le

/-- The tokens of a source. -/
def scan (source : String) : List Token :=
  scanFrom 0 source.toList

@[simp] theorem scanFrom_nil (start : Nat) : scanFrom start [] = [] := by
  rw [scanFrom]

/-- A text that is not empty begins with a token of the kind of its first
    character, and that token takes all that continues it. -/
theorem scanFrom_cons (start : Nat) (c : Char) (rest : List Char) :
    scanFrom start (c :: rest) =
      let kind := TokenKind.ofFirst c
      let text := String.ofList (c :: rest.takeWhile kind.continues)
      ⟨kind, .ofSize start text.utf8ByteSize, text⟩ ::
        scanFrom (start + text.utf8ByteSize) (rest.dropWhile kind.continues) := by
  rw [scanFrom]

/-- The texts of the tokens, laid end to end, are the text again. -/
theorem flatMap_text_scanFrom (start : Nat) (characters : List Char) :
    (scanFrom start characters).flatMap (fun token => token.text.toList) = characters := by
  fun_induction scanFrom start characters with
  | case1 => rfl
  | case2 start c rest kind text ih =>
    rw [List.flatMap_cons, ih]
    simp only [text, String.toList_ofList, List.cons_append, List.takeWhile_append_dropWhile]

end Token

end Source

end OpcodeBuckets
