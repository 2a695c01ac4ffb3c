import ExprLexer.CharClass
import ExprLexer.Keyword
import ExprLexer.Token

/-!
# The token language

What the lexer accepts, said without a cursor. A source that lexes is blanks and pieces in turn,
`w₀ x₁ w₁ … xₙ wₙ`: every `wᵢ` a run of spaces and tabs, possibly empty, and every `xᵢ` an
operator character, a number (`[0-9]+(\.[0-9]*)?`) or a word (`[A-Za-z][A-Za-z0-9_]*`). A number
or a word is maximal: the character after it, if any, would not extend it to a longer number or
word. `Splits` relates such a source to its tokens, the pieces in order with their byte spans and
then the end marker at the end of the source.

All the characters of a split are ASCII, so character counts and byte offsets agree on it.

The sub-scans called on their own take the longest prefix of a wider pattern, in which a number
may be empty or begin with its point (`IsNumberRun`) and a word may begin with a digit or an
underscore (`IsWordRun`); `LongestPrefix` says which prefix that is.
-/

namespace ExprLexer

namespace Grammar

/-- A run of spaces and tabs, possibly empty. -/
def IsBlanks (w : List Char) : Prop := ∀ c ∈ w, isBlank c = true

/-- A run of ASCII digits, possibly empty. -/
def IsDigits (w : List Char) : Prop := ∀ c ∈ w, c.isDigit = true

/-- What may follow the integer part of a number: nothing, or a point and a run of digits. -/
def IsFraction (f : List Char) : Prop := f = [] ∨ ∃ e, f = '.' :: e ∧ IsDigits e

/-- The text of a number token: one or more digits, then a fraction. -/
def IsNumber (x : List Char) : Prop :=
  ∃ d f, x = d ++ f ∧ d ≠ [] ∧ IsDigits d ∧ IsFraction f

/-- The text of a word token: an ASCII letter, then letters, digits and underscores. -/
def IsWord (x : List Char) : Prop :=
  ∃ c r, x = c :: r ∧ c.isAlpha = true ∧ ∀ d ∈ r, isIdentContinue d = true

/-- What the number scan takes: digits, then a fraction, where the digits may be none. -/
def IsNumberRun (x : List Char) : Prop := ∃ d f, x = d ++ f ∧ IsDigits d ∧ IsFraction f

/-- What the word scan takes: letters, digits and underscores, possibly none. -/
def IsWordRun (x : List Char) : Prop := ∀ c ∈ x, isIdentContinue c = true

/-- `m` is the longest prefix of `cs` that satisfies `P`. -/
def LongestPrefix (P : List Char → Prop) (m cs : List Char) : Prop :=
  m <+: cs ∧ P m ∧ ∀ m', m' <+: cs → P m' → m'.length ≤ m.length

/-- A piece of a source between blanks, as the token it stands for. -/
inductive Piece where
  | operator (kind : TokenKind) (c : Char)
  | number (text : List Char)
  | word (text : List Char)
  deriving DecidableEq, Repr

namespace Piece

/-- The characters of a piece. -/
def text : Piece → List Char
  | .operator _ c => [c]
  | .number x => x
  | .word x => x

/-- A piece is well formed: an operator character of its kind, a number, or a word. -/
def Valid : Piece → Prop
  | .operator k c => TokenKind.ofOperator? c = some k
  | .number x => IsNumber x
  | .word x => IsWord x

/-- No character of what follows can extend the piece: a number or a word is maximal when the
next character, if any, does not make a longer one; an operator always is. -/
def Maximal : Piece → List Char → Prop
  | .number x, c :: _ => ¬ IsNumber (x ++ [c])
  | .word x, c :: _ => ¬ IsWord (x ++ [c])
  | _, _ => True

/-- The token of a piece that begins at byte `start`: a word is a keyword when the set holds it
and an identifier otherwise. -/
def token (keywords : KeywordSet) (start : Nat) (p : Piece) : Token :=
  let span : Span := ⟨start, start + p.text.length⟩
  match p with
  | .operator k _ => ⟨k, none, span⟩
  | .number x => Token.number (String.ofList x) span
  | .word x =>
    if keywords.contains (String.ofList x) then Token.keyword (String.ofList x) span
    else Token.identifier (String.ofList x) span

end Piece

/-- `Splits keywords offset cs ts`: the characters `cs`, which begin at byte `offset` of a source
that ends with them, are blanks and valid maximal pieces in turn, and `ts` are the tokens of the
pieces followed by the end marker at the end of the source. -/
inductive Splits (keywords : KeywordSet) : Nat → List Char → List Token → Prop
  | last {offset : Nat} {w : List Char} (hw : IsBlanks w) :
      Splits keywords offset w [Token.eof (offset + w.length)]
  | piece {offset : Nat} {cs w rest : List Char} {p : Piece} {ts : List Token}
      (hcs : cs = w ++ p.text ++ rest) (hw : IsBlanks w) (hp : p.Valid) (hm : p.Maximal rest)
      (h : Splits keywords (offset + w.length + p.text.length) rest ts) :
      Splits keywords offset cs (p.token keywords (offset + w.length) :: ts)

end Grammar

end ExprLexer
