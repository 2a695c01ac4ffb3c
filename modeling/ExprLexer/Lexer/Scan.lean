import ExprLexer.Lexer.Basic

/-!
# Scanning a whole source

A scan runs `nextToken` from a lexer until it gives the end marker or an error. It keeps the
tokens given up to that point, so the end marker closes the token list of a source that lexes,
and the tokens before the first invalid character stay known when it does not. `tokenize` keeps
either the whole token list or the error.
-/

namespace ExprLexer

/-- The tokens a scan gave, in order, and the error that stopped it, if any. Without an error
the last token is the end marker. -/
structure Scan where
  tokens : List Token
  error : Option LexError
  deriving DecidableEq, Repr

/-- The token list of a scan that reached the end, or its error. -/
def Scan.result (s : Scan) : Except LexError (List Token) :=
  match s.error with
  | some e => .error e
  | none => .ok s.tokens

/-- Runs `nextToken` until the end marker or an error. -/
def Lexer.scan (lx : Lexer) : Scan :=
  match h : lx.nextToken with
  | (.error e, _) => ⟨[], some e⟩
  | (.ok t, lx') =>
    if ht : t.isEof then ⟨[t], none⟩
    else
      let rest := lx'.scan
      ⟨t :: rest.tokens, rest.error⟩
termination_by lx.cursor.bytes.size - lx.cursor.pos
decreasing_by
  obtain ⟨hb, hp⟩ := Lexer.progress_of_nextToken h (by simpa using ht)
  have hle := lx'.cursor.pos_le
  rw [hb] at hle ⊢
  omega

/-- The scan of a whole source. -/
def scan (source : String) (keywords : KeywordSet) : Scan :=
  (Lexer.ofString source keywords).scan

/-- The tokens of a source, ending with the end marker, or the error at its first invalid
character. -/
def tokenize (source : String) (keywords : KeywordSet) : Except LexError (List Token) :=
  (scan source keywords).result

end ExprLexer
