import ExprLexer.Span
import ExprLexer.Text.Quote

/-!
# Lexical errors

Lexing fails only at a character that can begin no token. The error holds that character and
the span of its bytes; its column is the span's column.
-/

namespace ExprLexer

/-- Why a source does not lex. -/
inductive LexError where
  /-- `ch` begins no token; `span` covers its bytes. -/
  | invalidCharacter (ch : Char) (span : Span)
  deriving DecidableEq, Repr

namespace LexError

/-- The span of the offending bytes. -/
def span : LexError → Span
  | .invalidCharacter _ s => s

/-- The offending character. -/
def ch : LexError → Char
  | .invalidCharacter c _ => c

/-- The error with its span moved `n` bytes on. -/
def shift : LexError → Nat → LexError
  | .invalidCharacter c s, n => .invalidCharacter c (s.shift n)

/-- The sentence that reports the error: the quoted character and its column. -/
def message : LexError → String
  | .invalidCharacter c s =>
    "invalid character " ++ Text.quoteChar c ++ " at column " ++ toString s.column

/-- The error written with its fields spelled out. -/
def detail : LexError → String
  | .invalidCharacter c s =>
    "InvalidCharacter \x7b ch: " ++ Text.quoteChar c ++ ", span: " ++ s.detail ++ " \x7d"

end LexError

end ExprLexer
