import ExprLexer.Text.Utf8

/-!
# Spans

A span is the range `start..stop` of byte offsets that a piece of source occupies. Sources are
single lines, so the column of a span is its start offset plus one, as a 64-bit machine word
(which wraps to 0 for the span that starts at the largest word). Spans are built raw: the
lexer only builds spans with `start ≤ stop`, and `merge` takes the least start and the greatest
stop whatever the two spans are.
-/

namespace ExprLexer

/-- The byte offsets `start..stop` of a piece of source. -/
structure Span where
  start : Nat
  stop : Nat
  deriving DecidableEq, Repr

namespace Span

/-- The span `0..0`, which stands for no place in particular. -/
def dummy : Span := ⟨0, 0⟩

/-- The empty span at `offset`. -/
def point (offset : Nat) : Span := ⟨offset, offset⟩

/-- The number of bytes the span covers. -/
def len (s : Span) : Nat := s.stop - s.start

/-- A span is empty when it starts where it stops. -/
def isEmpty (s : Span) : Bool := s.start == s.stop

/-- The number of values of a 64-bit machine word, the width of a byte offset. -/
def wordSize : Nat := 18446744073709551616

/-- The one-based column of the first byte, a machine word: one past the largest word wraps to
0. -/
def column (s : Span) : Nat := (s.start + 1) % wordSize

/-- Below the largest word, the column is the start offset plus one. -/
theorem column_of_lt {s : Span} (h : s.start + 1 < wordSize) : s.column = s.start + 1 :=
  Nat.mod_eq_of_lt h

/-- Whether byte `offset` lies in the span: `start ≤ offset < stop`. -/
def contains (s : Span) (offset : Nat) : Bool := s.start ≤ offset && offset < s.stop

/-- The least span that holds both: the smaller start and the larger stop. -/
def merge (s t : Span) : Span := ⟨min s.start t.start, max s.stop t.stop⟩

/-- The span moved `n` bytes on, as when `n` bytes are put before the text it points into. -/
def shift (s : Span) (n : Nat) : Span := ⟨s.start + n, s.stop + n⟩

/-- The span written `start..stop`. -/
def toText (s : Span) : String := toString s.start ++ ".." ++ toString s.stop

/-- The text the span covers in `source`, when both ends fall on character boundaries. -/
def snippet? (s : Span) (source : String) : Option String :=
  Utf8.slice? (Utf8.bytes source) s.start s.stop

/-- The span written with its field names, as a diagnostic dump shows it. -/
def detail (s : Span) : String :=
  "Span \x7b start: " ++ toString s.start ++ ", end: " ++ toString s.stop ++ " \x7d"

end Span

end ExprLexer
