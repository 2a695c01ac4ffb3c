import ExprLexer.Lexer.Error

/-!
# Diagnostics

A lexical error is shown as three lines under its message: a gutter, the source with each tab
turned into a space and each other control character into U+FFFD, so that every character takes
one column, and carets under the offending character. The carets start after as many spaces as
there are characters before the error, and there is one caret per character of the span, at
least one. Where an end of the span falls inside a character the count falls back: the padding
to the start offset itself, the carets to one.
-/

namespace ExprLexer

/-- A control character in the sense of the Unicode category Cc: U+0000 to U+001F and U+007F
to U+009F. -/
def isControl (c : Char) : Bool := c.toNat < 0x20 || (0x7F ≤ c.toNat && c.toNat ≤ 0x9F)

/-- How a source character is shown on the diagnostic's source line. -/
def displayChar (c : Char) : Char :=
  if c = '\t' then ' ' else if isControl c then '�' else c

/-- `n` copies of `c`. -/
def repeatChar (n : Nat) (c : Char) : String := String.ofList (List.replicate n c)

/-- How many spaces stand before the carets: the number of characters before the error, or its
start offset when that does not fall on a character boundary of the source. -/
def LexError.padding (source : String) (e : LexError) : Nat :=
  match Utf8.slice? (Utf8.bytes source) 0 e.span.start with
  | some t => t.length
  | none => e.span.start

/-- How many carets mark the error: one per character of its span, at least one, and one when an
end of the span falls inside a character. -/
def LexError.caretCount (source : String) (e : LexError) : Nat :=
  match Utf8.slice? (Utf8.bytes source) e.span.start e.span.stop with
  | some t => max 1 t.length
  | none => 1

/-- The diagnostic for `e` in `source`, without a final line break. -/
def LexError.render (source : String) (e : LexError) : String :=
  let line := String.ofList (source.toList.map displayChar)
  "error: " ++ e.message ++ "\n  |\n  | " ++ line ++ "\n  | " ++ repeatChar (e.padding source) ' ' ++
    repeatChar (e.caretCount source) '^'

/-- The most bytes a text can hold: the largest signed 64-bit number, 2⁶³ - 1. -/
def maxTextSize : Nat := 9223372036854775807

/-- The diagnostic for `e` in `source`, or none when its padding would be longer than a text can
be, as for an error built with a start offset far past the end of the source. -/
def LexError.render? (source : String) (e : LexError) : Option String :=
  if e.padding source ≤ maxTextSize then some (e.render source) else none

end ExprLexer
