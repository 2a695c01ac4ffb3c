import ExprLexer.Text.Printable
import ExprLexer.Text.GraphemeExtend

/-!
# Quoted characters and strings

The quoted form in which diagnostics show a character or a word: between quotes, with NUL, tab,
carriage return and line feed written `\0 \t \r \n`, the backslash and the enclosing quote
escaped, and every character that extends a grapheme or is not printable written `\u{hex}` in
lowercase hexadecimal without padding. Every other character stands for itself, so a quote of the
other kind is not escaped.
-/

namespace ExprLexer.Text

/-- The code point of `c` in lowercase hexadecimal, without leading zeros. -/
def hexDigits (c : Char) : List Char := Nat.toDigits 16 c.toNat

/-- The characters that stand for `c` inside a quoted form enclosed by `quote`. -/
def escape (quote : Char) (c : Char) : List Char :=
  if c = '\x00' then ['\\', '0']
  else if c = '\t' then ['\\', 't']
  else if c = '\r' then ['\\', 'r']
  else if c = '\n' then ['\\', 'n']
  else if c = '\\' then ['\\', '\\']
  else if c = quote then ['\\', c]
  else if isGraphemeExtend c || !isPrintable c then ['\\', 'u', '\x7b'] ++ hexDigits c ++ ['\x7d']
  else [c]

/-- A character between single quotes, as a character literal. -/
def quoteChar (c : Char) : String := String.ofList ('\'' :: escape '\'' c ++ ['\''])

/-- A text between double quotes, as a string literal. -/
def quoteString (s : String) : String :=
  String.ofList ('"' :: s.toList.flatMap (escape '"') ++ ['"'])

end ExprLexer.Text
