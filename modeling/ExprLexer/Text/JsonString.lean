/-!
# JSON string literals

A text as a JSON string literal: between double quotes, with the quote and the backslash
escaped, the controls backspace, form feed, line feed, carriage return and tab written
`\b \f \n \r \t`, every other character below U+0020 written `\u00xx` in lowercase
hexadecimal, and every other character written as itself.
-/

namespace ExprLexer.Text

/-- The hexadecimal digit of `n < 16`, lowercase. -/
def hexDigit (n : Nat) : Char := if n < 10 then Char.ofNat (48 + n) else Char.ofNat (87 + n)

/-- The characters that stand for `c` inside a JSON string literal. -/
def jsonEscape (c : Char) : List Char :=
  if c = '"' then ['\\', '"']
  else if c = '\\' then ['\\', '\\']
  else if c = '\x08' then ['\\', 'b']
  else if c = '\x0c' then ['\\', 'f']
  else if c = '\n' then ['\\', 'n']
  else if c = '\r' then ['\\', 'r']
  else if c = '\t' then ['\\', 't']
  else if c.toNat < 0x20 then ['\\', 'u', '0', '0', hexDigit (c.toNat / 16), hexDigit (c.toNat % 16)]
  else [c]

/-- `s` as a JSON string literal. -/
def jsonQuote (s : String) : String :=
  String.ofList ('"' :: s.toList.flatMap jsonEscape ++ ['"'])

end ExprLexer.Text
