import ExprLexer.Span

/-!
# Tokens

A token is a kind, a span, and for numbers, identifiers and keywords the exact source text it was
scanned from. Operators and the end marker carry no text. The nine operator characters
`+ - * / % ^ = ( )` each make a token of their own kind.
-/

namespace ExprLexer

/-- What a token is. -/
inductive TokenKind where
  | number
  | identifier
  | keyword
  | plus
  | minus
  | star
  | slash
  | percent
  | caret
  | equal
  | lparen
  | rparen
  | eof
  deriving DecidableEq, Repr

namespace TokenKind

/-- The name of a kind, as token dumps write it. -/
def name : TokenKind → String
  | .number => "Number"
  | .identifier => "Identifier"
  | .keyword => "Keyword"
  | .plus => "Plus"
  | .minus => "Minus"
  | .star => "Star"
  | .slash => "Slash"
  | .percent => "Percent"
  | .caret => "Caret"
  | .equal => "Equal"
  | .lparen => "LParen"
  | .rparen => "RParen"
  | .eof => "Eof"

/-- Every kind, in the order of declaration. -/
def all : List TokenKind :=
  [.number, .identifier, .keyword, .plus, .minus, .star, .slash, .percent, .caret, .equal,
    .lparen, .rparen, .eof]

/-- The kind with the given name. -/
def ofName? (s : String) : Option TokenKind := all.find? (·.name == s)

/-- Numbers, identifiers and keywords carry their source text; no other kind does. -/
def hasText : TokenKind → Bool
  | .number | .identifier | .keyword => true
  | _ => false

/-- The operator kind of a character, if it is one of the nine operator characters. -/
def ofOperator? : Char → Option TokenKind
  | '+' => some .plus
  | '-' => some .minus
  | '*' => some .star
  | '/' => some .slash
  | '%' => some .percent
  | '^' => some .caret
  | '=' => some .equal
  | '(' => some .lparen
  | ')' => some .rparen
  | _ => none

end TokenKind

/-- A kind at a span, with the scanned text for the kinds that carry one. -/
structure Token where
  kind : TokenKind
  text : Option String
  span : Span
  deriving DecidableEq, Repr

namespace Token

/-- A number with its digits. -/
def number (text : String) (span : Span) : Token := ⟨.number, some text, span⟩

/-- An identifier with its name. -/
def identifier (text : String) (span : Span) : Token := ⟨.identifier, some text, span⟩

/-- A reserved word. -/
def keyword (text : String) (span : Span) : Token := ⟨.keyword, some text, span⟩

/-- A token of a kind without text; `none` for the kinds that need one. -/
def ofKind? (kind : TokenKind) (span : Span) : Option Token :=
  if kind.hasText then none else some ⟨kind, none, span⟩

/-- The end marker, an empty span at `offset`. -/
def eof (offset : Nat) : Token := ⟨.eof, none, Span.point offset⟩

/-- Whether this is the end marker. -/
def isEof (t : Token) : Bool := t.kind == .eof

/-- The token with its span moved `n` bytes on. -/
def shift (t : Token) (n : Nat) : Token := { t with span := t.span.shift n }

/-- The token as a line of a text dump: the kind's name, then a space and the text if any. -/
def toText (t : Token) : String :=
  match t.text with
  | some s => t.kind.name ++ " " ++ s
  | none => t.kind.name

end Token

end ExprLexer
