/-!
# Character classes of the language

The lexer decides on ASCII classes only: blanks are the space and the tab, numbers are made of
decimal digits, and identifiers begin with an ASCII letter and go on with letters, digits and
underscores. Every other character, ASCII or not, belongs to none of these classes.
-/

namespace ExprLexer

/-- A blank separates tokens: only the space and the tab are blanks. -/
def isBlank (c : Char) : Bool := c == ' ' || c == '\t'

/-- A character that may go on an identifier: an ASCII letter, an ASCII digit or `_`. -/
def isIdentContinue (c : Char) : Bool := c.isAlphanum || c == '_'

theorem isIdentContinue_of_isAlpha {c : Char} (h : c.isAlpha = true) : isIdentContinue c = true := by
  simp [isIdentContinue, Char.isAlphanum, h]

theorem isIdentContinue_of_isDigit {c : Char} (h : c.isDigit = true) : isIdentContinue c = true := by
  simp [isIdentContinue, Char.isAlphanum, h]

end ExprLexer
