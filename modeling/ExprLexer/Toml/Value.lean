/-!
# TOML values

The values of a TOML 1.0 document: strings, integers, floats, booleans, date-times, arrays and
tables, where a table is its entries in the order they were defined. Floats and date-times are
kept as the literal text they were written with: a configuration of this tool holds neither
kind, so it only has to accept them.

A document that does not read fails with a `ParseError`, which says what went wrong and where
in terms of the document's own text.
-/

namespace ExprLexer.Toml

/-- A TOML value. -/
inductive Value where
  | string (s : String)
  | integer (i : Int)
  | float (literal : String)
  | boolean (b : Bool)
  | datetime (literal : String)
  | array (items : List Value)
  | table (entries : List (String × Value))
  deriving Repr, Inhabited

/-- Why a text is no TOML document. -/
inductive ParseError where
  /-- The text does not fit the grammar here; `what` says what was expected. -/
  | unexpected (what : String)
  /-- A number does not fit: an integer past 64 bits, or a float past the largest double. -/
  | outOfRange (literal : String)
  /-- A key, or a table, is defined a second time. -/
  | redefined (key : String)
  /-- The document nests deeper, or has a longer key, than the reader allows. -/
  | tooDeep
  deriving DecidableEq, Repr

/-- The sentence that reports a parse error. -/
def ParseError.message : ParseError → String
  | .unexpected what => "expected " ++ what
  | .outOfRange lit => "number out of range: " ++ lit
  | .redefined key => "duplicate key or table: " ++ key
  | .tooDeep => "nesting too deep"

end ExprLexer.Toml
