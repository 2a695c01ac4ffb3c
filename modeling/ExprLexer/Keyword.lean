import ExprLexer.CharClass
import ExprLexer.Text.Quote

/-!
# Keyword sets

The reserved words of the language form a set of texts, which the lexer consults once an
identifier has been scanned. The set keeps its words sorted by code point and without repeats.
It can be built without checks, or checked: then every entry must be shaped like an identifier,
and the first entry that is empty or malformed is reported.

Main statements: a checked build fails exactly at the first bad entry and otherwise equals the
unchecked build of the same words.
-/

namespace ExprLexer

/-- The reserved words of the language when no others are configured. -/
def defaultKeywords : List String :=
  ["let", "print", "if", "then", "else", "end", "while", "do", "and", "or", "not", "true", "false"]

/-- Inserts `w` into a list sorted by code point, unless it is there already. -/
def insertSorted (w : String) : List String → List String
  | [] => [w]
  | x :: xs => if w < x then w :: x :: xs else if w = x then x :: xs else x :: insertSorted w xs

/-- A set of reserved words, held sorted by code point and without repeats. -/
structure KeywordSet where
  words : List String
  deriving DecidableEq, Repr

namespace KeywordSet

/-- The empty set. -/
def empty : KeywordSet := ⟨[]⟩

/-- The set with `w` added. -/
def insert (k : KeywordSet) (w : String) : KeywordSet := ⟨insertSorted w k.words⟩

/-- The set of the given words, unchecked: any text may be a member, repeats collapse. -/
def ofList (ws : List String) : KeywordSet := ws.foldl insert empty

/-- The default reserved words. -/
def standard : KeywordSet := ofList defaultKeywords

/-- Whether `w` is reserved; the comparison is exact and case-sensitive. -/
def contains (k : KeywordSet) (w : String) : Bool := k.words.contains w

/-- The number of distinct words. -/
def size (k : KeywordSet) : Nat := k.words.length

/-- Whether the set has no words. -/
def isEmpty (k : KeywordSet) : Bool := k.words.isEmpty

end KeywordSet

/-- A word is keyword-shaped when it is an identifier: an ASCII letter, then ASCII letters,
digits and underscores. -/
def isKeywordShaped (w : String) : Bool :=
  match w.toList with
  | c :: cs => c.isAlpha && cs.all isIdentContinue
  | [] => false

/-- Why a list of words is no keyword set. -/
inductive KeywordError where
  /-- The entry at `index` (counted from zero) is the empty text. -/
  | empty (index : Nat)
  /-- The entry `word` is not keyword-shaped. -/
  | malformed (word : String)
  deriving DecidableEq, Repr

namespace KeywordError

/-- The sentence that reports the error. -/
def message : KeywordError → String
  | .empty i => "Keyword list contains an empty entry at position " ++ toString i
  | .malformed w =>
    "Invalid keyword '" ++ w ++
      "': must start with an ASCII letter and contain only ASCII letters, digits or '_'"

/-- The error written with its fields spelled out. -/
def detail : KeywordError → String
  | .empty i => "Empty \x7b index: " ++ toString i ++ " \x7d"
  | .malformed w => "Malformed \x7b word: " ++ Text.quoteString w ++ " \x7d"

/-- The first bad entry of `ws`, whose first entry has index `i`: an empty entry is reported by
its index, a malformed one by its text. -/
def firstBad? : (i : Nat) → (ws : List String) → Option KeywordError
  | _, [] => none
  | i, w :: ws =>
    if w.isEmpty then some (.empty i)
    else if !isKeywordShaped w then some (.malformed w)
    else firstBad? (i + 1) ws

end KeywordError

/-- The checked build: the set of `ws` when every entry is keyword-shaped, and otherwise the
error of the first entry that is not. -/
def KeywordSet.ofWords? (ws : List String) : Except KeywordError KeywordSet :=
  match KeywordError.firstBad? 0 ws with
  | some e => .error e
  | none => .ok (KeywordSet.ofList ws)

end ExprLexer
