import ExprLexer.Lexer.Basic

/-!
# Calls on a lexer

A user drives a lexer by calls, one after another: the next token, one step of iteration, either
sub-scan, or asking the position. `Lexer.call` answers one call and gives the lexer after it,
`Lexer.run` answers a list of calls, each with the position it leaves, and `Reachable` holds of
every lexer that some list of calls leads to from the start of a source. The lexer's invariants
are statements about reachable lexers: they hold at the start and every call keeps them.
-/

namespace ExprLexer

namespace Lexer

/-- A call on a lexer. -/
inductive Call where
  | nextToken
  | next
  | lexNumber
  | lexIdentifier
  | position
  deriving DecidableEq, Repr

/-- What a call answers: a token or an error, the end of the iteration, or nothing but the
position. -/
inductive Reply where
  | result (r : Except LexError Token)
  | exhausted
  | quiet

/-- Answers one call and gives the lexer after it. -/
def call (lx : Lexer) : Call → Reply × Lexer
  | .nextToken =>
    let (r, lx) := lx.nextToken
    (.result r, lx)
  | .next =>
    match lx.next with
    | (some r, lx) => (.result r, lx)
    | (none, lx) => (.exhausted, lx)
  | .lexNumber =>
    let (t, lx) := lx.lexNumber
    (.result (.ok t), lx)
  | .lexIdentifier =>
    let (t, lx) := lx.lexIdentifier
    (.result (.ok t), lx)
  | .position => (.quiet, lx)

/-- Answers calls in order, each with the position of the cursor after it. -/
def run (lx : Lexer) : List Call → List (Reply × Nat)
  | [] => []
  | c :: cs =>
    let (r, lx') := lx.call c
    (r, lx'.position) :: lx'.run cs

/-- The lexers that some list of calls leads to from the start of `source`. -/
inductive Reachable (source : String) (keywords : KeywordSet) : Lexer → Prop
  | start : Reachable source keywords (Lexer.ofString source keywords)
  | call {lx : Lexer} (h : Reachable source keywords lx) (c : Call) :
      Reachable source keywords (lx.call c).2

end Lexer

end ExprLexer
