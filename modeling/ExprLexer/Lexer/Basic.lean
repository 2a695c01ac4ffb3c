import ExprLexer.Cursor
import ExprLexer.Keyword
import ExprLexer.Token
import ExprLexer.Lexer.Error

/-!
# The lexer

A lexer is a cursor into the source, the keyword set, the offset where the current token began,
and whether its iteration is over. `nextToken` skips blanks, notes where the token begins and
looks at the character there: the end of input gives the end marker, a digit a number, a letter
an identifier or keyword, an operator character its token, and anything else an error that
leaves the cursor on the offending character. The two sub-scans are steps of their own: called
directly they take the text from the noted token start to wherever they stop.

Main statements: a step keeps the source and never moves the cursor back (`bytes_nextToken`,
`pos_le_nextToken`), and a step that gives a token other than the end marker moves it on
(`progress_of_nextToken`).
-/

namespace ExprLexer

/-- The state of a lexer over one source. -/
structure Lexer where
  cursor : Cursor
  keywords : KeywordSet
  tokenStart : Nat
  finished : Bool

namespace Lexer

/-- A lexer at the start of `source`. -/
def ofString (source : String) (keywords : KeywordSet) : Lexer :=
  ⟨Cursor.ofString source, keywords, 0, false⟩

/-- The byte offset of the cursor. -/
def position (lx : Lexer) : Nat := lx.cursor.pos

/-- The span from the token start to the cursor. -/
def tokenSpan (lx : Lexer) : Span := ⟨lx.tokenStart, lx.cursor.pos⟩

/-- The source text from the token start to the cursor. -/
def tokenText (lx : Lexer) : String := lx.cursor.sliceFrom lx.tokenStart

/-- Scans digits and at most one point, and gives the number from the token start. -/
def lexNumber (lx : Lexer) : Token × Lexer :=
  let lx := { lx with cursor := lx.cursor.eatNumber false }
  (Token.number lx.tokenText lx.tokenSpan, lx)

/-- Scans letters, digits and underscores, and gives the word from the token start: a keyword
when the set holds it, an identifier otherwise. -/
def lexIdentifier (lx : Lexer) : Token × Lexer :=
  let lx := { lx with cursor := lx.cursor.eatWhile isIdentContinue }
  let text := lx.tokenText
  let t := if lx.keywords.contains text then Token.keyword text lx.tokenSpan
    else Token.identifier text lx.tokenSpan
  (t, lx)

/-- Skips blanks and scans one token, or reports the character that begins none. -/
def nextToken (lx : Lexer) : Except LexError Token × Lexer :=
  let cursor := lx.cursor.eatWhile isBlank
  let lx := { lx with cursor, tokenStart := cursor.pos }
  if cursor.atEnd then (.ok (Token.eof cursor.pos), lx)
  else
    let c := cursor.current
    if c.isDigit then
      let (t, lx) := lx.lexNumber
      (.ok t, lx)
    else if c.isAlpha then
      let (t, lx) := lx.lexIdentifier
      (.ok t, lx)
    else
      match TokenKind.ofOperator? c with
      | some kind =>
        let lx := { lx with cursor := cursor.advance }
        (.ok ⟨kind, none, lx.tokenSpan⟩, lx)
      | none => (.error (.invalidCharacter c ⟨cursor.pos, cursor.pos + c.utf8Size⟩), lx)

/-- Whether a step's result ends an iteration: the end marker or an error. -/
def ends : Except LexError Token → Bool
  | .ok t => t.isEof
  | .error _ => true

/-- One step of iteration: nothing once the end marker or an error has been given, else the
next token or error. -/
def next (lx : Lexer) : Option (Except LexError Token) × Lexer :=
  if lx.finished then (none, lx)
  else
    let (r, lx) := lx.nextToken
    (some r, { lx with finished := ends r })

theorem pos_lt_eatNumber {c : Cursor} (seenDot : Bool) (h : c.pos < c.bytes.size)
    (hd : c.current.isDigit = true) : c.pos < (c.eatNumber seenDot).pos := by
  rw [Cursor.eatNumber]
  simp only [h, hd, dite_true, if_true]
  have := Cursor.pos_le_eatNumber c.advance seenDot
  have := Cursor.pos_advance c h
  omega

theorem pos_lt_eatWhile {p : Char → Bool} {c : Cursor} (h : c.pos < c.bytes.size)
    (hp : p c.current = true) : c.pos < (c.eatWhile p).pos := by
  rw [Cursor.eatWhile]
  simp only [h, hp, dite_true, if_true]
  have := Cursor.pos_le_eatWhile p c.advance
  have := Cursor.pos_advance c h
  omega

/-- A step keeps the source. -/
theorem bytes_nextToken (lx : Lexer) : lx.nextToken.2.cursor.bytes = lx.cursor.bytes := by
  unfold nextToken lexNumber lexIdentifier
  simp only
  split
  · exact Cursor.bytes_eatWhile isBlank lx.cursor
  · split
    · rw [Cursor.bytes_eatNumber, Cursor.bytes_eatWhile]
    · split
      · rw [Cursor.bytes_eatWhile, Cursor.bytes_eatWhile]
      · split
        · rw [Cursor.bytes_advance, Cursor.bytes_eatWhile]
        · exact Cursor.bytes_eatWhile isBlank lx.cursor

/-- A step never moves the cursor back. -/
theorem pos_le_nextToken (lx : Lexer) : lx.cursor.pos ≤ lx.nextToken.2.cursor.pos := by
  have hb := Cursor.pos_le_eatWhile isBlank lx.cursor
  unfold nextToken lexNumber lexIdentifier
  simp only
  split
  · exact hb
  · split
    · exact Nat.le_trans hb (Cursor.pos_le_eatNumber _ false)
    · split
      · exact Nat.le_trans hb (Cursor.pos_le_eatWhile _ _)
      · split
        · exact Nat.le_trans hb (Cursor.pos_le_advance _)
        · exact hb

theorem progress_of_nextToken {lx lx' : Lexer} {t : Token}
    (h : lx.nextToken = (.ok t, lx')) (ht : t.isEof = false) :
    lx'.cursor.bytes = lx.cursor.bytes ∧ lx.cursor.pos < lx'.cursor.pos := by
  have hb := Cursor.pos_le_eatWhile isBlank lx.cursor
  have hs := Cursor.bytes_eatWhile isBlank lx.cursor
  generalize hc : lx.cursor.eatWhile isBlank = c at hb hs
  unfold nextToken at h
  rw [hc] at h
  simp only at h
  by_cases he : c.atEnd = true
  · simp only [he, if_true, Prod.mk.injEq, Except.ok.injEq] at h
    obtain ⟨rfl, -⟩ := h
    simp [Token.eof, Token.isEof] at ht
  · have hlt : c.pos < c.bytes.size := by simp [Cursor.atEnd] at he; omega
    simp only [he, Bool.false_eq_true, if_false] at h
    by_cases hd : c.current.isDigit = true
    · simp only [hd, if_true, lexNumber, Prod.mk.injEq, Except.ok.injEq] at h
      obtain ⟨-, rfl⟩ := h
      exact ⟨(Cursor.bytes_eatNumber c false).trans hs,
        Nat.lt_of_le_of_lt hb (pos_lt_eatNumber false hlt hd)⟩
    · simp only [hd, Bool.false_eq_true, if_false] at h
      by_cases ha : c.current.isAlpha = true
      · simp only [ha, if_true, lexIdentifier, Prod.mk.injEq, Except.ok.injEq] at h
        obtain ⟨-, rfl⟩ := h
        exact ⟨(Cursor.bytes_eatWhile isIdentContinue c).trans hs,
          Nat.lt_of_le_of_lt hb (pos_lt_eatWhile hlt (isIdentContinue_of_isAlpha ha))⟩
      · simp only [ha, Bool.false_eq_true, if_false] at h
        split at h
        · simp only [Prod.mk.injEq, Except.ok.injEq] at h
          obtain ⟨-, rfl⟩ := h
          refine ⟨(Cursor.bytes_advance c).trans hs, ?_⟩
          have := Cursor.pos_advance c hlt
          show lx.cursor.pos < c.advance.pos
          omega
        · simp at h

end Lexer

end ExprLexer
