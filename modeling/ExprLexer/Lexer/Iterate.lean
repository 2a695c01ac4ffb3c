import ExprLexer.Lexer.Basic

/-!
# Iteration as a list

Iterating a lexer yields the results of `nextToken` until one of them is the end marker or an
error, and nothing after that. `Lexer.items` is that sequence as a list. It is finite because a
step that does not end the iteration moves the cursor on (`progress_of_nextToken`), and a step
that ends it marks the lexer finished, after which `next` gives nothing.
-/

namespace ExprLexer

namespace Lexer

/-- The results an iteration yields, in order, until it gives nothing. -/
def items (lx : Lexer) : List (Except LexError Token) :=
  match h : lx.next with
  | (none, _) => []
  | (some r, lx') => r :: lx'.items
termination_by lx.cursor.bytes.size - lx.cursor.pos + (if lx.finished then 0 else 1)
decreasing_by
  unfold next at h
  split at h
  · exact absurd h (by simp)
  · rename_i hf
    simp only [Prod.mk.injEq, Option.some.injEq] at h
    obtain ⟨hr, rfl⟩ := h
    have hb := bytes_nextToken lx
    have hp := pos_le_nextToken lx
    have hle := lx.nextToken.2.cursor.pos_le
    rw [hb] at hle
    simp only [hf, Bool.false_eq_true, if_false]
    rw [hb, hr]
    cases he : ends r
    · simp only [Bool.false_eq_true, if_false]
      cases r with
      | error e => exact absurd he (by simp [ends])
      | ok t =>
        have hq := progress_of_nextToken
          (show lx.nextToken = (.ok t, lx.nextToken.2) by rw [← hr]) (by simpa [ends] using he)
        omega
    · simp only [if_true]
      omega

end Lexer

end ExprLexer
