import ExprLexer.Text.Utf8

/-!
# Cursors

A cursor stands at a byte offset of a source, never past its end. It moves one byte at a time
and stays at the end once there. The character it shows is read afresh from the bytes at its
offset (`Utf8.charAt`): the byte itself when it is ASCII, the character beginning there, U+FFFD
inside a character, and NUL at the end, so only `atEnd` tells a NUL byte from the end.

Main statements: the scans keep the bytes and never move back (`bytes_eatWhile`,
`pos_le_eatWhile`, and the same for `eatNumber`).
-/

namespace ExprLexer

/-- A byte offset into a source, at most its length. -/
structure Cursor where
  bytes : Array UInt8
  pos : Nat
  pos_le : pos ≤ bytes.size

namespace Cursor

/-- A cursor at the start of `source`. -/
def ofString (source : String) : Cursor := ⟨Utf8.bytes source, 0, Nat.zero_le _⟩

/-- The character at the cursor. -/
def current (c : Cursor) : Char := Utf8.charAt c.bytes c.pos

/-- Whether the cursor has reached the end of the source. -/
def atEnd (c : Cursor) : Bool := c.bytes.size ≤ c.pos

/-- One byte further, or the same cursor at the end. -/
def advance (c : Cursor) : Cursor :=
  if h : c.pos < c.bytes.size then ⟨c.bytes, c.pos + 1, h⟩ else c

/-- The source text from byte `start` to the cursor, or `""` when `start` is past the cursor or
either end falls inside a character. -/
def sliceFrom (c : Cursor) (start : Nat) : String := (Utf8.slice? c.bytes start c.pos).getD ""

/-- Moves on while the character at the cursor satisfies `p`. -/
def eatWhile (p : Char → Bool) (c : Cursor) : Cursor :=
  if h : c.pos < c.bytes.size then
    if p c.current then c.advance.eatWhile p else c
  else c
termination_by c.bytes.size - c.pos
decreasing_by simp only [advance, h, dite_true]; omega

/-- Moves on over decimal digits and at most one point; `seenDot` tells whether the point has
been taken already. -/
def eatNumber (c : Cursor) (seenDot : Bool) : Cursor :=
  if h : c.pos < c.bytes.size then
    if c.current.isDigit then c.advance.eatNumber seenDot
    else if c.current == '.' && !seenDot then c.advance.eatNumber true
    else c
  else c
termination_by c.bytes.size - c.pos
decreasing_by all_goals (simp only [advance, h, dite_true]; omega)

@[simp] theorem bytes_advance (c : Cursor) : c.advance.bytes = c.bytes := by
  unfold advance; split <;> rfl

theorem pos_advance (c : Cursor) (h : c.pos < c.bytes.size) : c.advance.pos = c.pos + 1 := by
  simp [advance, h]

theorem pos_le_advance (c : Cursor) : c.pos ≤ c.advance.pos := by
  unfold advance; split <;> simp

@[simp] theorem bytes_eatWhile (p : Char → Bool) (c : Cursor) : (c.eatWhile p).bytes = c.bytes := by
  fun_induction eatWhile p c <;> simp_all

theorem pos_le_eatWhile (p : Char → Bool) (c : Cursor) : c.pos ≤ (c.eatWhile p).pos := by
  fun_induction eatWhile p c with
  | case1 c h hp ih => have := pos_le_advance c; omega
  | _ => exact Nat.le_refl _

@[simp] theorem bytes_eatNumber (c : Cursor) (seenDot : Bool) :
    (c.eatNumber seenDot).bytes = c.bytes := by
  fun_induction eatNumber c seenDot <;> simp_all

theorem pos_le_eatNumber (c : Cursor) (seenDot : Bool) : c.pos ≤ (c.eatNumber seenDot).pos := by
  fun_induction eatNumber c seenDot with
  | case1 c _ h hd ih => have := pos_le_advance c; omega
  | case2 c _ h hd hdot ih => have := pos_le_advance c; omega
  | _ => exact Nat.le_refl _

end Cursor

end ExprLexer
