import ExprLexer.Cursor
import ExprLexer.Proofs.Grammar

/-!
# A cursor after an ASCII prefix

`c.Reads pre rest` says that the cursor stands in the source whose characters are `pre ++ rest`,
just after `pre`, and that `pre` is ASCII. The lexer keeps its cursor so: it moves only over
blanks, digits, points, letters, underscores and operator characters. Then all it sees is said by
characters: the character at the cursor is the first of `rest` (`Reads.current_cons`), the cursor
is at the end exactly when `rest` is empty (`Reads.atEnd_iff`), the text from an earlier offset is
the rest of `pre` (`Reads.sliceFrom_eq`), and each scan moves the cursor over the run that
`Grammar` names (`Reads.eatWhile`, `Reads.eatNumber`).
-/

namespace ExprLexer.Cursor

open Utf8 Grammar

/-- The cursor stands just after the ASCII characters `pre` of the source `pre ++ rest`. -/
structure Reads (c : Cursor) (pre rest : List Char) : Prop where
  bytes_eq : c.bytes = Utf8.bytes (String.ofList (pre ++ rest))
  pos_eq : c.pos = pre.length
  ascii : IsAscii pre

theorem reads_ofString (s : String) : (ofString s).Reads [] s.toList :=
  ⟨by simp [ofString], rfl, isAscii_nil⟩

namespace Reads

variable {c c' : Cursor} {pre rest : List Char} {ch : Char}

theorem toList_bytes (h : c.Reads pre rest) :
    c.bytes.toList = (pre ++ rest).flatMap String.utf8EncodeChar := by
  rw [h.bytes_eq, bytes_ofList]

theorem size_bytes (h : c.Reads pre rest) :
    c.bytes.size = pre.length + (rest.flatMap String.utf8EncodeChar).length := by
  rw [← Array.length_toList, h.toList_bytes, List.flatMap_append, List.length_append,
    length_flatMap_of_ascii h.ascii]

theorem pos_le (h : c.Reads pre rest) : pre.length ≤ c.bytes.size := by
  rw [h.size_bytes]; omega

/-- Two cursors that read the same split of the same characters are one cursor. -/
theorem cursor_eq (h : c.Reads pre rest) (h' : c'.Reads pre rest) : c = c' := by
  obtain ⟨b, p, hp⟩ := c
  obtain ⟨b', p', hp'⟩ := c'
  obtain ⟨rfl, rfl, -⟩ := h
  obtain ⟨rfl, rfl, -⟩ := h'
  rfl

theorem atEnd_iff (h : c.Reads pre rest) : c.atEnd = true ↔ rest = [] := by
  rw [atEnd, decide_eq_true_iff, h.size_bytes, h.pos_eq]
  cases rest with
  | nil => simp
  | cons ch rest =>
    obtain ⟨b, bs, he⟩ := exists_cons_utf8EncodeChar ch
    simp [he]

theorem pos_lt (h : c.Reads pre (ch :: rest)) : c.pos < c.bytes.size := by
  have hne : ¬ c.atEnd = true := fun he => List.cons_ne_nil ch rest (h.atEnd_iff.1 he)
  simp only [atEnd, decide_eq_true_iff] at hne
  omega

theorem not_pos_lt (h : c.Reads pre []) : ¬ c.pos < c.bytes.size := by
  have := h.atEnd_iff.2 rfl
  simp only [atEnd, decide_eq_true_iff] at this
  omega

/-- The character at the cursor is the first one after it. -/
theorem current_cons (h : c.Reads pre (ch :: rest)) : c.current = ch := by
  have hb : c.bytes.toList = pre.flatMap String.utf8EncodeChar ++ String.utf8EncodeChar ch ++
      rest.flatMap String.utf8EncodeChar := by
    rw [h.toList_bytes]; simp
  rw [current, h.pos_eq, ← length_flatMap_of_ascii h.ascii]
  exact charAt_of_toList hb

theorem advance (h : c.Reads pre (ch :: rest)) (hch : ch.toNat < 128) :
    c.advance.Reads (pre ++ [ch]) rest := by
  refine ⟨?_, ?_, isAscii_append.2 ⟨h.ascii, isAscii_cons.2 ⟨hch, isAscii_nil⟩⟩⟩
  · rw [bytes_advance, h.bytes_eq]; simp
  · rw [pos_advance c h.pos_lt, h.pos_eq, List.length_append, List.length_singleton]

/-- Moving on while `p` holds, where `p` holds only of ASCII characters, goes over the longest
run of `p`. -/
theorem eatWhile {p : Char → Bool} (h : c.Reads pre rest) (hp : ∀ ch, p ch = true → ch.toNat < 128) :
    (c.eatWhile p).Reads (pre ++ rest.takeWhile p) (rest.dropWhile p) := by
  induction rest generalizing c pre with
  | nil =>
    rw [Cursor.eatWhile, dif_neg h.not_pos_lt]
    simpa using h
  | cons ch rest ih =>
    rw [Cursor.eatWhile, dif_pos h.pos_lt, h.current_cons]
    by_cases hch : p ch = true
    · rw [if_pos hch, List.takeWhile_cons_of_pos hch, List.dropWhile_cons_of_pos hch]
      simpa using ih (h.advance (hp ch hch))
    · rw [if_neg hch, List.takeWhile_cons_of_neg hch, List.dropWhile_cons_of_neg hch]
      simpa using h

/-- Skipping blanks stops at the first character that is no blank. -/
theorem skipBlanks {w v : List Char} (h : c.Reads pre (w ++ v)) (hw : IsBlanks w)
    (hv : ∀ ch ∈ v.head?, isBlank ch = false) : (c.eatWhile isBlank).Reads (pre ++ w) v := by
  have hs := h.eatWhile (fun _ => toNat_lt_of_isBlank)
  have hw' : ∀ ch ∈ w, isBlank ch = true := hw
  rw [List.takeWhile_append_of_pos hw', List.dropWhile_append_of_pos hw'] at hs
  cases v with
  | nil => simpa using hs
  | cons ch v =>
    have hb : ¬ isBlank ch = true := by simp [hv ch rfl]
    rwa [List.takeWhile_cons_of_neg hb, List.dropWhile_cons_of_neg hb, List.append_nil] at hs

/-- The number scan goes over `numberPrefix`. -/
theorem eatNumber (h : c.Reads pre rest) (seenDot : Bool) :
    (c.eatNumber seenDot).Reads (pre ++ numberPrefix seenDot rest)
      (rest.drop (numberPrefix seenDot rest).length) := by
  induction rest generalizing c pre seenDot with
  | nil =>
    rw [Cursor.eatNumber, dif_neg h.not_pos_lt]
    simpa [numberPrefix] using h
  | cons ch rest ih =>
    rw [Cursor.eatNumber, dif_pos h.pos_lt, h.current_cons]
    by_cases hd : ch.isDigit = true
    · rw [if_pos hd, numberPrefix, if_pos hd]
      simpa using ih (h.advance (toNat_lt_of_isDigit hd)) seenDot
    · by_cases hdot : (ch == '.' && !seenDot) = true
      · rw [if_neg hd, if_pos hdot, numberPrefix, if_neg hd, if_pos hdot]
        have hch : ch = '.' := by simp only [Bool.and_eq_true, beq_iff_eq] at hdot; exact hdot.1
        simpa using ih (h.advance (by rw [hch]; decide)) true
      · rw [if_neg hd, if_neg hdot, numberPrefix, if_neg hd, if_neg hdot]
        simpa using h

/-- The text from an offset up to the cursor is the rest of `pre` after it. -/
theorem slice?_eq (h : c.Reads pre rest) {start : Nat} (hs : start ≤ pre.length) :
    slice? c.bytes start c.pos = some (String.ofList (pre.drop start)) := by
  rw [h.pos_eq]
  exact slice?_of_ascii h.toList_bytes h.ascii hs

theorem sliceFrom_eq (h : c.Reads pre rest) {start : Nat} (hs : start ≤ pre.length) :
    c.sliceFrom start = String.ofList (pre.drop start) := by
  rw [sliceFrom, h.slice?_eq hs, Option.getD_some]

end Reads

end ExprLexer.Cursor
