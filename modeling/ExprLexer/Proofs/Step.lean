import ExprLexer.Lexer.Scan
import ExprLexer.Proofs.Cursor

/-!
# One step of the lexer

What a step gives is said by the characters after the cursor: blanks to the end give the end
marker (`nextToken_of_blanks`), blanks then a valid piece that nothing extends give the piece's
token (`nextToken_of_piece`), and blanks then a character that begins no piece give the error at
that character (`nextToken_of_invalid`). `nextToken_cases` says that these are all a step can do.
The sub-scans called on their own take the text from the token start, wherever the last step left
it (`lexNumber_fst`, `lexIdentifier_fst`). A scan is read off one step at a time (`scan_of_error`,
`scan_of_eof`, `scan_of_token`).
-/

namespace ExprLexer.Lexer

open Utf8 Grammar Cursor

variable {lx : Lexer} {pre cs w r rest : List Char} {p : Grammar.Piece}

/-! ### The sub-scans -/

@[simp] theorem lexNumber_snd (lx : Lexer) :
    lx.lexNumber.2 = { lx with cursor := lx.cursor.eatNumber false } := rfl

@[simp] theorem lexIdentifier_snd (lx : Lexer) :
    lx.lexIdentifier.2 = { lx with cursor := lx.cursor.eatWhile isIdentContinue } := rfl

/-- The number scan takes the number prefix of what follows, and its text runs from the token
start. -/
theorem lexNumber_fst (h : lx.cursor.Reads pre cs) (hs : lx.tokenStart ≤ pre.length) :
    lx.lexNumber.1 = Token.number (String.ofList ((pre ++ numberPrefix false cs).drop lx.tokenStart))
      ⟨lx.tokenStart, pre.length + (numberPrefix false cs).length⟩ := by
  have hn := h.eatNumber false
  have ht := hn.sliceFrom_eq
    (show lx.tokenStart ≤ (pre ++ numberPrefix false cs).length by rw [List.length_append]; omega)
  simp only [lexNumber, tokenText, tokenSpan]
  rw [ht, hn.pos_eq, List.length_append]

/-- The word scan takes the word run of what follows, its text runs from the token start, and it
is a keyword exactly when the set holds that text. -/
theorem lexIdentifier_fst (h : lx.cursor.Reads pre cs) (hs : lx.tokenStart ≤ pre.length) :
    lx.lexIdentifier.1 =
      let text := String.ofList ((pre ++ cs.takeWhile isIdentContinue).drop lx.tokenStart)
      let span : Span := ⟨lx.tokenStart, pre.length + (cs.takeWhile isIdentContinue).length⟩
      if lx.keywords.contains text then Token.keyword text span else Token.identifier text span := by
  have hn := h.eatWhile (fun _ => toNat_lt_of_isIdentContinue)
  have ht := hn.sliceFrom_eq
    (show lx.tokenStart ≤ (pre ++ cs.takeWhile isIdentContinue).length by
      rw [List.length_append]; omega)
  simp only [lexIdentifier, tokenText, tokenSpan, ht, hn.pos_eq, List.length_append]

/-! ### Fields a step keeps -/

/-- A step changes only the cursor and the token start, which it sets after the blanks. -/
theorem nextToken_snd_frame (lx : Lexer) :
    ∃ c : Cursor,
      lx.nextToken.2 = { lx with cursor := c, tokenStart := (lx.cursor.eatWhile isBlank).pos } := by
  unfold nextToken lexNumber lexIdentifier
  simp only
  split
  · exact ⟨_, rfl⟩
  · split
    · exact ⟨_, rfl⟩
    · split
      · exact ⟨_, rfl⟩
      · split <;> exact ⟨_, rfl⟩

@[simp] theorem keywords_nextToken (lx : Lexer) : lx.nextToken.2.keywords = lx.keywords := by
  obtain ⟨c, hc⟩ := nextToken_snd_frame lx
  rw [hc]

@[simp] theorem finished_nextToken (lx : Lexer) : lx.nextToken.2.finished = lx.finished := by
  obtain ⟨c, hc⟩ := nextToken_snd_frame lx
  rw [hc]

theorem tokenStart_nextToken (lx : Lexer) :
    lx.nextToken.2.tokenStart = (lx.cursor.eatWhile isBlank).pos := by
  obtain ⟨c, hc⟩ := nextToken_snd_frame lx
  rw [hc]

/-- A token that a step gives covers the new token start up to the new cursor. -/
theorem span_nextToken {t : Token} (h : lx.nextToken.1 = .ok t) : t.span = lx.nextToken.2.tokenSpan := by
  revert h
  unfold nextToken lexNumber lexIdentifier
  simp only
  split
  · intro h; cases h; rfl
  · split
    · intro h; cases h; rfl
    · split
      · intro h; cases h; split <;> rfl
      · split
        · intro h; cases h; rfl
        · intro h; cases h

/-! ### What a step gives -/

/-- After blanks to the end of the source, a step gives the end marker there. -/
theorem nextToken_of_blanks (h : lx.cursor.Reads pre w) (hw : IsBlanks w) :
    lx.nextToken.1 = .ok (Token.eof (pre.length + w.length)) ∧
      lx.nextToken.2.cursor.Reads (pre ++ w) [] ∧
      lx.nextToken.2.tokenStart = pre.length + w.length := by
  have hs : (lx.cursor.eatWhile isBlank).Reads (pre ++ w) [] :=
    Reads.skipBlanks (by rwa [List.append_nil]) hw (by simp)
  have hend : (lx.cursor.eatWhile isBlank).atEnd = true := hs.atEnd_iff.2 rfl
  have hpos : (lx.cursor.eatWhile isBlank).pos = pre.length + w.length := by
    rw [hs.pos_eq, List.length_append]
  unfold nextToken
  simp only [hend, if_true]
  exact ⟨by rw [hpos], hs, hpos⟩

/-- After blanks, a step takes the piece that the dispatch takes from what follows. -/
theorem nextToken_of_front? (h : lx.cursor.Reads pre (w ++ r)) (hw : IsBlanks w)
    (hr : ∀ ch ∈ r.head?, isBlank ch = false) (hp : Grammar.Piece.front? r = some p) :
    lx.nextToken.1 = .ok (p.token lx.keywords (pre.length + w.length)) ∧
      lx.nextToken.2.cursor.Reads (pre ++ w ++ p.text) (r.drop p.text.length) ∧
      lx.nextToken.2.tokenStart = pre.length + w.length := by
  have hs := h.skipBlanks hw hr
  have hpos : (lx.cursor.eatWhile isBlank).pos = pre.length + w.length := by
    rw [hs.pos_eq, List.length_append]
  cases r with
  | nil => simp [Grammar.Piece.front?] at hp
  | cons ch v =>
    have hend : (lx.cursor.eatWhile isBlank).atEnd = false := by
      rw [Bool.eq_false_iff]; intro he; exact List.cons_ne_nil _ _ (hs.atEnd_iff.1 he)
    rw [Grammar.Piece.front?] at hp
    unfold nextToken
    generalize lx.cursor.eatWhile isBlank = c₁ at hs hpos hend
    -- the lexer as the dispatch leaves it: blanks skipped, the token start at the cursor
    have h₁ : ({ lx with cursor := c₁, tokenStart := c₁.pos } : Lexer).cursor.Reads (pre ++ w) (ch :: v) := hs
    simp only [hend, hs.current_cons, Bool.false_eq_true, if_false]
    by_cases hd : ch.isDigit = true
    · rw [if_pos hd] at hp ⊢
      cases hp
      refine ⟨?_, by simpa [Grammar.Piece.text] using hs.eatNumber false, hpos⟩
      rw [lexNumber_fst h₁ (by simp [hpos])]
      simp [Grammar.Piece.token, Grammar.Piece.text, hpos]
    · rw [if_neg hd] at hp ⊢
      by_cases ha : ch.isAlpha = true
      · rw [if_pos ha] at hp ⊢
        cases hp
        refine ⟨?_, ?_, hpos⟩
        · rw [lexIdentifier_fst h₁ (by simp [hpos])]
          simp [Grammar.Piece.token, Grammar.Piece.text, hpos]
        · simp only [lexIdentifier_snd, Grammar.Piece.text]
          rw [drop_length_takeWhile]
          exact hs.eatWhile (fun _ => toNat_lt_of_isIdentContinue)
      · rw [if_neg ha] at hp ⊢
        obtain ⟨k, hk, rfl⟩ := Option.map_eq_some_iff.1 hp
        rw [hk]
        have hch := (ofOperator?_eq_some_classes hk).1
        refine ⟨?_, by simpa [Grammar.Piece.text] using hs.advance hch, hpos⟩
        simp [Grammar.Piece.token, Grammar.Piece.text, tokenSpan, hpos, pos_advance _ hs.pos_lt]

/-- After blanks, a step gives the token of a valid piece that nothing after it extends. -/
theorem nextToken_of_piece (h : lx.cursor.Reads pre (w ++ p.text ++ rest)) (hw : IsBlanks w)
    (hp : p.Valid) (hm : p.Maximal rest) :
    lx.nextToken.1 = .ok (p.token lx.keywords (pre.length + w.length)) ∧
      lx.nextToken.2.cursor.Reads (pre ++ w ++ p.text) rest ∧
      lx.nextToken.2.tokenStart = pre.length + w.length := by
  obtain ⟨c, t, ht, hb⟩ := hp.text_cons
  rw [List.append_assoc] at h
  have := nextToken_of_front? h hw (by simp [ht, hb]) (Grammar.Piece.front?_text_append hp hm)
  rwa [List.drop_left] at this

/-- After blanks, a step fails at a character that begins no piece, and leaves the cursor on it. -/
theorem nextToken_of_invalid {ch : Char} {v : List Char} (h : lx.cursor.Reads pre (w ++ ch :: v))
    (hw : IsBlanks w) (hb : isBlank ch = false) (hp : Grammar.Piece.front? (ch :: v) = none) :
    lx.nextToken.1 = .error (.invalidCharacter ch
        ⟨pre.length + w.length, pre.length + w.length + ch.utf8Size⟩) ∧
      lx.nextToken.2.cursor.Reads (pre ++ w) (ch :: v) ∧
      lx.nextToken.2.tokenStart = pre.length + w.length := by
  have hs := h.skipBlanks hw (by simp [hb])
  have hpos : (lx.cursor.eatWhile isBlank).pos = pre.length + w.length := by
    rw [hs.pos_eq, List.length_append]
  have hend : (lx.cursor.eatWhile isBlank).atEnd = false := by
    rw [Bool.eq_false_iff]; intro he; exact List.cons_ne_nil _ _ (hs.atEnd_iff.1 he)
  obtain ⟨hd, ha, ho⟩ := Grammar.Piece.front?_cons_eq_none.1 hp
  unfold nextToken
  simp only [hend, hs.current_cons, hd, ha, ho, Bool.false_eq_true, if_false]
  exact ⟨by rw [hpos], hs, hpos⟩

/-- Everything a step can do: blanks to the end give the end marker; blanks then a valid piece
that nothing extends give its token; blanks then a character that begins no piece give the error
at it. -/
theorem nextToken_cases (h : lx.cursor.Reads pre cs) :
    (IsBlanks cs ∧ lx.nextToken.1 = .ok (Token.eof (pre.length + cs.length)) ∧
      lx.nextToken.2.cursor.Reads (pre ++ cs) [] ∧
      lx.nextToken.2.tokenStart = pre.length + cs.length) ∨
    (∃ (w : List Char) (p : Grammar.Piece) (rest : List Char), cs = w ++ p.text ++ rest ∧ IsBlanks w ∧ p.Valid ∧ p.Maximal rest ∧
      lx.nextToken.1 = .ok (p.token lx.keywords (pre.length + w.length)) ∧
      lx.nextToken.2.cursor.Reads (pre ++ w ++ p.text) rest ∧
      lx.nextToken.2.tokenStart = pre.length + w.length) ∨
    (∃ (w : List Char) (ch : Char) (v : List Char), cs = w ++ ch :: v ∧ IsBlanks w ∧ isBlank ch = false ∧ Grammar.Piece.front? (ch :: v) = none ∧
      lx.nextToken.1 = .error (.invalidCharacter ch
        ⟨pre.length + w.length, pre.length + w.length + ch.utf8Size⟩) ∧
      lx.nextToken.2.cursor.Reads (pre ++ w) (ch :: v) ∧
      lx.nextToken.2.tokenStart = pre.length + w.length) := by
  rcases front_cases cs with hb | ⟨w, p, rest, rfl, hw, hp, hm⟩ | ⟨w, ch, v, rfl, hw, hb, hf⟩
  · exact .inl ⟨hb, nextToken_of_blanks h hb⟩
  · exact .inr (.inl ⟨w, p, rest, rfl, hw, hp, hm, nextToken_of_piece h hw hp hm⟩)
  · exact .inr (.inr ⟨w, ch, v, rfl, hw, hb, hf, nextToken_of_invalid h hw hb hf⟩)

/-! ### A scan, one step at a time -/

theorem scan_of_error {e : LexError} (h : lx.nextToken.1 = .error e) : lx.scan = ⟨[], some e⟩ := by
  rw [Lexer.scan]
  split <;> simp_all

theorem scan_of_eof {t : Token} (h : lx.nextToken.1 = .ok t) (ht : t.isEof = true) :
    lx.scan = ⟨[t], none⟩ := by
  rw [Lexer.scan]
  split <;> simp_all

theorem scan_of_token {t : Token} (h : lx.nextToken.1 = .ok t) (ht : t.isEof = false) :
    lx.scan = ⟨t :: lx.nextToken.2.scan.tokens, lx.nextToken.2.scan.error⟩ := by
  rw [Lexer.scan]
  split
  · simp_all
  · rename_i t' lx' hn
    rw [hn] at h ⊢
    cases h
    simp [ht]

end ExprLexer.Lexer
