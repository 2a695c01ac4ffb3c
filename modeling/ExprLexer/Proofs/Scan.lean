import ExprLexer.Proofs.Step

/-!
# Scans

A scan from a cursor depends only on the characters after it: every offset is moved by where the
cursor stands, and blanks at the cursor move them further and change nothing else
(`Lexer.scan_eq_shift`). So the scan of a source unfolds one piece at a time, as `Splits` does:
blanks to the end give the end marker (`scan_of_blanks`), a valid maximal piece gives its token
and then the scan of the rest (`scan_of_piece`), and a character that begins no piece gives the
error at it (`scan_of_invalid`).

From these: a scan reaches the end exactly when the source splits (`scan_of_splits`,
`splits_of_scan`); it fails at the first character that begins no piece, after a part that
splits into the tokens given so far, and nothing after that character plays a part
(`scan_error`); and a part that splits, followed by characters it cannot run into, scans as its
tokens and then as the scan of what follows (`scan_append_of_splits`).
-/

namespace ExprLexer

open Utf8 Grammar Cursor

/-- The scan with every span moved `n` bytes on. -/
def Scan.shift (sc : Scan) (n : Nat) : Scan :=
  ⟨sc.tokens.map (·.shift n), sc.error.map (·.shift n)⟩

@[simp] theorem Token.shift_shift (t : Token) (a b : Nat) : (t.shift a).shift b = t.shift (a + b) := by
  simp [Token.shift, Span.shift, Nat.add_assoc]

@[simp] theorem LexError.shift_shift (e : LexError) (a b : Nat) :
    (e.shift a).shift b = e.shift (a + b) := by
  cases e; simp [LexError.shift, Span.shift, Nat.add_assoc]

@[simp] theorem Token.shift_zero (t : Token) : t.shift 0 = t := rfl

@[simp] theorem LexError.shift_zero (e : LexError) : e.shift 0 = e := by
  cases e; rfl

@[simp] theorem Scan.shift_zero (sc : Scan) : sc.shift 0 = sc := by
  simp [Scan.shift]

@[simp] theorem Scan.shift_shift (sc : Scan) (a b : Nat) : (sc.shift a).shift b = sc.shift (a + b) := by
  simp [Scan.shift, List.map_map, Option.map_map, Function.comp_def]

@[simp] theorem Token.shift_eof (o n : Nat) : (Token.eof o).shift n = Token.eof (o + n) := rfl

/-- The scan that gives `t` and then what `sc` gives. -/
def Scan.cons (t : Token) (sc : Scan) : Scan := ⟨t :: sc.tokens, sc.error⟩

@[simp] theorem Scan.cons_mk (t : Token) (ts : List Token) (e : Option LexError) :
    Scan.cons t ⟨ts, e⟩ = ⟨t :: ts, e⟩ := rfl

@[simp] theorem Scan.error_cons (t : Token) (sc : Scan) : (Scan.cons t sc).error = sc.error := rfl

@[simp] theorem Scan.tokens_cons (t : Token) (sc : Scan) :
    (Scan.cons t sc).tokens = t :: sc.tokens := rfl

@[simp] theorem Scan.shift_cons (t : Token) (sc : Scan) (n : Nat) :
    (Scan.cons t sc).shift n = Scan.cons (t.shift n) (sc.shift n) := rfl

@[simp] theorem Scan.error_shift (sc : Scan) (n : Nat) : (sc.shift n).error = sc.error.map (·.shift n) :=
  rfl

@[simp] theorem Scan.tokens_shift (sc : Scan) (n : Nat) :
    (sc.shift n).tokens = sc.tokens.map (·.shift n) := rfl

@[simp] theorem Scan.result_eq_ok_iff {sc : Scan} {ts : List Token} :
    sc.result = .ok ts ↔ sc.error = none ∧ sc.tokens = ts := by
  obtain ⟨tokens, _ | e⟩ := sc <;> simp [Scan.result]

@[simp] theorem Scan.result_eq_error_iff {sc : Scan} {e : LexError} :
    sc.result = .error e ↔ sc.error = some e := by
  obtain ⟨tokens, _ | e'⟩ := sc <;> simp [Scan.result]

namespace Lexer

@[simp] theorem keywords_ofString (s : String) (K : KeywordSet) : (Lexer.ofString s K).keywords = K :=
  rfl

theorem reads_ofString_ofList (cs : List Char) (K : KeywordSet) :
    (Lexer.ofString (String.ofList cs) K).cursor.Reads [] cs := by
  simpa [Lexer.ofString] using Cursor.reads_ofString (String.ofList cs)

variable {lx : Lexer} {pre cs w : List Char}

/-- A scan is the scan of the characters after the blanks at the cursor, moved to where those
characters begin. -/
theorem scan_eq_shift (h : lx.cursor.Reads pre (w ++ cs)) (hw : IsBlanks w) :
    lx.scan = (ExprLexer.scan (String.ofList cs) lx.keywords).shift (pre.length + w.length) := by
  -- along `cs` one piece at a time; both lexers take the same first piece, after their own blanks
  induction cs using front_induction generalizing lx pre w with
  | blanks cs hb =>
    have h₀ := reads_ofString_ofList cs lx.keywords
    have hr := (nextToken_of_blanks h (isBlanks_append.2 ⟨hw, hb⟩)).1
    have hr₀ := (nextToken_of_blanks h₀ hb).1
    rw [scan_of_eof hr rfl, ExprLexer.scan, scan_of_eof hr₀ rfl]
    simp [Scan.shift]
    ac_rfl
  | piece w' p rest hw' hp hm ih =>
    have h₀ := reads_ofString_ofList (w' ++ p.text ++ rest) lx.keywords
    -- the lexers after the piece read `rest` with no blanks before it
    have ih' : ∀ (lx : Lexer) pre, lx.cursor.Reads pre rest →
        lx.scan = (ExprLexer.scan (String.ofList rest) lx.keywords).shift pre.length :=
      fun lx pre h => by simpa using ih (w := []) (by simpa using h) isBlanks_nil
    simp only [← List.append_assoc] at h
    obtain ⟨hr, h', -⟩ := nextToken_of_piece h (isBlanks_append.2 ⟨hw, hw'⟩) hp hm
    obtain ⟨hr₀, h₀', -⟩ := nextToken_of_piece h₀ hw' hp hm
    rw [scan_of_token hr (Grammar.Piece.token_isEof hp _ _), ExprLexer.scan,
      scan_of_token hr₀ (Grammar.Piece.token_isEof hp _ _), ih' _ _ h', ih' _ _ h₀']
    simp only [keywords_nextToken, keywords_ofString, Scan.shift, List.map_cons, List.map_map,
      Option.map_map, Function.comp_def, Token.shift_shift, LexError.shift_shift, Grammar.Piece.token_shift,
      List.length_append, List.length_nil, Nat.zero_add]
    ac_rfl
  | invalid w' ch v hw' hb hf =>
    have h₀ := reads_ofString_ofList (w' ++ ch :: v) lx.keywords
    have hr := (nextToken_of_invalid (show lx.cursor.Reads pre ((w ++ w') ++ ch :: v) by simpa using h)
      (isBlanks_append.2 ⟨hw, hw'⟩) hb hf).1
    have hr₀ := (nextToken_of_invalid h₀ hw' hb hf).1
    rw [scan_of_error hr, ExprLexer.scan, scan_of_error hr₀]
    simp [Scan.shift, LexError.shift, Span.shift]
    omega

end Lexer

/-! ### A source, one piece at a time -/

section Source

variable {cs w rest v : List Char} {p : Grammar.Piece} {ch : Char} {K : KeywordSet}

/-- Blanks in front move every span of a scan and change nothing else. -/
theorem scan_blanks_append (hw : IsBlanks w) (rest : List Char) (K : KeywordSet) :
    scan (String.ofList (w ++ rest)) K = (scan (String.ofList rest) K).shift w.length := by
  rw [scan]
  simpa using Lexer.scan_eq_shift (Lexer.reads_ofString_ofList (w ++ rest) K) hw

/-- Blanks to the end scan as the end marker after them. -/
theorem scan_of_blanks (hw : IsBlanks w) (K : KeywordSet) :
    scan (String.ofList w) K = ⟨[Token.eof w.length], none⟩ := by
  have hr := (Lexer.nextToken_of_blanks (Lexer.reads_ofString_ofList w K) hw).1
  rw [scan, Lexer.scan_of_eof hr rfl, List.length_nil, Nat.zero_add]

/-- Blanks, then a valid piece that what follows cannot extend: the piece's token, then the scan
of what follows, moved past the piece. -/
theorem scan_of_piece (hw : IsBlanks w) (hp : p.Valid) (hm : p.Maximal rest) (K : KeywordSet) :
    scan (String.ofList (w ++ p.text ++ rest)) K =
      ((scan (String.ofList rest) K).shift (w.length + p.text.length)).cons (p.token K w.length) := by
  obtain ⟨hr, h', -⟩ :=
    Lexer.nextToken_of_piece (Lexer.reads_ofString_ofList (w ++ p.text ++ rest) K) hw hp hm
  rw [scan, Lexer.scan_of_token hr (Grammar.Piece.token_isEof hp _ _),
    Lexer.scan_eq_shift (w := []) (by simpa using h') isBlanks_nil]
  simp [Scan.cons]

/-- Blanks, then a character that begins no piece: the error at that character, and no token. -/
theorem scan_of_invalid (hw : IsBlanks w) (hb : isBlank ch = false)
    (hf : Grammar.Piece.front? (ch :: v) = none) (K : KeywordSet) :
    scan (String.ofList (w ++ ch :: v)) K =
      ⟨[], some (.invalidCharacter ch ⟨w.length, w.length + ch.utf8Size⟩)⟩ := by
  have hr := (Lexer.nextToken_of_invalid (Lexer.reads_ofString_ofList (w ++ ch :: v) K) hw hb hf).1
  rw [scan, Lexer.scan_of_error hr, List.length_nil, Nat.zero_add]

/-! ### Splits and scans -/

/-- A source that splits scans to its end, with the tokens of the split. -/
theorem scan_of_splits {o : Nat} {ts : List Token} (h : Splits K o cs ts) :
    (scan (String.ofList cs) K).shift o = ⟨ts, none⟩ := by
  induction h with
  | @last o w hw =>
    rw [scan_of_blanks hw]
    simp [Scan.shift, Nat.add_comm]
  | @piece o cs w rest p ts hcs hw hp hm _ ih =>
    subst hcs
    rw [scan_of_piece hw hp hm, Scan.shift_cons, Scan.shift_shift, Grammar.Piece.token_shift,
      show w.length + p.text.length + o = o + w.length + p.text.length by omega, ih, Scan.cons_mk]

/-- A scan that reaches the end splits the source into the tokens it gives. -/
theorem splits_of_scan (he : (scan (String.ofList cs) K).error = none) :
    Splits K 0 cs (scan (String.ofList cs) K).tokens := by
  induction cs using front_induction with
  | blanks cs hb =>
    rw [scan_of_blanks hb]
    simpa using (Splits.last hb : Splits K 0 cs _)
  | piece w p rest hw hp hm ih =>
    rw [scan_of_piece hw hp hm] at he ⊢
    have he' : (scan (String.ofList rest) K).error = none := by simpa using he
    have hs : Splits K (0 + w.length + p.text.length) rest
        ((scan (String.ofList rest) K).tokens.map (·.shift (w.length + p.text.length))) := by
      simpa using (ih he').shift (w.length + p.text.length)
    simpa using Splits.piece rfl hw hp hm hs
  | invalid w ch v hw hb hf =>
    rw [scan_of_invalid hw hb hf] at he
    cases he

/-- A scan fails at a character that begins no piece, after blanks and pieces that give the
tokens before it, and what follows that character plays no part. -/
theorem scan_error {e : LexError} (he : (scan (String.ofList cs) K).error = some e) :
    ∃ u ch v, cs = u ++ ch :: v ∧ e = .invalidCharacter ch ⟨u.length, u.length + ch.utf8Size⟩ ∧
      isBlank ch = false ∧ Grammar.Piece.front? (ch :: v) = none ∧
      Splits K 0 u ((scan (String.ofList cs) K).tokens ++ [Token.eof u.length]) ∧
      ∀ v', scan (String.ofList (u ++ ch :: v')) K = scan (String.ofList cs) K := by
  induction cs using front_induction generalizing e with
  | blanks cs hb =>
    rw [scan_of_blanks hb] at he
    cases he
  | piece w p rest hw hp hm ih =>
    rw [scan_of_piece hw hp hm] at he ⊢
    obtain ⟨e₀, he₀, rfl⟩ := Option.map_eq_some_iff.1 (by simpa using he)
    obtain ⟨u, ch, v, rfl, rfl, hb, hf, hs, hv⟩ := ih he₀
    refine ⟨w ++ p.text ++ u, ch, v, by simp, ?_, hb, hf, ?_, fun v' => ?_⟩
    · simp [LexError.shift, Span.shift]
      omega
    · have hs' : Splits K (0 + w.length + p.text.length) u
          ((scan (String.ofList (u ++ ch :: v)) K).tokens.map (·.shift (w.length + p.text.length)) ++
            [Token.eof (w.length + p.text.length + u.length)]) := by
        simpa [Nat.add_comm] using hs.shift (w.length + p.text.length)
      simpa [Nat.add_assoc] using Splits.piece rfl hw hp hm.of_append hs'
    · -- the piece stays maximal, as the character after it is the same
      have hm' : p.Maximal (u ++ ch :: v') := hm.of_head?_eq (by cases u <;> rfl)
      rw [List.append_assoc, scan_of_piece hw hp hm', hv v']
  | invalid w ch v hw hb hf =>
    rw [scan_of_invalid hw hb hf] at he ⊢
    cases he
    refine ⟨w, ch, v, rfl, rfl, hb, hf, by simpa using (Splits.last hw : Splits K 0 w _), fun v' => ?_⟩
    exact scan_of_invalid hw hb (Grammar.Piece.front?_cons_eq_none.2 (Grammar.Piece.front?_cons_eq_none.1 hf)) K

/-- A part that splits, followed by characters that cannot run into its last piece, scans as
the tokens of its split without the end marker, then as the scan of what follows, moved past
it. -/
theorem scan_append_of_splits {o : Nat} {u : List Char} {ts : List Token} (h : Splits K o u ts)
    (rest : List Char) (hseam : ∀ a ∈ u.getLast?, ∀ c ∈ rest.head?,
      isSeparator a = true ∨ (isIdentContinue c = false ∧ c ≠ '.')) :
    (scan (String.ofList (u ++ rest)) K).shift o =
      ⟨ts.dropLast ++ ((scan (String.ofList rest) K).shift (o + u.length)).tokens,
        ((scan (String.ofList rest) K).shift (o + u.length)).error⟩ := by
  induction h with
  | @last o w hw =>
    rw [scan_blanks_append hw, Scan.shift_shift, Nat.add_comm]
    rfl
  | @piece o cs w r p ts hcs hw hp hm hr ih =>
    subst hcs
    -- the last piece of the part meets `rest` only when nothing of the part follows it
    have hm' : p.Maximal (r ++ rest) := by
      cases r with
      | nil =>
        refine Grammar.Piece.maximal_of_seam hp fun a ha c hc => hseam a ?_ c hc
        rw [List.append_nil, List.getLast?_append, Option.mem_def.1 ha]
        rfl
      | cons c r => exact hm.of_head?_eq rfl
    have hseam' : ∀ a ∈ r.getLast?, ∀ c ∈ rest.head?,
        isSeparator a = true ∨ (isIdentContinue c = false ∧ c ≠ '.') := by
      intro a ha c hc
      refine hseam a ?_ c hc
      rw [List.getLast?_append, Option.mem_def.1 ha]
      rfl
    rw [List.append_assoc, scan_of_piece hw hp hm', Scan.shift_cons, Scan.shift_shift,
      Grammar.Piece.token_shift, show w.length + p.text.length + o = o + w.length + p.text.length by omega,
      ih hseam', List.dropLast_cons_of_ne_nil hr.ne_nil]
    simp [Nat.add_assoc]

end Source

end ExprLexer
