import ExprLexer.Proofs.Iterate
import ExprLexer.Proofs.Keywords

/-!
# Every step moves on or settles

A step of the lexer does one of two things. It gives a token other than the end marker, and then
it has moved the cursor on (`progress_of_nextToken`) over at least one character that is no
blank. Or it gives the end marker or an error, and then it has moved the cursor over blanks only
(`Lexer.cursor_nextToken_of_ends`), so the lexer it leaves is a fixed point of the step: the next
step looks at the same character after the same (now empty) run of blanks and gives the same
answer (`Lexer.nextToken_nextToken_of_ends`).

Main statements: once a step ends, every later step answers the same in place
(`Lexer.nextToken_fixpoint_of_ends`); and a scan gives at most one item per byte that is no blank,
and one more (`tokenize_terminates_linearly`).
-/

namespace ExprLexer

open Utf8 Grammar

/-! ### Skipping blanks twice -/

namespace Cursor

/-- Moving on while `p` holds stops at the end or at a character where `p` fails. -/
theorem eatWhile_stops (p : Char → Bool) (c : Cursor) :
    (c.eatWhile p).atEnd = true ∨ p (c.eatWhile p).current = false := by
  fun_induction eatWhile p c with
  | case1 c h hp ih => exact ih
  | case2 c h hp => exact .inr (by simpa using hp)
  | case3 c h => exact .inl (by simp [atEnd]; omega)

/-- Where `p` fails at once, moving on while `p` holds stays put. -/
theorem eatWhile_of_stops {p : Char → Bool} {c : Cursor} (h : c.atEnd = true ∨ p c.current = false) :
    c.eatWhile p = c := by
  rw [eatWhile]
  split
  · rename_i hlt
    rcases h with he | hp
    · simp [atEnd] at he; omega
    · rw [if_neg (by simp [hp])]
  · rfl

@[simp] theorem eatWhile_eatWhile (p : Char → Bool) (c : Cursor) :
    (c.eatWhile p).eatWhile p = c.eatWhile p :=
  eatWhile_of_stops (eatWhile_stops p c)

end Cursor

/-! ### A step that ends -/

namespace Lexer

variable {lx : Lexer}

/-- A step looks at nothing but the cursor after the blanks, the keyword set and whether the
iteration is over: lexers that agree on these step alike. -/
theorem nextToken_congr {lx₁ lx₂ : Lexer} (hk : lx₁.keywords = lx₂.keywords)
    (hf : lx₁.finished = lx₂.finished)
    (hc : lx₁.cursor.eatWhile isBlank = lx₂.cursor.eatWhile isBlank) :
    lx₁.nextToken = lx₂.nextToken := by
  obtain ⟨c₁, k₁, t₁, f₁⟩ := lx₁
  obtain ⟨c₂, k₂, t₂, f₂⟩ := lx₂
  simp only at hk hf hc
  subst hk hf
  simp only [nextToken, hc]

/-- A step that gives the end marker or an error has moved the cursor over the blanks only. -/
theorem cursor_nextToken_of_ends (h : ends lx.nextToken.1 = true) :
    lx.nextToken.2.cursor = lx.cursor.eatWhile isBlank := by
  revert h
  unfold nextToken lexNumber lexIdentifier
  simp only
  split
  · intro _; rfl
  · split
    · simp [ends, Token.number, Token.isEof]
    · split
      · split <;> simp [ends, Token.keyword, Token.identifier, Token.isEof]
      · split
        · rename_i k hk
          simp [ends, Token.isEof, (ofOperator?_eq_some_kind hk).2]
        · intro _; rfl

/-- Once a step gives the end marker or an error, the lexer it leaves is a fixed point of the
step. -/
theorem nextToken_nextToken_of_ends (h : ends lx.nextToken.1 = true) :
    lx.nextToken.2.nextToken = lx.nextToken := by
  apply nextToken_congr (keywords_nextToken lx) (finished_nextToken lx)
  rw [cursor_nextToken_of_ends h, Cursor.eatWhile_eatWhile]

/-- A lexer that the step leaves as it is answers every call of `nextToken` alike, in place. -/
theorem run_nextToken_of_fixed {r : Except LexError Token} (h : lx.nextToken = (r, lx)) (n : Nat) :
    lx.run (List.replicate n .nextToken) = List.replicate n (.result r, lx.position) := by
  induction n with
  | zero => rfl
  | succ n ih => simp only [List.replicate_succ, run_cons, call_nextToken, h, ih]

/-- The place of a cursor that moved over blanks of `s` only, said on the source. -/
theorem exists_blanks_between {lx' : Lexer} {s : String} {pre w v : List Char}
    (hr : lx.cursor.Reads pre (w ++ v)) (hr' : lx'.cursor.Reads (pre ++ w) v) (hw : IsBlanks w)
    (hs : pre ++ (w ++ v) = s.toList) :
    ∃ u w' v', s = u ++ w' ++ v' ∧ u.utf8ByteSize = lx.position ∧
      (u ++ w').utf8ByteSize = lx'.position ∧ ∀ c ∈ w'.toList, isBlank c = true := by
  refine ⟨String.ofList pre, String.ofList w, String.ofList v, ?_, ?_, ?_, ?_⟩
  · rw [← String.ofList_append, ← String.ofList_append, List.append_assoc, hs, String.ofList_toList]
  · rw [utf8ByteSize_ofList_of_ascii hr.ascii, position, hr.pos_eq]
  · rw [← String.ofList_append, utf8ByteSize_ofList_of_ascii hr'.ascii, position, hr'.pos_eq]
  · rw [String.toList_ofList]
    exact hw

/-- In a sound lexer, a step that ends has moved the cursor over blanks of the source only. -/
theorem Sound.skips_blanks_of_ends {s : String} {K : KeywordSet} (hs : Sound s K lx)
    (h : ends lx.nextToken.1 = true) :
    ∃ u w v, s = u ++ w ++ v ∧ u.utf8ByteSize = lx.position ∧
      (u ++ w).utf8ByteSize = lx.nextToken.2.position ∧ ∀ c ∈ w.toList, isBlank c = true := by
  obtain ⟨pre, cs, hr, hcs⟩ := hs.reads
  rcases nextToken_cases hr with ⟨hb, -, hr', -⟩ | ⟨w, p, rest, -, -, hp, -, hres, -, -⟩ |
    ⟨w, ch, v, rfl, hw, -, -, -, hr', -⟩
  · -- blanks to the end
    exact exists_blanks_between (v := []) (by simpa using hr) hr' hb (by simpa using hcs)
  · -- a piece's token never ends a step
    rw [hres] at h
    simp [ends, Grammar.Piece.token_isEof hp] at h
  · -- an invalid character: the cursor stops on it
    exact exists_blanks_between hr hr' hw hcs

/-- Once a step gives the end marker or an error, it has moved the cursor over blanks of the
source only, and the lexer it leaves is settled: the next step gives the same answer and leaves
the lexer as it is (its cursor, so the character at the cursor, and its token start), and any
number of further steps answer the same at the same place. -/
theorem nextToken_fixpoint_of_ends {s : String} {K : KeywordSet} (h : Reachable s K lx)
    (he : ends lx.nextToken.1 = true) :
    lx.nextToken.2.nextToken = lx.nextToken ∧
      (∀ n, lx.nextToken.2.run (List.replicate n .nextToken) =
        List.replicate n (.result lx.nextToken.1, lx.nextToken.2.position)) ∧
      ∃ u w v, s = u ++ w ++ v ∧ u.utf8ByteSize = lx.position ∧
        (u ++ w).utf8ByteSize = lx.nextToken.2.position ∧ ∀ c ∈ w.toList, isBlank c = true := by
  have hfix := nextToken_nextToken_of_ends he
  exact ⟨hfix, run_nextToken_of_fixed hfix, h.sound.skips_blanks_of_ends he⟩

/-- A blank, then a question mark: the first step fails at the mark, and stays there. -/
theorem blank_question_mark_settles :
    ends (Lexer.ofString " ?" KeywordSet.standard).nextToken.1 = true ∧
      (Lexer.ofString " ?" KeywordSet.standard).nextToken.2.nextToken =
        (Lexer.ofString " ?" KeywordSet.standard).nextToken := by
  have he : ends (Lexer.ofString " ?" KeywordSet.standard).nextToken.1 = true := by
    have hr := reads_ofString_ofList ([' '] ++ ['?']) KeywordSet.standard
    rw [show String.ofList ([' '] ++ ['?']) = " ?" from rfl] at hr
    rw [(nextToken_of_invalid hr (by simp [isBlank]) (by decide) (by decide)).1]
    rfl
  exact ⟨he, (nextToken_fixpoint_of_ends .start he).1⟩

end Lexer

/-! ### How many items a scan gives -/

/-- The number of bytes of a text that are neither a space nor a tab. -/
def nonBlankBytes (s : String) : Nat :=
  (bytes s).toList.countP fun b => b != 0x20 && b != 0x09

/-- The first byte of a character that is no blank is neither a space nor a tab: a byte below
`0x80` is read back as the character of that code. -/
theorem one_le_countP_utf8EncodeChar {c : Char} (hc : isBlank c = false) :
    1 ≤ (String.utf8EncodeChar c).countP (fun b => b != 0x20 && b != 0x09) := by
  obtain ⟨b, bs, he⟩ := exists_cons_utf8EncodeChar c
  have hdec := decodeChar?_utf8EncodeChar_append c []
  rw [he, List.cons_append] at hdec
  have hb : b ≠ 0x20 ∧ b ≠ 0x09 := by
    constructor <;> rintro rfl <;>
    · rw [decodeChar?_ascii _ (by decide)] at hdec
      obtain rfl := (Prod.mk.inj (Option.some.inj hdec)).1
      exact absurd hc (by decide)
  rw [he, List.countP_cons]
  simp [hb]

/-- A text has at least as many bytes that are no blanks as characters that are no blanks. -/
theorem countP_le_nonBlankBytes (cs : List Char) :
    cs.countP (fun c => !isBlank c) ≤ nonBlankBytes (String.ofList cs) := by
  rw [nonBlankBytes, bytes_ofList]
  induction cs with
  | nil => simp
  | cons c cs ih =>
    rw [List.flatMap_cons, List.countP_append, List.countP_cons]
    cases hc : isBlank c
    · have := one_le_countP_utf8EncodeChar hc
      simp only [Bool.not_false, if_true]
      omega
    · simp only [Bool.not_true, Bool.false_eq_true, if_false]
      omega

@[simp] theorem Scan.length_items_cons (t : Token) (sc : Scan) :
    (sc.cons t).items.length = sc.items.length + 1 := by
  simp only [Scan.items, Scan.cons, List.map_cons, List.cons_append, List.length_cons]

@[simp] theorem Scan.length_items_shift (sc : Scan) (n : Nat) :
    (sc.shift n).items.length = sc.items.length := by
  obtain ⟨ts, _ | e⟩ := sc <;> simp [Scan.items, Scan.shift]

/-- A scan gives at most one item per character that is no blank, and one more. -/
theorem length_items_scan_le (cs : List Char) (K : KeywordSet) :
    (scan (String.ofList cs) K).items.length ≤ cs.countP (fun c => !isBlank c) + 1 := by
  -- one piece at a time: a token other than the end marker takes the first character of its
  -- piece, which is no blank
  induction cs using front_induction with
  | blanks w hw =>
    rw [scan_of_blanks hw K]
    simp [Scan.items]
  | piece w p rest hw hp hm ih =>
    obtain ⟨c, t, ht, hc⟩ := hp.text_cons
    have hw₀ : w.countP (fun c => !isBlank c) = 0 :=
      List.countP_eq_zero.2 fun c hc => by simp [hw c hc]
    rw [scan_of_piece hw hp hm K, Scan.length_items_cons, Scan.length_items_shift]
    simp only [List.countP_append, hw₀, ht, List.countP_cons, hc, Bool.not_false, if_true]
    omega
  | invalid w ch v hw hb hf =>
    rw [scan_of_invalid hw hb hf K]
    simp [Scan.items]

/-- A scan whose first step ends gives that step's answer alone. -/
theorem Lexer.scan_items_of_ends {lx : Lexer} (h : Lexer.ends lx.nextToken.1 = true) :
    lx.scan.items = [lx.nextToken.1] := by
  cases hr : lx.nextToken.1 with
  | error e => rw [Lexer.scan_of_error hr]; rfl
  | ok t =>
    rw [hr] at h
    rw [Lexer.scan_of_eof hr h]
    rfl

/-- In a sound lexer, a step that gives a token other than the end marker moves the cursor on,
so the bytes left to read, the measure of a scan, go down. -/
theorem Lexer.Sound.progress {s : String} {K : KeywordSet} {lx : Lexer} (hs : Lexer.Sound s K lx)
    {t : Token} (ht : lx.nextToken.1 = .ok t) (he : t.isEof = false) :
    lx.position < lx.nextToken.2.position ∧
      s.utf8ByteSize - lx.nextToken.2.position < s.utf8ByteSize - lx.position := by
  have hlt := (Lexer.progress_of_nextToken (show lx.nextToken = (.ok t, lx.nextToken.2) by
    rw [← ht]) he).2
  have hle := hs.nextToken.position_le
  simp only [Lexer.position] at hle ⊢
  omega

/-- The loop of a scan ends, with a number of tokens linear in the source. A step from a
reachable lexer that gives a token other than the end marker moves the cursor on, so the bytes
left go down; a step that gives the end marker or an error is the scan's last item. So the tokens
of a source that lexes number at most its bytes that are no blanks, and one more, and so do the
items of iterating its lexer: every call of `next` after that many answers nothing. -/
theorem tokenize_terminates_linearly (s : String) (K : KeywordSet) :
    (∀ lx t, Lexer.Reachable s K lx → lx.nextToken.1 = .ok t → t.isEof = false →
      lx.position < lx.nextToken.2.position ∧
        s.utf8ByteSize - lx.nextToken.2.position < s.utf8ByteSize - lx.position) ∧
    (∀ lx : Lexer, Lexer.ends lx.nextToken.1 = true → lx.scan.items = [lx.nextToken.1]) ∧
    (∀ ts, tokenize s K = .ok ts → ts.length ≤ nonBlankBytes s + 1) ∧
    (Lexer.ofString s K).items.length ≤ nonBlankBytes s + 1 ∧
    ∀ n, ∀ r ∈ (((Lexer.ofString s K).run (List.replicate n .next)).map Prod.fst).drop
      (nonBlankBytes s + 1), r = .exhausted := by
  obtain ⟨cs, rfl⟩ := exists_eq_ofList s
  have hitems : (Lexer.ofString (String.ofList cs) K).items.length ≤
      nonBlankBytes (String.ofList cs) + 1 := by
    rw [items_ofString]
    have := length_items_scan_le cs K
    have := countP_le_nonBlankBytes cs
    omega
  refine ⟨fun lx t h ht he => h.sound.progress ht he, fun lx h => Lexer.scan_items_of_ends h,
    fun ts h => ?_, hitems, fun n r hr => ?_⟩
  · -- the items of a source that lexes are its tokens
    rw [← List.length_map (f := Except.ok (ε := LexError)), ← items_of_tokenize_ok h]
    exact hitems
  · -- past the items, every answer is that nothing is left
    rw [Lexer.run_next, List.drop_append, List.drop_eq_nil_of_le (by simp; omega),
      List.nil_append] at hr
    exact List.eq_of_mem_replicate (List.mem_of_mem_drop hr)

/-- `let` lexes to its keyword and the end marker, within the bound of its three letters. -/
theorem let_within_token_bound :
    tokenize "let" KeywordSet.standard = .ok [Token.keyword "let" ⟨0, 3⟩, Token.eof 3] ∧
      [Token.keyword "let" ⟨0, 3⟩, Token.eof 3].length ≤ nonBlankBytes "let" + 1 := by
  have h : tokenize "let" KeywordSet.standard = .ok [Token.keyword "let" ⟨0, 3⟩, Token.eof 3] := by
    rw [tokenize_keywordShaped (by decide), show "let".utf8ByteSize = 3 by decide]
    simp [KeywordSet.standard, defaultKeywords]
  exact ⟨h, (tokenize_terminates_linearly "let" _).2.2.1 _ h⟩

end ExprLexer
