import ExprLexer.Proofs.Scan

/-!
# What `tokenize` computes

`tokenize` is exactly the token language of `Grammar`: a source lexes to `ts` precisely when it
splits into blanks and valid maximal pieces whose tokens are `ts` (`tokenize_eq_ok_iff_splits`).
Everything a split covers is ASCII, so the character offsets of a split are its byte offsets.

A source fails at its first invalid character: what comes before it lexes, the error names the
character that begins at the reported offset, and nothing after the character changes the error
(`tokenize_error_first_invalid`). Sources that meet at a blank or an operator lex one after the
other (`tokenize_append_of_separator`).
-/

namespace ExprLexer

open Utf8 Grammar

section Strings

variable {s s₁ s₂ : String} {K : KeywordSet}

theorem exists_eq_ofList (s : String) : ∃ cs, s = String.ofList cs :=
  ⟨s.toList, String.ofList_toList.symm⟩

theorem ofList_append_cons (u v : List Char) (ch : Char) :
    String.ofList (u ++ ch :: v) = String.ofList u ++ String.singleton ch ++ String.ofList v := by
  apply String.toList_inj.1
  simp [String.toList_append, String.toList_singleton]

/-- On a split, character offsets are byte offsets. -/
theorem Grammar.Splits.utf8ByteSize_eq {o : Nat} {cs : List Char} {ts : List Token} (h : Splits K o cs ts) :
    (String.ofList cs).utf8ByteSize = cs.length :=
  utf8ByteSize_ofList_of_ascii h.isAscii

/-- The empty source lexes to the end marker alone. -/
theorem tokenize_empty (K : KeywordSet) : tokenize "" K = .ok [Token.eof 0] := by
  have h := scan_of_blanks isBlanks_nil K
  rw [show String.ofList [] = "" from rfl] at h
  rw [tokenize, h]
  rfl

theorem tokenize_of_splits {cs : List Char} {ts : List Token} (h : Splits K 0 cs ts) :
    tokenize (String.ofList cs) K = .ok ts := by
  have hs := scan_of_splits h
  rw [Scan.shift_zero] at hs
  rw [tokenize, hs]
  rfl

theorem splits_of_tokenize {ts : List Token} (h : tokenize s K = .ok ts) :
    Splits K 0 s.toList ts := by
  obtain ⟨cs, rfl⟩ := exists_eq_ofList s
  rw [tokenize, Scan.result_eq_ok_iff] at h
  obtain ⟨he, rfl⟩ := h
  rw [String.toList_ofList]
  exact splits_of_scan he

/-- A source lexes to `ts` exactly when it splits into blanks and valid maximal pieces whose
tokens, followed by the end marker, are `ts`. -/
theorem tokenize_eq_ok_iff_splits (s : String) (K : KeywordSet) (ts : List Token) :
    tokenize s K = .ok ts ↔ Splits K 0 s.toList ts := by
  refine ⟨splits_of_tokenize, fun h => ?_⟩
  rw [← String.ofList_toList (s := s)]
  exact tokenize_of_splits h

/-- A source that lexes, followed by one whose first character cannot run into its last piece,
scans as its tokens without the end marker and then as the scan of the second, moved past the
first. -/
theorem scan_append_of_tokenize {ts₁ : List Token} (h : tokenize s₁ K = .ok ts₁) (s₂ : String)
    (hseam : ∀ a ∈ s₁.toList.getLast?, ∀ c ∈ s₂.toList.head?,
      isSeparator a = true ∨ (isIdentContinue c = false ∧ c ≠ '.')) :
    scan (s₁ ++ s₂) K =
      ⟨ts₁.dropLast ++ ((scan s₂ K).shift s₁.utf8ByteSize).tokens,
        ((scan s₂ K).shift s₁.utf8ByteSize).error⟩ := by
  have hs := splits_of_tokenize h
  obtain ⟨c₁, rfl⟩ := exists_eq_ofList s₁
  obtain ⟨c₂, rfl⟩ := exists_eq_ofList s₂
  simp only [String.toList_ofList] at hs hseam
  have := scan_append_of_splits hs c₂ hseam
  rw [Scan.shift_zero, Nat.zero_add] at this
  rw [← String.ofList_append, this, hs.utf8ByteSize_eq]

/-- An error stays whatever is put after the source. -/
theorem tokenize_append_of_error {e : LexError} (h : tokenize s₁ K = .error e) (s₂ : String) :
    tokenize (s₁ ++ s₂) K = .error e := by
  obtain ⟨c₁, rfl⟩ := exists_eq_ofList s₁
  obtain ⟨c₂, rfl⟩ := exists_eq_ofList s₂
  rw [tokenize, Scan.result_eq_error_iff] at h ⊢
  obtain ⟨u, ch, v, rfl, -, -, -, -, hv⟩ := scan_error h
  rw [← String.ofList_append, List.append_assoc, List.cons_append, hv]
  exact h

/-! ### The first invalid character -/

/-- A source that fails, fails at a character that begins no piece and stands at the offset the
error reports, after an ASCII part that lexes; what follows the character plays no part. -/
theorem tokenize_error_spec {ch : Char} {sp : Span}
    (h : tokenize s K = .error (.invalidCharacter ch sp)) :
    ∃ u v, s = u ++ String.singleton ch ++ v ∧ u.utf8ByteSize = sp.start ∧ u.length = sp.start ∧
      IsAscii u.toList ∧ (∃ ts, tokenize u K = .ok ts) ∧ charAt (bytes s) sp.start = ch ∧
      sp.stop = sp.start + ch.utf8Size ∧ sp.stop ≤ s.utf8ByteSize ∧
      isBlank ch = false ∧ ch.isAlpha = false ∧ ch.isDigit = false ∧
      TokenKind.ofOperator? ch = none ∧
      ∀ v', tokenize (u ++ String.singleton ch ++ v') K = .error (.invalidCharacter ch sp) := by
  obtain ⟨cs, rfl⟩ := exists_eq_ofList s
  rw [tokenize, Scan.result_eq_error_iff] at h
  obtain ⟨u, c, v, rfl, he, hb, hf, hs, hv⟩ := scan_error h
  cases he
  obtain ⟨hd, ha, ho⟩ := Grammar.Piece.front?_cons_eq_none.1 hf
  have hu := hs.utf8ByteSize_eq
  refine ⟨String.ofList u, String.ofList v, ofList_append_cons u v ch, hu, String.length_ofList,
    by rw [String.toList_ofList]; exact hs.isAscii, ⟨_, tokenize_of_splits hs⟩, ?_, rfl, ?_,
    hb, ha, hd, ho, fun v' => ?_⟩
  · -- the reader at the offset decodes the whole character, as the ASCII part before it has one
    -- byte per character
    have hbytes : (bytes (String.ofList (u ++ ch :: v))).toList =
        u.flatMap String.utf8EncodeChar ++ String.utf8EncodeChar ch ++ v.flatMap String.utf8EncodeChar := by
      rw [bytes_ofList, List.flatMap_append, List.flatMap_cons, List.append_assoc]
    rw [← length_flatMap_of_ascii hs.isAscii]
    exact charAt_of_toList hbytes
  · rw [ofList_append_cons, String.utf8ByteSize_append, String.utf8ByteSize_append,
      String.utf8ByteSize_singleton, hu]
    dsimp only
    omega
  · obtain ⟨cv, rfl⟩ := exists_eq_ofList v'
    rw [← ofList_append_cons, tokenize, hv cv, Scan.result_eq_error_iff]
    exact h

/-- After a source that lexes, a character that begins no piece and cannot run into the last
piece is the error, whatever follows it. -/
theorem tokenize_append_invalid {u : String} {ts : List Token} (hu : tokenize u K = .ok ts)
    {c : Char} (v : String) (hb : isBlank c = false) (hi : isIdentContinue c = false)
    (hdot : c ≠ '.') (ho : TokenKind.ofOperator? c = none) :
    tokenize (u ++ String.singleton c ++ v) K =
      .error (.invalidCharacter c ⟨u.utf8ByteSize, u.utf8ByteSize + c.utf8Size⟩) := by
  have hd : c.isDigit = false := Bool.eq_false_iff.2 fun h => by
    rw [isIdentContinue_of_isDigit h] at hi; cases hi
  have ha : c.isAlpha = false := Bool.eq_false_iff.2 fun h => by
    rw [isIdentContinue_of_isAlpha h] at hi; cases hi
  have hc : scan (String.singleton c ++ v) K =
      ⟨[], some (.invalidCharacter c ⟨0, c.utf8Size⟩)⟩ := by
    have := scan_of_invalid isBlanks_nil hb
      (show Grammar.Piece.front? (c :: v.toList) = none from Grammar.Piece.front?_cons_eq_none.2 ⟨hd, ha, ho⟩) K
    rwa [List.length_nil, Nat.zero_add, ofList_append_cons [] v.toList c, String.ofList_nil,
      String.empty_append, String.ofList_toList] at this
  have hseam : ∀ a ∈ u.toList.getLast?, ∀ c' ∈ (String.singleton c ++ v).toList.head?,
      isSeparator a = true ∨ (isIdentContinue c' = false ∧ c' ≠ '.') := by
    intro a _ c' hc'
    rw [String.toList_append, String.toList_singleton, List.singleton_append, List.head?_cons,
      Option.mem_some_iff] at hc'
    exact .inr (hc' ▸ ⟨hi, hdot⟩)
  rw [tokenize, String.append_assoc, scan_append_of_tokenize hu _ hseam, hc, Scan.result_eq_error_iff]
  simp [Scan.shift, LexError.shift, Span.shift, Nat.add_comm]

/-- The first invalid character decides the error: it stands after an ASCII part that lexes, at
the offset the error reports, and nothing after it matters; and after any source that lexes, a
character that begins no piece and cannot run into the last one is that error. -/
theorem tokenize_error_first_invalid (K : KeywordSet) :
    (∀ s ch sp, tokenize s K = .error (.invalidCharacter ch sp) →
      ∃ u v, s = u ++ String.singleton ch ++ v ∧ u.utf8ByteSize = sp.start ∧ u.length = sp.start ∧
        IsAscii u.toList ∧ (∃ ts, tokenize u K = .ok ts) ∧ charAt (bytes s) sp.start = ch ∧
        sp.stop = sp.start + ch.utf8Size ∧ sp.stop ≤ s.utf8ByteSize ∧
        isBlank ch = false ∧ ch.isAlpha = false ∧ ch.isDigit = false ∧
        TokenKind.ofOperator? ch = none ∧
        ∀ v', tokenize (u ++ String.singleton ch ++ v') K = .error (.invalidCharacter ch sp)) ∧
    (∀ u c v, (∃ ts, tokenize u K = .ok ts) → isBlank c = false → isIdentContinue c = false →
      c ≠ '.' → TokenKind.ofOperator? c = none →
      tokenize (u ++ String.singleton c ++ v) K =
        .error (.invalidCharacter c ⟨u.utf8ByteSize, u.utf8ByteSize + c.utf8Size⟩)) :=
  ⟨fun _ _ _ h => tokenize_error_spec h,
    fun _ _ v ⟨_, hu⟩ hb hi hdot ho => tokenize_append_invalid hu v hb hi hdot ho⟩

/-- A question mark at the start is the error, and is found after the empty part before it. -/
theorem tokenize_question_mark :
    tokenize ("" ++ String.singleton '?' ++ "x") KeywordSet.standard =
        .error (.invalidCharacter '?' ⟨0, 1⟩) ∧
      ∃ u v, "" ++ String.singleton '?' ++ "x" = u ++ String.singleton '?' ++ v ∧
        u.utf8ByteSize = 0 := by
  obtain ⟨hspec, hconv⟩ := tokenize_error_first_invalid KeywordSet.standard
  have h := hconv "" '?' "x" ⟨_, tokenize_empty _⟩ (by decide) (by decide) (by decide) (by decide)
  obtain ⟨u, v, hs, hu, -⟩ := hspec _ _ _ h
  exact ⟨h, u, v, hs, hu⟩

/-- Sources that meet at a blank or an operator character lex one after the other: the tokens of
the first without its end marker, then those of the second moved past it; an error of the first
stays, and an error of the second is moved past the first. -/
theorem tokenize_append_of_separator (s₁ s₂ : String) (K : KeywordSet)
    (hsep : ∀ a ∈ s₁.toList.getLast?, ∀ b ∈ s₂.toList.head?,
      isSeparator a = true ∨ isSeparator b = true) :
    (∀ ts₁ ts₂, tokenize s₁ K = .ok ts₁ → tokenize s₂ K = .ok ts₂ →
      tokenize (s₁ ++ s₂) K = .ok (ts₁.dropLast ++ ts₂.map (·.shift s₁.utf8ByteSize))) ∧
    (∀ e₁, tokenize s₁ K = .error e₁ → tokenize (s₁ ++ s₂) K = .error e₁) ∧
    (∀ ts₁ e₂, tokenize s₁ K = .ok ts₁ → tokenize s₂ K = .error e₂ →
      tokenize (s₁ ++ s₂) K = .error (e₂.shift s₁.utf8ByteSize)) := by
  have hseam : ∀ a ∈ s₁.toList.getLast?, ∀ c ∈ s₂.toList.head?,
      isSeparator a = true ∨ (isIdentContinue c = false ∧ c ≠ '.') :=
    fun a ha c hc => (hsep a ha c hc).imp_right seam_of_isSeparator
  refine ⟨fun ts₁ ts₂ h₁ h₂ => ?_, fun e₁ h₁ => tokenize_append_of_error h₁ s₂,
    fun ts₁ e₂ h₁ h₂ => ?_⟩
  · rw [tokenize, Scan.result_eq_ok_iff] at h₂
    rw [tokenize, scan_append_of_tokenize h₁ s₂ hseam, Scan.result_eq_ok_iff, Scan.error_shift,
      Scan.tokens_shift, h₂.1, h₂.2]
    exact ⟨rfl, rfl⟩
  · rw [tokenize, Scan.result_eq_error_iff] at h₂
    rw [tokenize, scan_append_of_tokenize h₁ s₂ hseam, Scan.result_eq_error_iff, Scan.error_shift, h₂]
    rfl

/-- A blank, then a question mark: the error moves one byte on. -/
theorem tokenize_blank_then_question_mark :
    tokenize (" " ++ "?") KeywordSet.standard = .error (.invalidCharacter '?' ⟨1, 2⟩) := by
  have h₁ : tokenize " " KeywordSet.standard = .ok [Token.eof 1] := by
    rw [tokenize, show " " = String.ofList [' '] from rfl,
      scan_of_blanks (by simp [isBlank]) KeywordSet.standard]
    rfl
  have h₂ : tokenize "?" KeywordSet.standard = .error (.invalidCharacter '?' ⟨0, 1⟩) := by
    have := scan_of_invalid isBlanks_nil (show isBlank '?' = false by decide)
      (show Grammar.Piece.front? ['?'] = none by decide) KeywordSet.standard
    rw [tokenize, show "?" = String.ofList ([] ++ ['?']) from rfl, this]
    rfl
  -- the first source ends with a blank
  have hsep : ∀ a ∈ " ".toList.getLast?, ∀ b ∈ "?".toList.head?,
      isSeparator a = true ∨ isSeparator b = true := by
    intro a ha _ _
    have hl : " ".toList.getLast? = some ' ' := by decide
    rw [hl, Option.mem_some_iff] at ha
    exact .inl (by rw [← ha]; decide)
  exact (tokenize_append_of_separator " " "?" KeywordSet.standard hsep).2.2 _ _ h₁ h₂

end Strings

end ExprLexer
