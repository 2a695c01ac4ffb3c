import ExprLexer.Proofs.Tokenize

/-!
# What the keyword set decides

The keyword set plays one part in lexing: once a word has been scanned, it says whether the
word is a keyword or an identifier. It never moves the cursor, so lexing a source under two sets
gives the same error, or tokens that differ only in how their words are labelled
(`scan_relabel`). Every word the lexer scans is keyword-shaped, so entries of a set that are not
can never match, and dropping them changes nothing (`scan_congr_keywords`).

The check that a keyword list makes, `isKeywordShaped`, accepts exactly the texts that lex alone
as one word (`isKeywordShaped_iff_lexes_alone`), so every word of a checked set lexes alone as
its keyword.
-/

namespace ExprLexer

open Utf8 Grammar

/-! ### Keyword sets -/

theorem mem_insertSorted {w w' : String} {l : List String} :
    w' ∈ insertSorted w l ↔ w' = w ∨ w' ∈ l := by
  induction l with
  | nil => simp [insertSorted]
  | cons x l ih =>
    unfold insertSorted
    split
    · simp
    · split
      · rename_i h
        subst h
        simp
      · simp only [List.mem_cons, ih]
        exact or_left_comm

namespace KeywordSet

theorem mem_words_foldl_insert (w : String) (ws : List String) (k : KeywordSet) :
    w ∈ (ws.foldl insert k).words ↔ w ∈ k.words ∨ w ∈ ws := by
  induction ws generalizing k with
  | nil => simp
  | cons x ws ih =>
    rw [List.foldl_cons, ih, insert, mem_insertSorted, List.mem_cons]
    tauto

/-- The unchecked build holds exactly the words it was given. -/
@[simp] theorem contains_ofList (ws : List String) (w : String) :
    (ofList ws).contains w = decide (w ∈ ws) := by
  simp [contains, ofList, mem_words_foldl_insert, empty]

end KeywordSet

/-- The checked build fails at no entry only when every entry is keyword-shaped. -/
theorem isKeywordShaped_of_firstBad?_eq_none {i : Nat} {ws : List String}
    (h : KeywordError.firstBad? i ws = none) : ∀ w ∈ ws, isKeywordShaped w = true := by
  induction ws generalizing i with
  | nil => simp
  | cons w ws ih =>
    rw [KeywordError.firstBad?] at h
    split at h
    · cases h
    · split at h
      · cases h
      · rename_i hs
        intro w' hw'
        rcases List.mem_cons.1 hw' with rfl | hw'
        · simpa using hs
        · exact ih h w' hw'

/-- A checked build that succeeds is the unchecked build of its words, all of them
keyword-shaped. -/
theorem ofWords?_eq_ok {ws : List String} {K : KeywordSet} (h : KeywordSet.ofWords? ws = .ok K) :
    K = KeywordSet.ofList ws ∧ ∀ w ∈ ws, isKeywordShaped w = true := by
  unfold KeywordSet.ofWords? at h
  split at h
  · cases h
  · rename_i hn
    cases h
    exact ⟨rfl, isKeywordShaped_of_firstBad?_eq_none hn⟩

/-- A text is keyword-shaped exactly when its characters form a word. -/
theorem isKeywordShaped_iff_isWord (w : String) : isKeywordShaped w = true ↔ IsWord w.toList := by
  unfold isKeywordShaped
  split
  · rename_i c cs h
    rw [h, isWord_cons, Bool.and_eq_true, List.all_eq_true]
    rfl
  · rename_i h
    rw [h]
    simp [not_isWord_nil]

/-! ### A word alone -/

/-- A word alone splits as its piece and then the end marker. -/
theorem tokenize_word {x : List Char} (hx : IsWord x) (K : KeywordSet) :
    tokenize (String.ofList x) K = .ok [(Grammar.Piece.word x).token K 0, Token.eof x.length] := by
  have hl : Splits K (0 + ([] : List Char).length + (Grammar.Piece.word x).text.length) [] [Token.eof x.length] := by
    simpa [Grammar.Piece.text] using (Splits.last isBlanks_nil : Splits K x.length [] _)
  exact tokenize_of_splits
    (@Splits.piece K 0 x [] [] (.word x) [Token.eof x.length] (by simp [Grammar.Piece.text]) isBlanks_nil hx
      (Grammar.Piece.maximal_nil _) hl)

/-- A keyword-shaped text lexes alone as one word, a keyword exactly when the set holds it. -/
theorem tokenize_keywordShaped {w : String} (hw : isKeywordShaped w = true) (K : KeywordSet) :
    tokenize w K = .ok [if K.contains w then Token.keyword w ⟨0, w.utf8ByteSize⟩
      else Token.identifier w ⟨0, w.utf8ByteSize⟩, Token.eof w.utf8ByteSize] := by
  have hx := (isKeywordShaped_iff_isWord w).1 hw
  have hsize : w.utf8ByteSize = w.toList.length := by
    conv_lhs => rw [← String.ofList_toList (s := w)]
    exact utf8ByteSize_ofList_of_ascii hx.isWordRun.isAscii
  have h := tokenize_word hx K
  rw [String.ofList_toList] at h
  rw [h, hsize]
  simp [Grammar.Piece.token, Grammar.Piece.text]

/-! ### Labelling words -/

/-- The kind the set `K` gives a token: an identifier or a keyword is a keyword exactly when
`K` holds its text, and every other kind stays. -/
def Token.kindUnder (K : KeywordSet) (t : Token) : TokenKind :=
  match t.kind with
  | .identifier | .keyword => if K.contains (t.text.getD "") then .keyword else .identifier
  | k => k

/-- The token labelled by the set `K`. -/
def Token.relabel (K : KeywordSet) (t : Token) : Token := { t with kind := t.kindUnder K }

namespace Token

@[simp] theorem span_relabel (K : KeywordSet) (t : Token) : (t.relabel K).span = t.span := rfl

@[simp] theorem text_relabel (K : KeywordSet) (t : Token) : (t.relabel K).text = t.text := rfl

@[simp] theorem kind_relabel (K : KeywordSet) (t : Token) : (t.relabel K).kind = t.kindUnder K := rfl

@[simp] theorem kindUnder_shift (K : KeywordSet) (t : Token) (n : Nat) :
    (t.shift n).kindUnder K = t.kindUnder K := rfl

theorem relabel_shift (K : KeywordSet) (t : Token) (n : Nat) :
    (t.shift n).relabel K = (t.relabel K).shift n := rfl

@[simp] theorem relabel_eof (K : KeywordSet) (n : Nat) : (eof n).relabel K = eof n := rfl

end Token

/-- The token of a valid piece, labelled by another set, is its token under that set. -/
theorem Grammar.Piece.token_relabel {p : Piece} (hp : p.Valid) (K₁ K₂ : KeywordSet) (o : Nat) :
    (p.token K₁ o).relabel K₂ = p.token K₂ o := by
  cases p with
  | operator k c =>
    -- an operator kind is neither an identifier nor a keyword, as both carry text
    have hk := (ofOperator?_eq_some_kind (valid_operator.1 hp)).1
    cases k <;> first | rfl | cases hk
  | number x => rfl
  | word x =>
    simp only [Grammar.Piece.token]
    split <;> split <;> simp_all [Token.relabel, Token.kindUnder, Token.keyword, Token.identifier]

/-! ### Scans under two sets -/

/-- The scan with `f` applied to each of its tokens. -/
def Scan.mapTokens (f : Token → Token) (sc : Scan) : Scan := ⟨sc.tokens.map f, sc.error⟩

@[simp] theorem Scan.error_mapTokens (f : Token → Token) (sc : Scan) :
    (sc.mapTokens f).error = sc.error := rfl

@[simp] theorem Scan.tokens_mapTokens (f : Token → Token) (sc : Scan) :
    (sc.mapTokens f).tokens = sc.tokens.map f := rfl

theorem Scan.result_mapTokens (f : Token → Token) (sc : Scan) :
    (sc.mapTokens f).result = sc.result.map (·.map f) := by
  obtain ⟨ts, _ | e⟩ := sc <;> rfl

section TwoSets

variable {K₁ K₂ : KeywordSet}

/-- A change to the tokens that commutes with moving them, keeps the end marker, and takes the
token of every valid piece under one set to its token under another, takes the scan under the
first set to the scan under the second. -/
theorem scan_mapTokens {f : Token → Token} (hshift : ∀ t n, f (t.shift n) = (f t).shift n)
    (heof : ∀ n, f (Token.eof n) = Token.eof n)
    (hpiece : ∀ (p : Grammar.Piece) o, p.Valid → f (p.token K₁ o) = p.token K₂ o) (cs : List Char) :
    scan (String.ofList cs) K₂ = (scan (String.ofList cs) K₁).mapTokens f := by
  -- one piece at a time: both scans take the same piece, and differ only in its token
  induction cs using front_induction with
  | blanks cs hb =>
    rw [scan_of_blanks hb, scan_of_blanks hb]
    simp [Scan.mapTokens, heof]
  | piece w p rest hw hp hm ih =>
    rw [scan_of_piece hw hp hm, scan_of_piece hw hp hm, ih]
    simp [Scan.mapTokens, Scan.cons, Scan.shift, hpiece p _ hp, hshift]
  | invalid w ch v hw hb hf =>
    rw [scan_of_invalid hw hb hf, scan_of_invalid hw hb hf]
    rfl

/-- The scan under another set is the same scan with its words labelled by that set. -/
theorem scan_relabel (cs : List Char) (K₁ K₂ : KeywordSet) :
    scan (String.ofList cs) K₂ = (scan (String.ofList cs) K₁).mapTokens (Token.relabel K₂) :=
  scan_mapTokens (Token.relabel_shift K₂) (Token.relabel_eof K₂)
    (fun _ _ hp => Grammar.Piece.token_relabel hp K₁ K₂ _) cs

/-- Two sets that hold the same keyword-shaped texts scan every source alike. -/
theorem scan_congr_keywords
    (h : ∀ w, isKeywordShaped w = true → K₁.contains w = K₂.contains w) (cs : List Char) :
    scan (String.ofList cs) K₁ = scan (String.ofList cs) K₂ := by
  have hpiece : ∀ (p : Grammar.Piece) o, p.Valid → p.token K₂ o = p.token K₁ o := by
    intro p o hp
    cases p with
    | word x =>
      have hx : isKeywordShaped (String.ofList x) = true := by
        rw [isKeywordShaped_iff_isWord, String.toList_ofList]
        exact hp
      simp only [Grammar.Piece.token, h _ hx]
    | _ => rfl
  have := @scan_mapTokens K₂ K₁ id (fun _ _ => rfl) (fun _ => rfl) hpiece cs
  simpa [Scan.mapTokens] using this

/-- The tokens under another set are the tokens under the first, with their words labelled by
the other set. -/
theorem tokenize_relabel (s : String) (K₁ K₂ : KeywordSet) :
    tokenize s K₂ = (tokenize s K₁).map (·.map (Token.relabel K₂)) := by
  obtain ⟨cs, rfl⟩ := exists_eq_ofList s
  rw [tokenize, tokenize, scan_relabel cs K₁ K₂, Scan.result_mapTokens]

/-- The keyword set only labels words. Two sets give the same error; otherwise they give token
lists of one length that agree, position by position, in span and text, and in kind up to
labelling: a word is a keyword under a set exactly when the set holds its text, an identifier
otherwise. So entries of an unchecked set that are not keyword-shaped change nothing. -/
theorem tokenize_keywords_relabel (s : String) (K₁ K₂ : KeywordSet) :
    (∀ e, tokenize s K₁ = .error e ↔ tokenize s K₂ = .error e) ∧
    (∀ ts₁ ts₂, tokenize s K₁ = .ok ts₁ → tokenize s K₂ = .ok ts₂ →
      ts₁.length = ts₂.length ∧ ∀ i (h₁ : i < ts₁.length) (h₂ : i < ts₂.length),
        ts₁[i].span = ts₂[i].span ∧ ts₁[i].text = ts₂[i].text ∧
          ts₁[i].kind = ts₁[i].kindUnder K₁ ∧ ts₂[i].kind = ts₁[i].kindUnder K₂) ∧
    (∀ words : List String, tokenize s (KeywordSet.ofList words) =
      tokenize s (KeywordSet.ofList (words.filter isKeywordShaped))) := by
  have h₂ := tokenize_relabel s K₁ K₂
  have h₁ := tokenize_relabel s K₁ K₁
  refine ⟨fun e => ?_, fun ts₁ ts₂ hs₁ hs₂ => ?_, fun words => ?_⟩
  · constructor
    · intro he
      rw [h₂, he]
      rfl
    · intro he
      rw [tokenize_relabel s K₂ K₁, he]
      rfl
  · rw [hs₁] at h₁ h₂
    rw [hs₂] at h₂
    -- under either set the tokens are those under the first, labelled by that set
    have e₂ : ts₂ = ts₁.map (Token.relabel K₂) := Except.ok.inj h₂
    have e₁ : ts₁ = ts₁.map (Token.relabel K₁) := Except.ok.inj h₁
    subst e₂
    refine ⟨(List.length_map _).symm, fun i hi _ => ?_⟩
    have hi₁ : ts₁[i] = ts₁[i].relabel K₁ := by
      have := congrArg (·[i]?) e₁
      simpa [List.getElem?_eq_getElem hi] using this
    rw [List.getElem_map]
    exact ⟨rfl, rfl, congrArg Token.kind hi₁, rfl⟩
  · obtain ⟨cs, rfl⟩ := exists_eq_ofList s
    rw [tokenize, tokenize, scan_congr_keywords (fun w hw => ?_) cs]
    simp [hw]

/-- `let` is a keyword of the standard set and an identifier under the empty set, at the same
span, and both sets give the end marker after it. -/
theorem let_under_two_sets :
    tokenize "let" KeywordSet.standard = .ok [Token.keyword "let" ⟨0, 3⟩, Token.eof 3] ∧
    tokenize "let" KeywordSet.empty = .ok [Token.identifier "let" ⟨0, 3⟩, Token.eof 3] ∧
    ([Token.keyword "let" ⟨0, 3⟩, Token.eof 3] : List Token).length =
        ([Token.identifier "let" ⟨0, 3⟩, Token.eof 3] : List Token).length ∧
      ∀ i (h₁ : i < 2) (h₂ : i < 2),
        ([Token.keyword "let" ⟨0, 3⟩, Token.eof 3] : List Token)[i].span =
            ([Token.identifier "let" ⟨0, 3⟩, Token.eof 3] : List Token)[i].span ∧
          ([Token.keyword "let" ⟨0, 3⟩, Token.eof 3] : List Token)[i].text =
            ([Token.identifier "let" ⟨0, 3⟩, Token.eof 3] : List Token)[i].text ∧
          ([Token.keyword "let" ⟨0, 3⟩, Token.eof 3] : List Token)[i].kind =
            ([Token.keyword "let" ⟨0, 3⟩, Token.eof 3] : List Token)[i].kindUnder
              KeywordSet.standard ∧
          ([Token.identifier "let" ⟨0, 3⟩, Token.eof 3] : List Token)[i].kind =
            ([Token.keyword "let" ⟨0, 3⟩, Token.eof 3] : List Token)[i].kindUnder
              KeywordSet.empty := by
  have hs : isKeywordShaped "let" = true := by decide
  have h3 : "let".utf8ByteSize = 3 := by decide
  have h₁ : tokenize "let" KeywordSet.standard = .ok [Token.keyword "let" ⟨0, 3⟩, Token.eof 3] := by
    rw [tokenize_keywordShaped hs, h3]
    simp [KeywordSet.standard, defaultKeywords]
  have h₂ : tokenize "let" KeywordSet.empty = .ok [Token.identifier "let" ⟨0, 3⟩, Token.eof 3] := by
    rw [tokenize_keywordShaped hs, h3]
    rfl
  exact ⟨h₁, h₂, (tokenize_keywords_relabel "let" _ _).2.1 _ _ h₁ h₂⟩

end TwoSets

/-! ### The check and the lexer agree -/

section Alone

variable {w : String} {K : KeywordSet}

/-- A text whose tokens are one word, carrying that text, and the end marker is keyword-shaped. -/
theorem isKeywordShaped_of_tokenize {t : Token} {o : Nat} (h : tokenize w K = .ok [t, Token.eof o])
    (hk : t.kind = .identifier ∨ t.kind = .keyword) (ht : t.text = some w) :
    isKeywordShaped w = true := by
  have hs := splits_of_tokenize h
  cases hs with
  | @piece _ _ w' rest p ts hcs hw hp hm hr =>
    rw [isKeywordShaped_iff_isWord]
    cases p with
    | operator k c =>
      -- an operator's kind carries no text, but a word's does
      have := (ofOperator?_eq_some_kind (Grammar.Piece.valid_operator.1 hp)).1
      rcases hk with hk | hk <;> simp [Grammar.Piece.token] at hk <;> simp [hk, TokenKind.hasText] at this
    | number x => rcases hk with hk | hk <;> cases hk
    | word x =>
      have htext := Grammar.Piece.text_token hp K (0 + w'.length) (by
        simp only [Grammar.Piece.token]; split <;> rfl)
      rw [ht, Option.some.injEq] at htext
      rw [htext, String.toList_ofList]
      exact hp

/-- The check on keyword lists and the lexer agree: a text is keyword-shaped exactly when it
lexes alone, under any set, as one identifier or keyword that carries the text and spans it,
then the end marker. So each word of a checked set lexes alone as its keyword. -/
theorem isKeywordShaped_iff_lexes_alone :
    (∀ (w : String) (K : KeywordSet), isKeywordShaped w = true ↔
      ∃ t, tokenize w K = .ok [t, Token.eof w.utf8ByteSize] ∧
        (t.kind = .identifier ∨ t.kind = .keyword) ∧ t.text = some w ∧
          t.span = ⟨0, w.utf8ByteSize⟩) ∧
    (∀ (words : List String) (K : KeywordSet), KeywordSet.ofWords? words = .ok K →
      ∀ w ∈ words, tokenize w K =
        .ok [Token.keyword w ⟨0, w.utf8ByteSize⟩, Token.eof w.utf8ByteSize]) := by
  refine ⟨fun w K => ⟨fun hw => ?_, fun ⟨t, h, hk, ht, _⟩ => isKeywordShaped_of_tokenize h hk ht⟩,
    fun words K h w hw => ?_⟩
  · refine ⟨_, tokenize_keywordShaped hw K, ?_⟩
    split <;> simp [Token.keyword, Token.identifier]
  · obtain ⟨rfl, hs⟩ := ofWords?_eq_ok h
    rw [tokenize_keywordShaped (hs w hw), if_pos (by simpa using hw)]

/-- The checked set of `var` lexes `var` alone as its keyword. -/
theorem checked_var_lexes_as_keyword :
    KeywordSet.ofWords? ["var"] = .ok (KeywordSet.ofList ["var"]) ∧
      tokenize "var" (KeywordSet.ofList ["var"]) =
        .ok [Token.keyword "var" ⟨0, "var".utf8ByteSize⟩, Token.eof "var".utf8ByteSize] := by
  have h : KeywordSet.ofWords? ["var"] = .ok (KeywordSet.ofList ["var"]) := by decide
  exact ⟨h, isKeywordShaped_iff_lexes_alone.2 _ _ h "var" (by simp)⟩

end Alone

end ExprLexer
