import ExprLexer.Proofs.Calls

/-!
# The sub-scans from any reachable lexer

The number scan and the word scan can be called directly, from wherever the calls before them
left the lexer. Cut the source at the cursor into `u ++ v`: the number scan moves the cursor over
the longest prefix of `v` made of digits and at most one point, the word scan over the longest
run of letters, digits and underscores, and each gives as its text the bytes of the source from
the token start to where it stops. Both read the character at the cursor, which is NUL at the end
and the decoded character (or U+FFFD) on a byte that is not ASCII: neither is ever taken for a
digit, a point, a letter or an underscore.

Main statement: `Lexer.subscans_take_longest_prefix`.
-/

namespace ExprLexer

open Utf8 Grammar Cursor

namespace Grammar

/-- A number run holds at most one point. -/
theorem IsNumberRun.count_dot_le {x : List Char} (h : IsNumberRun x) : x.count '.' ≤ 1 := by
  obtain ⟨d, f, rfl, hd, hf⟩ := h
  -- digits are no points, so every point of the run is in its fraction
  have hd' : d.count '.' = 0 :=
    List.count_eq_zero.2 fun hm => absurd (hd '.' hm) (by decide)
  rcases hf with rfl | ⟨e, rfl, he⟩
  · simp [hd']
  · have he' : e.count '.' = 0 :=
      List.count_eq_zero.2 fun hm => absurd (he '.' hm) (by decide)
    simp [hd', he']

/-- Before a character that begins no match, the longest match is empty. -/
theorem LongestPrefix.eq_nil_of_head {P : List Char → Prop} {m cs : List Char}
    (hm : LongestPrefix P m cs) (hc : ∀ c ∈ cs.head?, ∀ x, ¬ P (c :: x)) : m = [] := by
  obtain ⟨⟨t, rfl⟩, hp, -⟩ := hm
  cases m with
  | nil => rfl
  | cons c x => exact absurd hp (hc c (by simp) x)

/-- Before a character that is neither a digit nor a point, the longest number run is empty. -/
theorem LongestPrefix.numberRun_eq_nil {m cs : List Char} (hm : LongestPrefix IsNumberRun m cs)
    (hc : ∀ c ∈ cs.head?, c.isDigit = false ∧ c ≠ '.') : m = [] := by
  refine hm.eq_nil_of_head fun c hmem x hx => ?_
  obtain ⟨hd, hdot⟩ := hc c hmem
  rcases isNumberRun_cons.1 hx with ⟨hd', -⟩ | ⟨hdot', -⟩
  · simp [hd] at hd'
  · exact hdot hdot'

end Grammar

/-- The bytes of the characters of an ASCII prefix of a text, from offset `i` on, are the bytes
of the text from `i` to the end of the prefix. -/
theorem bytes_drop_of_ascii {s : String} {a r : List Char} (hs : a ++ r = s.toList)
    (ha : IsAscii a) {i : Nat} (hi : i ≤ a.length) :
    Utf8.bytes (String.ofList (a.drop i)) = (Utf8.bytes s).extract i a.length := by
  have hb : (Utf8.bytes s).toList = (a ++ r).flatMap String.utf8EncodeChar := by
    rw [hs, toList_bytes]
  apply Array.toList_inj.1
  rw [bytes_ofList, toList_extract_of_ascii hb ha hi]

/-- Behind a cursor that reads an ASCII part of the source, the text from an earlier offset is
the source's bytes from that offset to the cursor. -/
theorem Cursor.Reads.bytes_sliceFrom {c : Cursor} {s : String} {pre rest : List Char}
    (h : c.Reads pre rest) (hs : pre ++ rest = s.toList) {start : Nat}
    (hst : start ≤ pre.length) :
    Utf8.bytes (c.sliceFrom start) = (Utf8.bytes s).extract start c.pos := by
  rw [h.sliceFrom_eq hst, h.pos_eq]
  exact bytes_drop_of_ascii hs h.ascii hst

namespace Lexer

variable {s : String} {K : KeywordSet} {lx : Lexer} {pre rest : List Char}

/-- The number scan's token is read off the lexer it leaves. -/
theorem lexNumber_fst_eq (lx : Lexer) :
    lx.lexNumber.1 = Token.number lx.lexNumber.2.tokenText lx.lexNumber.2.tokenSpan := rfl

/-- From a cursor after an ASCII part of the source, the number scan goes over the longest number
run of the rest, and its token has the source's bytes from the token start to where it stops. -/
theorem lexNumber_longest (hr : lx.cursor.Reads pre rest) (hs : pre ++ rest = s.toList)
    (ht : lx.tokenStart ≤ pre.length) :
    ∃ m, LongestPrefix IsNumberRun m rest ∧ lx.lexNumber.2.position = pre.length + m.length ∧
      ∃ text, Utf8.bytes text = (Utf8.bytes s).extract lx.tokenStart (pre.length + m.length) ∧
        lx.lexNumber.1 = Token.number text ⟨lx.tokenStart, pre.length + m.length⟩ := by
  have hn := hr.eatNumber false
  have hs' : (pre ++ numberPrefix false rest) ++ rest.drop (numberPrefix false rest).length =
      s.toList := by
    rw [List.append_assoc, numberPrefix_append_drop, hs]
  have hpos : lx.lexNumber.2.cursor.pos = pre.length + (numberPrefix false rest).length := by
    rw [lexNumber_snd, hn.pos_eq, List.length_append]
  have hst : lx.tokenStart ≤ (pre ++ numberPrefix false rest).length := by
    rw [List.length_append]; omega
  refine ⟨numberPrefix false rest, longestPrefix_numberPrefix rest, hpos,
    lx.lexNumber.2.tokenText, ?_, ?_⟩
  · rw [tokenText, ← hpos, lexNumber_snd]
    exact hn.bytes_sliceFrom hs' hst
  · rw [lexNumber_fst_eq, tokenSpan, hpos]
    rfl

/-- From a cursor after an ASCII part of the source, the word scan goes over the longest word run
of the rest, and its token has the source's bytes from the token start to where it stops: a
keyword when the set holds them, an identifier otherwise. -/
theorem lexIdentifier_longest (hr : lx.cursor.Reads pre rest) (hs : pre ++ rest = s.toList)
    (ht : lx.tokenStart ≤ pre.length) :
    ∃ m, LongestPrefix IsWordRun m rest ∧
      lx.lexIdentifier.2.position = pre.length + m.length ∧
      ∃ text, Utf8.bytes text = (Utf8.bytes s).extract lx.tokenStart (pre.length + m.length) ∧
        lx.lexIdentifier.1 =
          if lx.keywords.contains text then
            Token.keyword text ⟨lx.tokenStart, pre.length + m.length⟩
          else Token.identifier text ⟨lx.tokenStart, pre.length + m.length⟩ := by
  have hn := hr.eatWhile (fun _ => toNat_lt_of_isIdentContinue) (p := isIdentContinue)
  have hs' : (pre ++ rest.takeWhile isIdentContinue) ++ rest.dropWhile isIdentContinue =
      s.toList := by
    rw [List.append_assoc, List.takeWhile_append_dropWhile, hs]
  have hpos :
      lx.lexIdentifier.2.cursor.pos = pre.length + (rest.takeWhile isIdentContinue).length := by
    rw [lexIdentifier_snd, hn.pos_eq, List.length_append]
  have hst : lx.tokenStart ≤ (pre ++ rest.takeWhile isIdentContinue).length := by
    rw [List.length_append]; omega
  refine ⟨rest.takeWhile isIdentContinue, longestPrefix_takeWhile_isIdentContinue rest, hpos,
    lx.lexIdentifier.2.tokenText, ?_, ?_⟩
  · rw [tokenText, ← hpos, lexIdentifier_snd]
    exact hn.bytes_sliceFrom hs' hst
  · rw [lexIdentifier_fst_eq, tokenSpan, hpos]
    rfl

/-- From every lexer that calls reach over `s`, cut the source at the cursor into `u ++ v`: the
number scan moves the cursor over the longest prefix of `v` of digits with at most one point (so
over nothing before a character that is neither), the word scan over the longest prefix of
letters, digits and underscores; each gives the text whose bytes are those of the source from the
token start to the new cursor, over that span, and the word scan gives a keyword exactly when the
lexer's set holds that text. -/
theorem subscans_take_longest_prefix (h : Reachable s K lx) :
    ∃ u v, s = u ++ v ∧ u.utf8ByteSize = lx.position ∧
      (∃ m, LongestPrefix IsNumberRun m v.toList ∧ m.count '.' ≤ 1 ∧
        ((∀ c ∈ v.toList.head?, c.isDigit = false ∧ c ≠ '.') → m = []) ∧
        lx.lexNumber.2.position = lx.position + m.length ∧
        ∃ text,
          Utf8.bytes text = (Utf8.bytes s).extract lx.tokenStart (lx.position + m.length) ∧
          lx.lexNumber.1 = Token.number text ⟨lx.tokenStart, lx.position + m.length⟩) ∧
      (∃ m, LongestPrefix IsWordRun m v.toList ∧
        lx.lexIdentifier.2.position = lx.position + m.length ∧
        ∃ text,
          Utf8.bytes text = (Utf8.bytes s).extract lx.tokenStart (lx.position + m.length) ∧
          lx.lexIdentifier.1 =
            if K.contains text then Token.keyword text ⟨lx.tokenStart, lx.position + m.length⟩
            else Token.identifier text ⟨lx.tokenStart, lx.position + m.length⟩) := by
  obtain ⟨hk, ⟨pre, rest, hr, hs⟩, ht⟩ := h.sound
  have hts : lx.tokenStart ≤ pre.length := hr.pos_eq ▸ ht
  have hpos : lx.position = pre.length := hr.pos_eq
  refine ⟨String.ofList pre, String.ofList rest, ?_, ?_, ?_, ?_⟩
  · rw [← String.ofList_append, hs, String.ofList_toList]
  · rw [utf8ByteSize_ofList_of_ascii hr.ascii, hpos]
  · obtain ⟨m, hm, hp, text, hb, htok⟩ := lexNumber_longest hr hs hts
    rw [String.toList_ofList, hpos]
    exact ⟨m, hm, hm.2.1.count_dot_le, hm.numberRun_eq_nil, hp, text, hb, htok⟩
  · obtain ⟨m, hm, hp, text, hb, htok⟩ := lexIdentifier_longest hr hs hts
    rw [String.toList_ofList, hpos, ← hk]
    exact ⟨m, hm, hp, text, hb, htok⟩

/-- After the first token of `ab 1.2.3`, the number scan goes over the longest number run after
the cursor. -/
theorem number_scan_after_word :
    let lx := ((Lexer.ofString "ab 1.2.3" KeywordSet.standard).call .nextToken).2
    Reachable "ab 1.2.3" KeywordSet.standard lx ∧
      ∃ u v m, "ab 1.2.3" = u ++ v ∧ u.utf8ByteSize = lx.position ∧
        LongestPrefix IsNumberRun m v.toList ∧ lx.lexNumber.2.position = lx.position + m.length := by
  intro lx
  have h : Reachable "ab 1.2.3" KeywordSet.standard lx := .call .start .nextToken
  obtain ⟨u, v, hs, hu, ⟨m, hm, -, -, hp, -⟩, -⟩ := subscans_take_longest_prefix h
  exact ⟨h, u, v, m, hs, hu, hm, hp⟩

end Lexer

end ExprLexer
