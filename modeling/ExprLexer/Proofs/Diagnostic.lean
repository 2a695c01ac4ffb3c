import ExprLexer.Diagnostic
import ExprLexer.Proofs.Tokenize

/-!
# One caret under the offending character

The diagnostic of a lexical error counts characters while the error counts bytes. The two agree
on the errors that lexing reports: everything before the offending character is ASCII, so its
byte offset is the number of characters before it, and the error covers that one character
whole, so its bytes slice back to it (`Utf8.slice?_char`, from the boundary at the end of any
encoded prefix, `Utf8.isBoundary_of_flatMap`). The padding is then the start offset
(`LexError.padding_of_split`) and there is one caret (`LexError.caretCount_of_split`).

The shown line has one character per source character, each control character turned into a
blank or U+FFFD, and the message quotes its character with every line break escaped, so a
diagnostic is always three lines under its message (`LexError.count_newline_render`).

Main statement: `LexError.render_points_at_char`.
-/

namespace ExprLexer

open Utf8

/-! ### A whole character between two boundaries -/

namespace Utf8

/-- After an ASCII prefix, the bytes of the next character slice back to that character. -/
theorem slice?_char {bs : Array UInt8} {pre rest : List Char} {c : Char}
    (h : bs.toList = (pre ++ c :: rest).flatMap String.utf8EncodeChar) (ha : IsAscii pre) :
    slice? bs pre.length (pre.length + c.utf8Size) = some (String.singleton c) := by
  have hlen : (pre.flatMap String.utf8EncodeChar).length = pre.length := length_flatMap_of_ascii ha
  have hb₁ : isBoundary bs pre.length = true := hlen ▸ isBoundary_of_flatMap h
  have hb₂ : isBoundary bs (pre.length + c.utf8Size) = true := by
    have := @isBoundary_of_flatMap bs (pre ++ [c]) rest (by simpa using h)
    simpa [hlen, String.length_utf8EncodeChar] using this
  have hext : (bs.extract pre.length (pre.length + c.utf8Size)).toList = String.utf8EncodeChar c := by
    rw [Array.toList_extract, List.extract_eq_take_drop, h, List.flatMap_append, List.flatMap_cons,
      List.drop_left' hlen, Nat.add_sub_cancel_left, List.take_left' (String.length_utf8EncodeChar c)]
  have hdec : decode (String.utf8EncodeChar c) = some [c] := by
    simpa using decode_flatMap_utf8EncodeChar [c]
  unfold slice?
  rw [if_pos (by simp [hb₁, hb₂]), hext, hdec, Option.map_some, String.singleton_eq_ofList]

end Utf8

/-! ### Padding and carets -/

namespace LexError

variable {s : String} {e : LexError} {u v : List Char} {c : Char}

/-- An error after an ASCII prefix is padded by the characters of the prefix. -/
theorem padding_of_split (hs : s.toList = u ++ c :: v) (ha : IsAscii u)
    (he : e.span.start = u.length) : e.padding s = u.length := by
  unfold padding
  rw [he, slice?_of_ascii (by rw [toList_bytes, hs]) ha (Nat.zero_le _)]
  simp

/-- An error that covers one whole character after an ASCII prefix has one caret. -/
theorem caretCount_of_split (hs : s.toList = u ++ c :: v) (ha : IsAscii u)
    (he : e.span = ⟨u.length, u.length + c.utf8Size⟩) : e.caretCount s = 1 := by
  unfold caretCount
  rw [he, slice?_char (by rw [toList_bytes, hs]) ha]
  simp

end LexError

/-! ### Line breaks -/

/-- A shown character is never a line break: a line feed is a control character. -/
theorem displayChar_ne_newline (c : Char) : displayChar c ≠ '\n' := by
  unfold displayChar
  split
  · decide
  · split
    · decide
    · rename_i hc
      rintro rfl
      exact hc (by decide)

theorem digitChar_of_mem_toDigits {b : Nat} (hb : 1 < b) (n : Nat) :
    ∀ d ∈ Nat.toDigits b n, ∃ k, d = Nat.digitChar k := by
  induction n using Nat.strong_induction_on with
  | _ n ih =>
    rw [Nat.toDigits_eq_if hb]
    split
    · simp
    · rename_i hn
      intro d hd
      rcases List.mem_append.1 hd with hd | hd
      · exact ih _ (Nat.div_lt_self (by omega) hb) d hd
      · exact ⟨_, List.mem_singleton.1 hd⟩

theorem newline_not_mem_toDigits {b : Nat} (hb : 1 < b) (n : Nat) : '\n' ∉ Nat.toDigits b n := by
  intro h
  obtain ⟨k, hk⟩ := digitChar_of_mem_toDigits hb n _ h
  exact Nat.digitChar_ne '\n' (by decide) hk.symm

/-- A quoted character holds no line break: a line feed is written `\n`. -/
theorem newline_not_mem_escape (c : Char) : '\n' ∉ Text.escape '\'' c := by
  unfold Text.escape
  split_ifs with h₀ h₁ h₂ h₃ h₄ h₅ h₆
  · decide
  · decide
  · decide
  · decide
  · decide
  · subst h₅; decide
  · simpa [Text.hexDigits] using newline_not_mem_toDigits (by decide) c.toNat
  · simpa using Ne.symm h₃

theorem LexError.newline_not_mem_message (e : LexError) : '\n' ∉ e.message.toList := by
  obtain ⟨c, sp⟩ := e
  have hq : '\n' ∉ (Text.quoteChar c).toList := by
    simpa [Text.quoteChar] using newline_not_mem_escape c
  have hn : '\n' ∉ (toString sp.column).toList := by
    show '\n' ∉ (Nat.repr sp.column).toList
    rw [Nat.repr, String.toList_ofList]
    exact newline_not_mem_toDigits (by decide) sp.column
  -- unfolding the message inside `simp` makes it reduce the literals; unfold it first
  unfold LexError.message
  rw [String.toList_append, String.toList_append, String.toList_append]
  simp only [List.mem_append, not_or]
  exact ⟨⟨⟨by simp, hq⟩, by simp⟩, hn⟩

/-- Every diagnostic is its message and three lines under it. -/
theorem LexError.count_newline_render (s : String) (e : LexError) :
    (e.render s).toList.count '\n' = 3 := by
  have hm := List.count_eq_zero.2 e.newline_not_mem_message
  have hl : (s.toList.map displayChar).count '\n' = 0 :=
    List.count_eq_zero.2 (by simp [displayChar_ne_newline])
  have hs : (' ' == '\n') = false := by decide
  have hc : ('^' == '\n') = false := by decide
  simp only [LexError.render, repeatChar, String.toList_append, String.toList_ofList,
    List.count_append, hm, hl, List.count_replicate, hs, hc, Bool.false_eq_true, if_false]
  decide

/-! ### The caret under the error -/

/-- The diagnostic of an error that lexing reports puts one caret under the offending character.
It is the message, a gutter, the source shown one column per character (a tab as a blank, any
other control character as U+FFFD), and then as many blanks as there are characters before the
offending one, which is the error's start offset, and one caret. The shown line has as many
characters as the source, and at that offset it shows the offending character; the whole
diagnostic has three line breaks, and it is written out whenever the source fits in a text. -/
theorem LexError.render_points_at_char (s : String) (K : KeywordSet) (e : LexError)
    (h : tokenize s K = .error e) :
    e.render s = "error: " ++ e.message ++ "\n  |\n  | " ++ String.ofList (s.toList.map displayChar) ++
        "\n  | " ++ repeatChar e.span.start ' ' ++ "^" ∧
      (∃ u v, s = u ++ String.singleton e.ch ++ v ∧ u.length = e.span.start) ∧
      (String.ofList (s.toList.map displayChar)).length = s.length ∧
      (String.ofList (s.toList.map displayChar)).toList[e.span.start]? = some (displayChar e.ch) ∧
      (e.render s).toList.count '\n' = 3 ∧
      (s.utf8ByteSize ≤ maxTextSize → e.render? s = some (e.render s)) := by
  obtain ⟨ch, sp⟩ := e
  obtain ⟨u, v, rfl, hsize, hlen, ha, -, -, hstop, hle, -⟩ := tokenize_error_spec h
  have hs : (u ++ String.singleton ch ++ v).toList = u.toList ++ ch :: v.toList := by simp
  have hpad : (LexError.invalidCharacter ch sp).padding (u ++ String.singleton ch ++ v) = sp.start :=
    (padding_of_split hs ha (by rw [String.length_toList, hlen]; rfl)).trans
      (by rw [String.length_toList, hlen])
  have hcar : (LexError.invalidCharacter ch sp).caretCount (u ++ String.singleton ch ++ v) = 1 :=
    caretCount_of_split hs ha (by simp only [span]; rw [String.length_toList, hlen, ← hstop])
  refine ⟨?_, ⟨u, v, rfl, hlen⟩, by rw [String.length_ofList, List.length_map, String.length_toList],
    ?_, count_newline_render _ _, fun hmax => ?_⟩
  · simp only [render, hpad, hcar, span]
    rfl
  · simp [span, LexError.ch, ← hlen, String.length_toList]
  · -- the padding is at most the start offset, which lies within the source
    rw [render?, if_pos (by rw [hpad]; omega)]

/-- A tab, then `#`: the shown line turns the tab into a blank, and the caret stands one column
in, under the `#`. -/
theorem render_tab_then_hash :
    tokenize "\t#" KeywordSet.standard = .error (.invalidCharacter '#' ⟨1, 2⟩) ∧
      (LexError.invalidCharacter '#' ⟨1, 2⟩).render "\t#" =
        "error: " ++ (LexError.invalidCharacter '#' ⟨1, 2⟩).message ++ "\n  |\n  | " ++ " #" ++
          "\n  | " ++ " " ++ "^" := by
  have h : tokenize "\t#" KeywordSet.standard = .error (.invalidCharacter '#' ⟨1, 2⟩) := by
    have := scan_of_invalid (w := ['\t']) (v := []) (by simp [isBlank])
      (show isBlank '#' = false by decide) (show Grammar.Piece.front? ['#'] = none by decide)
      KeywordSet.standard
    rw [tokenize, show "\t#" = String.ofList (['\t'] ++ ['#']) from rfl, this]
    rfl
  have hl : String.ofList ("\t#".toList.map displayChar) = " #" := by decide
  have hp : repeatChar 1 ' ' = " " := by decide
  refine ⟨h, ?_⟩
  rw [(LexError.render_points_at_char _ _ _ h).1, hl]
  simp only [LexError.span, hp]

end ExprLexer
