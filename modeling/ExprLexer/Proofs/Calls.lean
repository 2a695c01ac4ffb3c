import ExprLexer.Lexer.Step
import ExprLexer.Proofs.Tokenize

/-!
# Every call keeps the lexer sound

Whatever calls a user makes on a lexer over `source`, in whatever order, the lexer stays `Sound`:
its cursor stands just after an ASCII part of the source, and the token start is no later than
the cursor. Sub-scans called off a digit or a letter, or after the end marker or an error, keep
it too. So the cursor is always on a character boundary and the token text is the text of the
token span (`Sound.snippet_tokenSpan`).

Read against the lexer after the call, every answer fits the source (`Reply.Fits`): a token
spans the token start to the cursor, inside the source, carries the text of its span and, for
the end marker, stands at the end; an error names the character that begins at the cursor and
covers its bytes. The cursor never moves back (`position_le_call`).
-/

namespace ExprLexer

open Utf8 Grammar Cursor

/-- What a token answered by a call says, read against the lexer after the call: it spans the
token start to the cursor, inside the source; a token with text has the text of its span; the
end marker stands at the end of the source. -/
structure TokenFits (source : String) (lx : Lexer) (t : Token) : Prop where
  span_eq : t.span = lx.tokenSpan
  start_le_stop : t.span.start ≤ t.span.stop
  stop_le : t.span.stop ≤ source.utf8ByteSize
  text_eq : t.kind.hasText = true → t.text = t.span.snippet? source
  eof_span : t.kind = .eof → t.span = Span.point source.utf8ByteSize

/-- What an error answered by a call says: it starts at the cursor, where the character it names
begins in the source, and covers that character's bytes. -/
structure ErrorFits (source : String) (lx : Lexer) (ch : Char) (sp : Span) : Prop where
  start_eq : sp.start = lx.position
  char_at : ∃ u v, source = u ++ String.singleton ch ++ v ∧ u.utf8ByteSize = sp.start
  stop_eq : sp.stop = sp.start + ch.utf8Size
  stop_le : sp.stop ≤ source.utf8ByteSize

/-- An answer fits the source, read against the lexer after the call. -/
def Lexer.Reply.Fits (source : String) (lx : Lexer) : Lexer.Reply → Prop
  | .result (.ok t) => TokenFits source lx t
  | .result (.error (.invalidCharacter ch sp)) => ErrorFits source lx ch sp
  | .exhausted => True
  | .quiet => True

namespace Lexer

/-! ### Calls, one at a time -/

@[simp] theorem call_nextToken (lx : Lexer) :
    lx.call .nextToken = (.result lx.nextToken.1, lx.nextToken.2) := rfl

@[simp] theorem call_lexNumber (lx : Lexer) :
    lx.call .lexNumber = (.result (.ok lx.lexNumber.1), lx.lexNumber.2) := rfl

@[simp] theorem call_lexIdentifier (lx : Lexer) :
    lx.call .lexIdentifier = (.result (.ok lx.lexIdentifier.1), lx.lexIdentifier.2) := rfl

@[simp] theorem call_position (lx : Lexer) : lx.call .position = (.quiet, lx) := rfl

theorem call_next_of_finished {lx : Lexer} (h : lx.finished = true) :
    lx.call .next = (.exhausted, lx) := by
  simp [call, next, h]

theorem call_next_of_active {lx : Lexer} (h : lx.finished = false) :
    lx.call .next =
      (.result lx.nextToken.1, { lx.nextToken.2 with finished := ends lx.nextToken.1 }) := by
  simp [call, next, h]

/-- No call moves the cursor back. -/
theorem position_le_call (lx : Lexer) (c : Call) : lx.position ≤ (lx.call c).2.position := by
  cases c with
  | nextToken => exact pos_le_nextToken lx
  | next =>
    cases hf : lx.finished
    · rw [call_next_of_active hf]
      exact pos_le_nextToken lx
    · simp [call_next_of_finished hf]
  | lexNumber => exact Cursor.pos_le_eatNumber lx.cursor false
  | lexIdentifier => exact Cursor.pos_le_eatWhile isIdentContinue lx.cursor
  | position => exact Nat.le_refl _

/-! ### The invariant -/

/-- What every lexer over `source` keeps: the keyword set it began with, a cursor just after an
ASCII part of the source, and the token start no later than the cursor. -/
structure Sound (source : String) (K : KeywordSet) (lx : Lexer) : Prop where
  keywords_eq : lx.keywords = K
  reads : ∃ pre rest, lx.cursor.Reads pre rest ∧ pre ++ rest = source.toList
  tokenStart_le : lx.tokenStart ≤ lx.cursor.pos

variable {s : String} {K : KeywordSet} {lx : Lexer}

theorem sound_ofString (s : String) (K : KeywordSet) : Sound s K (Lexer.ofString s K) :=
  ⟨rfl, ⟨[], s.toList, Cursor.reads_ofString s, rfl⟩, Nat.zero_le _⟩

namespace Sound

theorem of_reads {pre rest : List Char} (hk : lx.keywords = K) (hr : lx.cursor.Reads pre rest)
    (hs : pre ++ rest = s.toList) (ht : lx.tokenStart ≤ pre.length) : Sound s K lx :=
  ⟨hk, ⟨pre, rest, hr, hs⟩, hr.pos_eq ▸ ht⟩

theorem bytes_eq (h : Sound s K lx) : lx.cursor.bytes = bytes s := by
  obtain ⟨pre, rest, hr, hs⟩ := h.reads
  rw [hr.bytes_eq, hs, String.ofList_toList]

theorem position_le (h : Sound s K lx) : lx.position ≤ s.utf8ByteSize := by
  rw [utf8ByteSize_eq_size_bytes, ← h.bytes_eq]
  exact lx.cursor.pos_le

/-- The source up to the cursor is ASCII. -/
theorem exists_ascii_prefix (h : Sound s K lx) :
    ∃ u v, s = u ++ v ∧ u.utf8ByteSize = lx.position ∧ IsAscii u.toList := by
  obtain ⟨pre, rest, hr, hs⟩ := h.reads
  refine ⟨String.ofList pre, String.ofList rest, ?_, ?_, by rw [String.toList_ofList]; exact hr.ascii⟩
  · rw [← String.ofList_append, hs, String.ofList_toList]
  · rw [utf8ByteSize_ofList_of_ascii hr.ascii, position, hr.pos_eq]

/-- The token text is the text of the token span, never the fallback of an ill-placed slice. -/
theorem snippet_tokenSpan (h : Sound s K lx) : lx.tokenSpan.snippet? s = some lx.tokenText := by
  obtain ⟨pre, rest, hr, -⟩ := h.reads
  have hle : lx.tokenStart ≤ pre.length := hr.pos_eq ▸ h.tokenStart_le
  simp only [Span.snippet?, tokenSpan, tokenText]
  rw [← h.bytes_eq, hr.sliceFrom_eq hle]
  exact hr.slice?_eq hle

/-- Whether the iteration is over plays no part in soundness. -/
theorem with_finished (h : Sound s K lx) (b : Bool) : Sound s K { lx with finished := b } :=
  ⟨h.keywords_eq, h.reads, h.tokenStart_le⟩

theorem nextToken (h : Sound s K lx) : Sound s K lx.nextToken.2 := by
  obtain ⟨pre, cs, hr, hs⟩ := h.reads
  have hk : lx.nextToken.2.keywords = K := (keywords_nextToken lx).trans h.keywords_eq
  rcases nextToken_cases hr with ⟨-, -, h', ht⟩ | ⟨w, p, rest, rfl, -, -, -, -, h', ht⟩ |
    ⟨w, ch, v, rfl, -, -, -, -, h', ht⟩
  · exact of_reads hk h' (by rw [List.append_nil, hs]) (by simp [ht])
  · exact of_reads hk h' (by simp [← hs]) (by simp [ht])
  · exact of_reads hk h' (by simp [← hs]) (by simp [ht])

theorem lexNumber (h : Sound s K lx) : Sound s K lx.lexNumber.2 := by
  obtain ⟨pre, cs, hr, hs⟩ := h.reads
  rw [lexNumber_snd]
  refine of_reads h.keywords_eq (hr.eatNumber false) ?_ ?_
  · rw [List.append_assoc, numberPrefix_append_drop, hs]
  · have := hr.pos_eq ▸ h.tokenStart_le
    simp only [List.length_append]
    omega

theorem lexIdentifier (h : Sound s K lx) : Sound s K lx.lexIdentifier.2 := by
  obtain ⟨pre, cs, hr, hs⟩ := h.reads
  rw [lexIdentifier_snd]
  refine of_reads h.keywords_eq (hr.eatWhile (fun _ => toNat_lt_of_isIdentContinue)) ?_ ?_
  · rw [List.append_assoc, List.takeWhile_append_dropWhile, hs]
  · have := hr.pos_eq ▸ h.tokenStart_le
    simp only [List.length_append]
    omega

/-- Every call keeps the lexer sound. -/
theorem call (h : Sound s K lx) (c : Call) : Sound s K (lx.call c).2 := by
  cases c with
  | nextToken => exact h.nextToken
  | next =>
    cases hf : lx.finished
    · rw [call_next_of_active hf]
      exact h.nextToken.with_finished _
    · rw [call_next_of_finished hf]
      exact h
  | lexNumber => exact h.lexNumber
  | lexIdentifier => exact h.lexIdentifier
  | position => exact h

end Sound

/-- Every lexer that calls reach from the start of a source is sound. -/
theorem Reachable.sound (h : Reachable s K lx) : Sound s K lx := by
  induction h with
  | start => exact sound_ofString s K
  | call _ c ih => exact ih.call c

/-! ### What the answers say -/

/-- The word scan's token is read off the lexer it leaves. -/
theorem lexIdentifier_fst_eq (lx : Lexer) :
    lx.lexIdentifier.1 =
      if lx.keywords.contains lx.lexIdentifier.2.tokenText then
        Token.keyword lx.lexIdentifier.2.tokenText lx.lexIdentifier.2.tokenSpan
      else Token.identifier lx.lexIdentifier.2.tokenText lx.lexIdentifier.2.tokenSpan := rfl

/-- Whether the iteration is over plays no part in what an answer says. -/
theorem Reply.Fits.with_finished {r : Reply} (h : r.Fits s lx) (b : Bool) :
    r.Fits s { lx with finished := b } := by
  rcases r with ((⟨ch, sp⟩ | t) | _ | _)
  · exact ⟨h.1, h.2, h.3, h.4⟩
  · exact ⟨h.1, h.2, h.3, h.4, h.5⟩
  · trivial
  · trivial

namespace Sound

/-- A token fits when it spans the token span, carries the token text if it carries any, and is
the end marker only at the end, with the token start at the cursor. -/
theorem tokenFits (h : Sound s K lx) {t : Token} (hspan : t.span = lx.tokenSpan)
    (htext : t.kind.hasText = true → t.text = some lx.tokenText)
    (heof : t.kind = .eof → lx.cursor.atEnd = true ∧ lx.tokenStart = lx.cursor.pos) :
    TokenFits s lx t where
  span_eq := hspan
  start_le_stop := by rw [hspan]; exact h.tokenStart_le
  stop_le := by rw [hspan]; exact h.position_le
  text_eq hk := by rw [htext hk, hspan, h.snippet_tokenSpan]
  eof_span hk := by
    obtain ⟨hend, hts⟩ := heof hk
    -- at the end the cursor stands at the size of the source
    have hpos : lx.cursor.pos = s.utf8ByteSize := by
      have := lx.cursor.pos_le
      simp only [Cursor.atEnd, decide_eq_true_eq] at hend
      rw [utf8ByteSize_eq_size_bytes, ← h.bytes_eq]
      omega
    rw [hspan, tokenSpan, hts, hpos]
    rfl

theorem fits_lexNumber (h : Sound s K lx) :
    Reply.Fits s lx.lexNumber.2 (.result (.ok lx.lexNumber.1)) :=
  h.lexNumber.tokenFits rfl (fun _ => rfl) (fun hk => by cases hk)

theorem fits_lexIdentifier (h : Sound s K lx) :
    Reply.Fits s lx.lexIdentifier.2 (.result (.ok lx.lexIdentifier.1)) := by
  show TokenFits s lx.lexIdentifier.2 lx.lexIdentifier.1
  rw [lexIdentifier_fst_eq]
  split <;> exact h.lexIdentifier.tokenFits rfl (fun _ => rfl) (fun hk => by cases hk)

theorem fits_nextToken (h : Sound s K lx) : Reply.Fits s lx.nextToken.2 (.result lx.nextToken.1) := by
  have h' := h.nextToken
  obtain ⟨pre, cs, hr, hs⟩ := h.reads
  rcases nextToken_cases hr with ⟨-, hres, hr', ht⟩ | ⟨w, p, rest, rfl, -, hp, -, hres, hr', ht⟩ |
    ⟨w, ch, v, rfl, -, -, -, hres, hr', ht⟩
  · -- blanks to the end: the end marker at the cursor
    rw [hres]
    refine h'.tokenFits ?_ (fun hk => by cases hk) fun _ => ⟨hr'.atEnd_iff.2 rfl, ?_⟩
    · simp [tokenSpan, Token.eof, Span.point, ht, hr'.pos_eq]
    · rw [ht, hr'.pos_eq, List.length_append]
  · -- a piece: its token spans its characters, which are the token text
    rw [hres]
    refine h'.tokenFits ?_ (fun hk => ?_) (fun hk => ?_)
    · rw [Grammar.Piece.span_token, tokenSpan, ht, hr'.pos_eq]
      simp [Nat.add_assoc]
    · rw [Grammar.Piece.text_token hp _ _ hk, tokenText, hr'.sliceFrom_eq (by simp [ht]), ht]
      simp
    · have := Grammar.Piece.token_isEof hp lx.keywords (pre.length + w.length)
      simp [Token.isEof, hk] at this
  · -- an invalid character: the error at the cursor, over that character's bytes
    have hs' : s = String.ofList (pre ++ w) ++ String.singleton ch ++ String.ofList v := by
      rw [← ofList_append_cons, List.append_assoc, hs, String.ofList_toList]
    have hu := utf8ByteSize_ofList_of_ascii hr'.ascii
    rw [hres]
    show ErrorFits s _ ch _
    refine ⟨by simp [position, hr'.pos_eq], ⟨_, _, hs', by rw [hu, List.length_append]⟩, rfl, ?_⟩
    rw [hs', String.utf8ByteSize_append, String.utf8ByteSize_append, String.utf8ByteSize_singleton, hu]
    simp only [List.length_append]
    omega

/-- Every answer fits the source. -/
theorem fits_call (h : Sound s K lx) (c : Call) : (lx.call c).1.Fits s (lx.call c).2 := by
  cases c with
  | nextToken => exact h.fits_nextToken
  | next =>
    cases hf : lx.finished
    · rw [call_next_of_active hf]
      exact h.fits_nextToken.with_finished _
    · rw [call_next_of_finished hf]
      trivial
  | lexNumber => exact h.fits_lexNumber
  | lexIdentifier => exact h.fits_lexIdentifier
  | position => trivial

/-- The word scan gives a keyword exactly when the set holds its text. -/
theorem lexIdentifier_keyword_iff (h : Sound s K lx) :
    lx.lexIdentifier.1.kind = .keyword ↔ ∃ x, lx.lexIdentifier.1.text = some x ∧ K.contains x = true := by
  rw [lexIdentifier_fst_eq, ← h.keywords_eq]
  split
  · exact ⟨fun _ => ⟨_, rfl, ‹_›⟩, fun _ => rfl⟩
  · simp only [Token.identifier, Option.some.injEq, exists_eq_left', reduceCtorEq, false_iff]
    assumption

end Sound

/-- Over every run of calls from the start of a source: the token start stays at or before the
cursor, the cursor inside the source and after an ASCII part of it, and the token text is the
text of the token span; no call moves the cursor back, every answer fits the source, and the
word scan gives a keyword exactly when the set holds its text. -/
theorem reachable_calls_fit (h : Reachable s K lx) :
    lx.tokenStart ≤ lx.position ∧ lx.position ≤ s.utf8ByteSize ∧
      (∃ u v, s = u ++ v ∧ u.utf8ByteSize = lx.position ∧ IsAscii u.toList) ∧
      lx.tokenSpan.snippet? s = some lx.tokenText ∧
      (∀ c, lx.position ≤ (lx.call c).2.position ∧ (lx.call c).1.Fits s (lx.call c).2) ∧
      ∀ t, (lx.call .lexIdentifier).1 = .result (.ok t) →
        (t.kind = .keyword ↔ ∃ x, t.text = some x ∧ K.contains x = true) := by
  have hs := h.sound
  refine ⟨hs.tokenStart_le, hs.position_le, hs.exists_ascii_prefix, hs.snippet_tokenSpan,
    fun c => ⟨position_le_call lx c, hs.fits_call c⟩, fun t ht => ?_⟩
  obtain rfl : lx.lexIdentifier.1 = t := by simpa using ht
  exact hs.lexIdentifier_keyword_iff

/-- After the word scan at the start of a source, the cursor is still inside it. -/
theorem word_scan_position_le :
    ((Lexer.ofString "a1 ?" KeywordSet.standard).call .lexIdentifier).2.position ≤
      "a1 ?".utf8ByteSize :=
  (reachable_calls_fit (.call .start .lexIdentifier)).2.1

end Lexer

end ExprLexer
